import Mathlib.Data.List.Nodup
import InlineCheck.Proofs.Session.Course

/-! # Tallies used as scopes

Runs in which tallies are entered and left only through their bodies.

Such a run leaves every activation as it found it (`Course.sameActivation`), so the tuple that a
tally brings back when its body ends is the one that was there when it began. From this follow

* `Course.located` — at every point the active tallies are the ones whose bodies enclose it;
* `Course.counted` — a counter grows by the assertions recorded inside the tally's bodies.
-/

namespace InlineCheck

/-- Tallies are neither entered nor left by hand. -/
structure ScopesOnly (allowed : Step → Bool) : Prop where
  enter : ∀ name, allowed (.enter name) = false
  leave : ∀ name, allowed (.leave name) = false

/-! ## Activations are put back -/

/-- The same tallies are active in the same context, and tallies remember the same activations. -/
structure SameActivation (s t : State) : Prop where
  id : t.context.id = s.context.id
  active : t.context.active = s.context.active
  activation : ∀ id, (t.tallies.get id).activation = (s.tallies.get id).activation

namespace SameActivation

theorem refl (s : State) : SameActivation s s := ⟨rfl, rfl, fun _ => rfl⟩

theorem of_books {s t : State} (same : SameBooks s t) : SameActivation s t :=
  ⟨by rw [same.context], by rw [same.context], fun _ => by rw [same.tallies]⟩

theorem trans {s t u : State} (h : SameActivation s t) (k : SameActivation t u) :
    SameActivation s u :=
  ⟨k.id.trans h.id, k.active.trans h.active, fun id => (k.activation id).trans (h.activation id)⟩

theorem modify {s : State} {id : TallyId} {f : Tally → Tally}
    (kept : ∀ t, (f t).activation = t.activation) :
    SameActivation s { s with tallies := s.tallies.modify id f } :=
  ⟨rfl, rfl, fun _ => Ledger.modify_view Tally.activation kept _ _ _⟩

theorem leave {s t : State} {id : TallyId} (idle : (s.tallies.get id).activation = none)
    (body : SameActivation (s.entered id) t) : SameActivation s (t.leave id).2 := by
  have here : t.context.id = s.context.id := body.id
  have remembered : (t.tallies.get id).activation = some ⟨t.context.id, s.context.active⟩ := by
    rw [body.activation, s.activation_entered_self, here]
  have others (id' : TallyId) (ne : id ≠ id') :
      ((t.released id).tallies.get id').activation = (s.tallies.get id').activation := by
    rw [t.get_released_of_ne ne, body.activation, s.get_entered_of_ne ne]
  rw [t.leave_of_here remembered]
  refine ⟨here, rfl, fun id' => ?_⟩
  by_cases same : id = id'
  · subst same
    rw [idle]
    exact t.activation_released_self id
  · exact others id' same

end SameActivation

/-- A run that enters and leaves tallies only through their bodies puts all activations back. -/
theorem Course.sameActivation {allowed : Step → Bool} (scopes : ScopesOnly allowed) {s t : State}
    {h : History} (c : Course allowed s h t) : SameActivation s t := by
  induction c with
  | rest s | reach s | tell s r c => exact .refl s
  | andThen _ _ first second => exact first.trans second
  | quiet same => exact .of_books same
  | record made => exact ⟨rfl, rfl, State.activation_record _ _⟩
  | enter ok => rw [scopes.enter] at ok; cases ok
  | leave ok => rw [scopes.leave] at ok; cases ok
  | assign _ | keep _ => exact .modify fun _ => rfl
  | block description outcome same _ body =>
    refine ⟨?_, ?_, fun id => ?_⟩
    · rw [← same.context]; exact body.id
    · rw [← same.context]; exact body.active
    · rw [State.activation_keep, ← same.tallies]; exact body.activation id
  | tally enters _ body =>
    -- the body put the tally's own activation back too, so leaving it restores what it remembers
    obtain ⟨idle, entered⟩ := State.enter_ok enters
    rw [entered] at body
    exact .leave idle body
  | report r _ body => exact ⟨body.id, body.active, body.activation⟩
  | thread _ body => exact ⟨rfl, rfl, body.activation⟩

/-! ## Active tallies are the enclosing ones -/

/-- No tally is active twice, and every active tally remembers an activation. -/
structure State.Sound (s : State) : Prop where
  nodup : s.context.active.Nodup
  remembered : ∀ id ∈ s.context.active, (s.tallies.get id).activation.isSome

namespace State.Sound

theorem of_sameActivation {s t : State} (same : SameActivation s t) (sound : s.Sound) :
    t.Sound where
  nodup := by rw [same.active]; exact sound.nodup
  remembered id member := by
    rw [same.activation]
    exact sound.remembered id (same.active ▸ member)

theorem entered {s : State} {id : TallyId} (sound : s.Sound)
    (idle : (s.tallies.get id).activation = none) : (s.entered id).Sound where
  nodup := by
    -- a tally that is not active has no activation, so it cannot be in the list yet
    have absent : id ∉ s.context.active := fun member => by
      simpa [idle] using sound.remembered id member
    exact List.nodup_append.mpr ⟨sound.nodup, List.nodup_singleton id, by
      rintro a member _ last rfl
      exact absent (List.mem_singleton.mp last ▸ member)⟩
  remembered id' member := by
    by_cases same : id = id'
    · subst same; rw [s.activation_entered_self]; rfl
    · rw [s.get_entered_of_ne same]
      rcases List.mem_append.mp member with before | last
      · exact sound.remembered id' before
      · exact absurd (List.mem_singleton.mp last).symm same

theorem fork (s : State) : s.fork.Sound where
  nodup := List.nodup_nil
  remembered _ member := nomatch member

theorem setBlock {s begun : State} (sound : s.Sound) (same : SameBooks s begun)
    (b : Option OpenBlock) : (begun.setBlock b).Sound := by
  refine ⟨?_, fun id member => ?_⟩
  · show begun.context.active.Nodup
    rw [same.context]
    exact sound.nodup
  · show (begun.tallies.get id).activation.isSome
    rw [same.tallies]
    exact sound.remembered id (same.context ▸ member)

theorem count_active {s : State} (sound : s.Sound) (id : TallyId) :
    s.context.active.count id = if id ∈ s.context.active then 1 else 0 :=
  sound.nodup.count

end State.Sound

/-- At every point of a run the active tallies are the ones whose bodies enclose it. -/
theorem Course.located {allowed : Step → Bool} (scopes : ScopesOnly allowed) {s t : State}
    {h : History} (c : Course allowed s h t) :
    s.Sound → ∀ o ∈ h, ∀ p, o.happening = .reached p →
      p.context.active = Frame.enclosing s.context.active o.frames ∧ p.context.active.Nodup := by
  induction c with
  | rest | quiet | enter | leave | assign | keep => intro _ o member; cases member
  | tell | record =>
    intro _ o member p reached
    cases List.mem_singleton.mp member
    cases reached
  | reach s =>
    intro sound o member p reached
    cases List.mem_singleton.mp member
    cases reached
    exact ⟨rfl, sound.nodup⟩
  | andThen first _ ihFirst ihSecond =>
    intro sound o member
    have same := first.sameActivation scopes
    rcases List.mem_append.mp member with before | after
    · exact ihFirst sound o before
    · rw [← same.active]
      exact ihSecond (sound.of_sameActivation same) o after
  | @block s begun _ _ description outcome same _ body =>
    intro sound o member p reached
    simp only [List.mem_cons, List.mem_append, List.not_mem_nil, or_false] at member
    rcases member with rfl | within | rfl | rfl
    · cases reached
    · obtain ⟨fs, x, inside, rfl⟩ := History.mem_within.mp within
      rw [← same.context]
      exact body (sound.setBlock same _) _ inside p reached
    · cases reached
    · cases reached
  | tally enters _ body =>
    intro sound o member p reached
    obtain ⟨idle, entered⟩ := State.enter_ok enters
    obtain ⟨fs, x, inside, rfl⟩ := History.mem_within.mp member
    rw [entered] at body
    exact body (sound.entered idle) _ inside p reached
  | report r _ body => exact fun sound => body ⟨sound.nodup, sound.remembered⟩
  | thread _ body =>
    -- nothing is active when a thread begins, and `enclosing` starts over at it
    intro _ o member p reached
    obtain ⟨fs, x, inside, rfl⟩ := History.mem_within.mp member
    exact body (.fork _) _ inside p reached

/-! ## Counters count what is recorded inside -/

namespace History

/-- The assertions recorded in the bodies of a tally, when those of `base` enclose the whole. -/
def recordedWithin (base : List TallyId) (id : TallyId) (h : History) : List Assertion :=
  h.select (fun fs => id ∈ Frame.enclosing base fs) Happening.assertion?

variable (base : List TallyId) (id : TallyId)

theorem recordedWithin_recorded (a : Assertion) :
    recordedWithin base id [⟨[], .recorded a⟩] = if id ∈ base then [a] else [] := by
  unfold recordedWithin
  rw [select_single]
  show (if decide (id ∈ base) = true then [a] else []) = _
  simp

theorem recordedWithin_append (h k : History) :
    recordedWithin base id (h ++ k) = recordedWithin base id h ++ recordedWithin base id k :=
  select_append _ _ h k

theorem recordedWithin_tally (i : TallyId) (h : History) :
    recordedWithin base id (within (.tally i) h) = recordedWithin (base ++ [i]) id h :=
  select_within _ _ _ h

theorem recordedWithin_thread (h : History) :
    recordedWithin base id (within .thread h) = recordedWithin [] id h :=
  select_within _ _ _ h

theorem recordedWithin_block (h : History) (r : Reporter) (description : Value) (b : Block) :
    recordedWithin base id (⟨[], .told r (.start description)⟩ ::
        (within .block h ++ [⟨[], .completed b⟩, ⟨[], .told r (.complete b)⟩])) =
      recordedWithin base id h :=
  select_assertions_block _ h r description b

end History

/-- A counter grows by the assertions recorded inside the bodies of its tally. -/
theorem Course.counted {allowed : Step → Bool} (scopes : ScopesOnly allowed)
    (unassigned : ∀ name p f, allowed (.assign name p f) = false) {s t : State} {h : History}
    (c : Course allowed s h t) (id : TallyId) (held : Bool) :
    s.Sound → (t.tallies.get id).counter held = (s.tallies.get id).counter held
      + ((h.recordedWithin s.context.active id).countP (·.passed = held) : Nat) := by
  induction c with
  | rest | reach | tell => intro _; simp [History.recordedWithin, History.select,
      Happening.assertion?]
  | quiet same => intro _; simp [History.recordedWithin, same.tallies]
  | enter ok => rw [scopes.enter] at ok; cases ok
  | leave ok => rw [scopes.leave] at ok; cases ok
  | assign ok => rw [unassigned] at ok; cases ok
  | keep _ =>
    intro _
    simpa [History.recordedWithin] using
      Ledger.modify_view (Tally.counter · held) (Tally.counter_keep · _ held) _ _ id
  | @record s _ _ a made =>
    -- soundness is what makes the assertion count once and not several times
    intro sound
    rw [State.counter_record, sound.count_active, History.recordedWithin_recorded]
    by_cases member : id ∈ s.context.active <;> by_cases passes : a.passed = held <;>
      simp [member, passes]
  | andThen first _ ihFirst ihSecond =>
    intro sound
    have same := first.sameActivation scopes
    rw [ihSecond (sound.of_sameActivation same), ihFirst sound, same.active,
      History.recordedWithin_append, List.countP_append]
    omega
  | block description outcome same _ body =>
    intro sound
    rw [State.counter_keep, History.recordedWithin_block, ← same.context, ← same.tallies]
    exact body (sound.setBlock same _)
  | tally enters _ body =>
    intro sound
    obtain ⟨idle, entered⟩ := State.enter_ok enters
    rw [State.counter_leave, body (entered ▸ sound.entered idle), State.counter_enter, entered,
      History.recordedWithin_tally]
    rfl
  | report r _ body => exact fun sound => body ⟨sound.nodup, sound.remembered⟩
  | thread _ body =>
    intro _
    rw [History.recordedWithin_thread]
    exact body (.fork _)

/-! ## Sessions -/

/-- A step that neither enters nor leaves a tally by hand, nor assigns its counters. -/
def Step.scopesOnly : Step → Bool
  | .enter _ | .leave _ | .assign .. => false
  | _ => true

/-- In every session whose tallies are activated only by their bodies, and whose counters are not
assigned: at every point of every thread the active tallies are, each once, the ones whose bodies
enclose that point in its thread, outermost first, and at the end none is active; and each counter
of each tally is the number of recorded assertions of its outcome that were made in the tally's
bodies, in the same thread. -/
theorem session_tallies_count_enclosed (env : Setting) (steps : List Step)
    (scopes : everyStep Step.scopesOnly steps = true) :
    (∀ o ∈ historyAll env steps {}, ∀ s, o.happening = .reached s →
      s.context.active = Frame.enclosing [] o.frames ∧ s.context.active.Nodup)
    ∧ (runAll env steps {}).2.context.active = []
    ∧ ∀ id,
      ((runAll env steps {}).2.tallies.get id).passed =
        (((historyAll env steps {}).recordedWithin [] id).countP (·.passed) : Nat)
      ∧ ((runAll env steps {}).2.tallies.get id).failed =
        (((historyAll env steps {}).recordedWithin [] id).countP (!·.passed) : Nat) := by
  have c := runAll_course env steps scopes {}
  have only : ScopesOnly Step.scopesOnly := ⟨fun _ => rfl, fun _ => rfl⟩
  have sound : ({} : State).Sound := ⟨List.nodup_nil, fun _ member => nomatch member⟩
  refine ⟨c.located only sound, (c.sameActivation only).active, fun id => ⟨?_, ?_⟩⟩
  · simpa [Tally.counter] using c.counted only (fun _ _ _ => rfl) id true sound
  · simpa [Tally.counter] using c.counted only (fun _ _ _ => rfl) id false sound

/-- A session that nests tallies and uses one again, with an entry that is refused, a fault that
leaves two bodies, and a thread. -/
def reusingSession : List Step :=
  [.attempt
    [.tally "a"
      [.assertion (.text "outer") (.bool true),
        .attempt [.tally "a" [.assertion (.text "refused") (.bool false)]],
        .thread [.assertion (.text "elsewhere") (.bool false)],
        .tally "b" [.check (.bool false) (.text "both"), .fail "ValueError" []]]],
    .tally "a" [.runTest (.text "again") [.assertion (.text "again") (.bool true)]]]

theorem reusingSession_counts :
    everyStep Step.scopesOnly reusingSession = true
    ∧ ((runAll {} reusingSession {}).2.tallies.get (.named "a")).passed = 2
    ∧ ((runAll {} reusingSession {}).2.tallies.get (.named "a")).failed = 1 := by
  have scopes : everyStep Step.scopesOnly reusingSession = true := by decide
  obtain ⟨_, _, counts⟩ := session_tallies_count_enclosed {} reusingSession scopes
  obtain ⟨passed, failed⟩ := counts (.named "a")
  have held : ((historyAll {} reusingSession {}).recordedWithin [] (.named "a")).countP
      (·.passed) = 2 := by decide +kernel
  have broken : ((historyAll {} reusingSession {}).recordedWithin [] (.named "a")).countP
      (!·.passed) = 1 := by decide +kernel
  exact ⟨scopes, by rw [passed, held]; rfl, by rw [failed, broken]; rfl⟩

end InlineCheck
