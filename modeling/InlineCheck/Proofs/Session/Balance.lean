import Mathlib.Algebra.GroupWithZero.Nat
import Mathlib.Algebra.Order.BigOperators.Group.List
import Mathlib.Algebra.Order.Group.Nat
import InlineCheck.Proofs.Session.Blocks
import InlineCheck.Proofs.Session.Nesting
import InlineCheck.Proofs.Session.Progress

/-! # Counters against blocks

A tally learns of an assertion when it is made, and of a block when it is completed. The two agree
at every point: what a tally has counted is what its blocks hold and what is loose, that is, what no
completed block of its own holds yet.

* `History.loose` — the assertions of a tally that lie in no completed block of its own.
* `Course.balanced` — a run that is over leaves loose what lies outside every such block.
* `Underway.accounts` — a run in progress, where blocks are still open, is balanced as well.

The non-trivial ingredient is `Course.settled`: whatever leaves a block, it is completed before
anything happens around it.
-/

namespace InlineCheck

/-! ## Blocks of a tally's own -/

namespace Block

/-- How many of its assertions held, or how many did not. -/
def counter (b : Block) (held : Bool) : Nat :=
  if held then b.passed else b.failed

theorem counter_eq (b : Block) (held : Bool) :
    b.counter held = b.results.countP (·.passed = held) := by
  cases held <;> simp [counter, passed, failed]

end Block

namespace Frame

theorem enclosing_cons (base : List TallyId) (f : Frame) (fs : List Frame) :
    enclosing base (f :: fs) = enclosing (enclosing base [f]) fs := by
  cases f <;> rfl

theorem not_mem_enclosing {base : List TallyId} {id : TallyId} {fs : List Frame} (idle : id ∉ base)
    (never : .tally id ∉ fs) : id ∉ enclosing base fs := by
  induction fs generalizing base with
  | nil => exact idle
  | cons f fs ih =>
    obtain ⟨other, later⟩ := not_or.mp (mt List.mem_cons.mpr never)
    cases f with
    | tally i =>
      have fresh : id ∉ base ++ [i] := by
        simp only [List.mem_append, List.mem_singleton, not_or]
        exact ⟨idle, fun same => other (by rw [same])⟩
      exact ih fresh later
    | block => exact ih idle later
    | thread => exact ih List.not_mem_nil later

/-- No block on the way to a place was begun while a tally was active. -/
def unheld (base : List TallyId) (id : TallyId) : List Frame → Bool
  | [] => true
  | .tally i :: fs => unheld (base ++ [i]) id fs
  | .block :: fs => id ∉ base && unheld base id fs
  | .thread :: fs => unheld [] id fs

theorem not_mem_enclosing_of_unheld {base : List TallyId} {id : TallyId} {fs gs : List Frame}
    (free : unheld base id fs = true) (around : gs ++ [.block] <+: fs) :
    id ∉ enclosing base gs := by
  induction fs generalizing base gs with
  | nil => simp at around
  | cons f fs ih =>
    cases gs with
    | nil =>
      obtain ⟨rfl, -⟩ := List.cons_prefix_cons.mp around
      simp only [unheld, Bool.and_eq_true, decide_eq_true_eq] at free
      exact free.1
    | cons g gs =>
      obtain ⟨rfl, inner⟩ := List.cons_prefix_cons.mp around
      rw [enclosing_cons]
      cases g with
      | tally i => exact ih free inner
      | block =>
        simp only [unheld, Bool.and_eq_true] at free
        exact ih free.2 inner
      | thread => exact ih free inner

-- A tally that is active is not entered again, so `once` is no restriction there. Then its
-- assertions are those of the same thread, and every block of that thread is its own.
theorem own_iff {base : List TallyId} {id : TallyId} {fs : List Frame} (active : id ∈ base)
    (once : .tally id ∉ fs) :
    id ∈ enclosing base fs ∧ unheld base id fs = true ↔ .block ∉ fs ∧ .thread ∉ fs := by
  induction fs generalizing base with
  | nil => simp [enclosing, unheld, active]
  | cons f fs ih =>
    have later : .tally id ∉ fs := fun member => once (List.mem_cons_of_mem f member)
    cases f with
    | tally i =>
      have inside := ih (List.mem_append_left [i] active) later
      simpa [enclosing, unheld] using inside
    | block => simp [unheld, active]
    | thread =>
      have gone : id ∉ enclosing [] fs := not_mem_enclosing List.not_mem_nil later
      simp [enclosing, gone]

end Frame

namespace History

/-- The blocks completed in the bodies of a tally, when those of `base` enclose the whole. -/
def keptWithin (base : List TallyId) (id : TallyId) (h : History) : List Block :=
  h.select (fun fs => id ∈ Frame.enclosing base fs) Happening.block?

/-- Whether a block around a place, begun while a tally was active, is completed in what follows. -/
def settles (base : List TallyId) (id : TallyId) (place : List Frame) (later : History) : Bool :=
  later.any fun o => o.happening.block?.isSome && id ∈ Frame.enclosing base o.frames
    && o.frames ++ [.block] <+: place

/-- The assertions of a tally that were made outside every block that was begun while the tally was
active and has been completed. -/
def loose (base : List TallyId) (id : TallyId) : History → List Assertion
  | [] => []
  | o :: later =>
    (if id ∈ Frame.enclosing base o.frames ∧ settles base id o.frames later = false
      then o.happening.assertion?.toList else []) ++ loose base id later

/-- The assertions of a tally made outside every block that was begun while it was active. -/
def free (base : List TallyId) (id : TallyId) (h : History) : List Assertion :=
  h.select (fun fs => id ∈ Frame.enclosing base fs ∧ Frame.unheld base id fs = true)
    Happening.assertion?

/-- Every block that something happened in, begun while a tally was active, is completed. -/
def Settled (base : List TallyId) (id : TallyId) : History → Prop
  | [] => True
  | o :: later =>
    (Frame.unheld base id o.frames = true ∨ settles base id o.frames later = true)
      ∧ Settled base id later

section

variable {base : List TallyId} {id : TallyId}

theorem settles_append (place : List Frame) (h k : History) :
    settles base id place (h ++ k) = (settles base id place h || settles base id place k) :=
  List.any_append

theorem settles_within (f : Frame) (place : List Frame) (h : History) :
    settles base id (f :: place) (within f h) = settles (Frame.enclosing base [f]) id place h := by
  simp only [settles, within, List.any_map]
  congr 1
  funext o
  simp [Frame.enclosing_cons base f o.frames]

theorem settles_of_unheld {place : List Frame} (free : Frame.unheld base id place = true)
    (later : History) : settles base id place later = false := by
  refine List.any_eq_false.mpr fun o _ => ?_
  intro completes
  simp only [Bool.and_eq_true, decide_eq_true_eq] at completes
  exact Frame.not_mem_enclosing_of_unheld free completes.2 completes.1.2

theorem loose_within (f : Frame) (h : History) :
    loose base id (within f h) = loose (Frame.enclosing base [f]) id h := by
  induction h with
  | nil => rfl
  | cons o h ih =>
    show loose base id (⟨f :: o.frames, o.happening⟩ :: within f h) = _
    simp only [loose, ih, settles_within, Frame.enclosing_cons base f o.frames]

/-! ## Histories in which every block is completed -/

theorem Settled.append {h k : History} (first : Settled base id h) (second : Settled base id k) :
    Settled base id (h ++ k) := by
  induction h with
  | nil => exact second
  | cons o h ih =>
    refine ⟨first.1.imp_right fun settled => ?_, ih first.2⟩
    show settles base id o.frames (h ++ k) = true
    rw [settles_append, settled, Bool.true_or]

theorem Settled.single (x : Happening) : Settled base id [⟨[], x⟩] :=
  ⟨.inl rfl, trivial⟩

theorem Settled.within {f : Frame} (same : ∀ fs, Frame.unheld base id (f :: fs)
    = Frame.unheld (Frame.enclosing base [f]) id fs) {h : History}
    (inside : Settled (Frame.enclosing base [f]) id h) : Settled base id (within f h) := by
  induction h with
  | nil => trivial
  | cons o h ih =>
    refine ⟨?_, ih inside.2⟩
    show Frame.unheld base id (f :: o.frames) = true
      ∨ settles base id (f :: o.frames) (History.within f h) = true
    rw [same, settles_within]
    exact inside.1

theorem Settled.block {h : History} (inside : Settled base id h) (b : Block) :
    Settled base id (History.within .block h ++ [⟨[], .completed b⟩]) := by
  induction h with
  | nil => exact .single _
  | cons o h ih =>
    refine ⟨?_, ih inside.2⟩
    show Frame.unheld base id (.block :: o.frames) = true
      ∨ settles base id (.block :: o.frames)
          (History.within .block h ++ [⟨[], .completed b⟩]) = true
    rw [settles_append, settles_within]
    by_cases active : id ∈ base
    · -- the completion of this block settles all that lies in it
      right
      simp [settles, Happening.block?, Frame.enclosing, active]
    · rcases inside.1 with free | settled
      · left
        simp [Frame.unheld, active, free]
      · right
        rw [show Frame.enclosing base [.block] = base from rfl, settled, Bool.true_or]

/-- What follows a history in which every block is completed settles nothing of it. -/
theorem loose_append_of_settled {h : History} (settled : Settled base id h) (k : History) :
    loose base id (h ++ k) = free base id h ++ loose base id k := by
  induction h with
  | nil => rfl
  | cons o h ih =>
    have settledNow : settles base id o.frames (h ++ k) = false
        ↔ Frame.unheld base id o.frames = true := by
      constructor
      · intro unsettled
        rw [settles_append, Bool.or_eq_false_iff] at unsettled
        exact settled.1.resolve_right (by simp [unsettled.1])
      · exact fun free => settles_of_unheld free _
    rw [List.cons_append, loose, ih settled.2, free, free, select_cons, List.append_assoc]
    simp only [settledNow, decide_eq_true_eq]

theorem Settled.loose_eq {h : History} (settled : Settled base id h) :
    loose base id h = free base id h := by
  simpa [loose] using loose_append_of_settled settled []

theorem recordedWithin_within (f : Frame) (h : History) :
    recordedWithin base id (within f h) = recordedWithin (Frame.enclosing base [f]) id h := by
  cases f <;> exact select_within _ _ _ h

theorem keptWithin_within (f : Frame) (h : History) :
    keptWithin base id (within f h) = keptWithin (Frame.enclosing base [f]) id h := by
  cases f <;> exact select_within _ _ _ h

theorem keptWithin_append (h k : History) :
    keptWithin base id (h ++ k) = keptWithin base id h ++ keptWithin base id k :=
  select_append _ _ h k

theorem keptWithin_block (h : History) (r : Reporter) (description : Value) (b : Block) :
    keptWithin base id (⟨[], .told r (.start description)⟩ ::
        (within .block h ++ [⟨[], .completed b⟩, ⟨[], .told r (.complete b)⟩])) =
      keptWithin base id h ++ if id ∈ base then [b] else [] := by
  refine (select_blocks_block _ h r description b).trans ?_
  show keptWithin base id h ++ (if decide (id ∈ base) = true then [b] else []) = _
  simp only [decide_eq_true_eq]

theorem free_recorded (a : Assertion) :
    free base id [⟨[], .recorded a⟩] = if id ∈ base then [a] else [] := by
  by_cases active : id ∈ base <;>
    simp [free, select, Happening.assertion?, Frame.enclosing, Frame.unheld, active]

theorem free_append (h k : History) : free base id (h ++ k) = free base id h ++ free base id k :=
  select_append _ _ h k

theorem free_block (h : History) (r : Reporter) (description : Value) (b : Block) :
    free base id (⟨[], .told r (.start description)⟩ ::
        (within .block h ++ [⟨[], .completed b⟩, ⟨[], .told r (.complete b)⟩])) =
      if id ∈ base then [] else free base id h := by
  unfold free
  rw [select_assertions_block]
  by_cases active : id ∈ base
  · simp [Frame.unheld, active, select_never]
  · simp [Frame.enclosing, Frame.unheld, active]

theorem free_tally (i : TallyId) (h : History) :
    free base id (within (.tally i) h) = free (base ++ [i]) id h :=
  select_within _ _ _ h

theorem free_thread (h : History) : free base id (within .thread h) = free [] id h :=
  select_within _ _ _ h

theorem free_eq_direct {h : History} (active : id ∈ base) (once : ∀ o ∈ h, .tally id ∉ o.frames) :
    free base id h = h.direct :=
  select_congr _ fun o member => decide_eq_decide.mpr (Frame.own_iff active (once o member))

end

end History

/-! ## Runs that are over -/

section Courses

variable {allowed : Step → Bool} {s t : State} {h : History}

theorem Course.settled (c : Course allowed s h t) (id : TallyId) :
    ∀ base, h.Settled base id := by
  induction c with
  | rest | quiet | enter | leave | assign | keep => exact fun _ => trivial
  | reach | tell | record => exact fun _ => .single _
  | andThen _ _ first second => exact fun base => (first base).append (second base)
  | @block s begun t h description outcome _ _ body =>
    intro base
    have closed := (body base).block (.ofBody description begun.clock outcome t)
    have ended := closed.append
      (.single (.told s.reporter (.complete (.ofBody description begun.clock outcome t))))
    simpa using (History.Settled.single (.told s.reporter (.start description))).append ended
  | tally _ _ body => exact fun base => .within (fun _ => rfl) (body _)
  | report _ _ body => exact body
  | thread _ body => exact fun base => .within (fun _ => rfl) (body _)

theorem Course.not_reentered (scopes : ScopesOnly allowed) (c : Course allowed s h t)
    {id : TallyId} :
    (s.tallies.get id).activation.isSome → ∀ o ∈ h, .tally id ∉ o.frames := by
  induction c with
  | rest | quiet | enter | leave | assign | keep => exact fun _ _ member => nomatch member
  | reach | tell | record =>
    intro _ o member
    cases List.mem_singleton.mp member
    exact List.not_mem_nil
  | andThen first _ ihFirst ihSecond =>
    intro active o member
    rcases List.mem_append.mp member with early | late
    · exact ihFirst active o early
    · refine ihSecond ?_ o late
      rw [(first.sameActivation scopes).activation]
      exact active
  | block description outcome same _ body =>
    intro active o member
    simp only [List.mem_cons, List.mem_append, List.not_mem_nil, or_false] at member
    rcases member with rfl | inside | rfl | rfl
    · exact List.not_mem_nil
    · obtain ⟨fs, x, place, rfl⟩ := History.mem_within.mp inside
      have later : .tally id ∉ fs := body (by rw [← same.tallies] at active; exact active) _ place
      simpa using later
    · exact List.not_mem_nil
    · exact List.not_mem_nil
  | @tally s t h name enters _ body =>
    intro active o member
    obtain ⟨fs, x, place, rfl⟩ := History.mem_within.mp member
    obtain ⟨idle, entered⟩ := State.enter_ok enters
    have other : TallyId.named name ≠ id := by
      rintro rfl
      simp [idle] at active
    have later : .tally id ∉ fs := by
      refine body ?_ _ place
      rw [entered, s.get_entered_of_ne other]
      exact active
    simpa [Ne.symm other] using later
  | report r _ body => exact body
  | thread _ body =>
    intro active o member
    obtain ⟨fs, x, place, rfl⟩ := History.mem_within.mp member
    have later : .tally id ∉ fs := body active _ place
    simpa using later

theorem Course.kept (scopes : ScopesOnly allowed)
    (unkept : ∀ name b, allowed (.keep name b) = false) (c : Course allowed s h t) (id : TallyId) :
    s.Sound → (t.tallies.get id).blocks
      = (s.tallies.get id).blocks ++ h.keptWithin s.context.active id := by
  induction c with
  | rest | reach | tell => intro _; simp [History.keptWithin, History.select, Happening.block?]
  | quiet same => intro _; simp [History.keptWithin, same.tallies]
  | record => intro _; simp [History.keptWithin, History.select, Happening.block?]
  | enter ok => rw [scopes.enter] at ok; cases ok
  | leave ok => rw [scopes.leave] at ok; cases ok
  | keep ok => rw [unkept] at ok; cases ok
  | @assign s name passed failed _ =>
    intro _
    have same := Ledger.modify_view Tally.blocks (f := ({ · with passed, failed })) (fun _ => rfl)
      s.tallies (.named name) id
    simpa [History.keptWithin] using same
  | andThen first _ ihFirst ihSecond =>
    intro sound
    have same := first.sameActivation scopes
    rw [ihSecond (sound.of_sameActivation same), ihFirst sound, same.active,
      History.keptWithin_append, List.append_assoc]
  | @block s begun t _ description outcome same inner body =>
    intro sound
    have begins := sound.setBlock same (some { description })
    have inside := body begins
    -- what is active after the body is what was active before it, and each tally once
    have active : ((t.setBlock begun.context.block).context.active).count id
        = if id ∈ begun.context.active then 1 else 0 := by
      show t.context.active.count id = _
      rw [(inner.sameActivation scopes).active]
      exact begins.count_active id
    rw [State.blocks_keep, active, History.keptWithin_block, ← same.context, ← same.tallies,
      ← List.append_assoc]
    congr 1
    split <;> rfl
  | tally enters _ body =>
    intro sound
    obtain ⟨idle, entered⟩ := State.enter_ok enters
    rw [State.blocks_leave, body (entered ▸ sound.entered idle), State.blocks_enter, entered,
      History.keptWithin_within]
    rfl
  | report r _ body => exact fun sound => body ⟨sound.nodup, sound.remembered⟩
  | thread _ body =>
    intro _
    rw [History.keptWithin_within]
    exact body (.fork _)

/-- The assertions that a tally counts in a run are those that its blocks hold, and those that were
made outside every block begun while it was active. -/
theorem Course.balanced (scopes : ScopesOnly allowed) (c : Course allowed s h t) (id : TallyId)
    (held : Bool) :
    s.Sound → (h.recordedWithin s.context.active id).countP (·.passed = held)
      = ((h.keptWithin s.context.active id).map (·.counter held)).sum
        + (h.free s.context.active id).countP (·.passed = held) := by
  induction c with
  | rest | quiet | enter | leave | assign | keep => intro _; rfl
  | reach | tell =>
    intro _
    simp [History.recordedWithin, History.keptWithin, History.free, History.select,
      Happening.assertion?, Happening.block?]
  | @record s _ _ a _ =>
    intro _
    have none : History.keptWithin s.context.active id [⟨[], .recorded a⟩] = [] := by
      simp [History.keptWithin, History.select, Happening.block?]
    rw [History.recordedWithin_recorded, History.free_recorded, none]
    simp
  | andThen first _ ihFirst ihSecond =>
    intro sound
    have same := first.sameActivation scopes
    have early := ihFirst sound
    have late := ihSecond (sound.of_sameActivation same)
    rw [same.active] at late
    simp only [History.recordedWithin_append, History.keptWithin_append, History.free_append,
      List.countP_append, List.map_append, List.sum_append]
    omega
  | @block s begun t h description outcome same inner body =>
    intro sound
    have begins := sound.setBlock same (some { description })
    have inside := body begins
    rw [History.recordedWithin_block, History.keptWithin_block, History.free_block, ← same.context]
    by_cases active : id ∈ begun.context.active
    · -- the block holds what its body left loose
      have once := inner.not_reentered scopes (begins.remembered id active)
      have results : (Block.ofBody description begun.clock outcome t).results = h.direct := by
        show t.collected = _
        unfold State.collected
        rw [inner.collects]
        simp [State.setBlock, OpenBlock.collect]
      have holds := (Block.ofBody description begun.clock outcome t).counter_eq held
      rw [results, ← History.free_eq_direct active once] at holds
      simp only [active, if_true, List.map_append, List.sum_append, List.map_cons, List.map_nil,
        List.sum_cons, List.sum_nil, List.countP_nil, holds]
      exact inside
    · simp only [active, if_false, List.append_nil]
      exact inside
  | tally enters _ body =>
    intro sound
    obtain ⟨idle, entered⟩ := State.enter_ok enters
    rw [History.recordedWithin_within, History.keptWithin_within, History.free_tally]
    have inside := body (entered ▸ sound.entered idle)
    rw [entered] at inside
    exact inside
  | report r _ body => exact fun sound => body ⟨sound.nodup, sound.remembered⟩
  | thread _ body =>
    intro _
    rw [History.recordedWithin_within, History.keptWithin_within, History.free_thread]
    exact body (.fork _)

end Courses

/-! ## Runs in progress -/

/-- A tally, known before and after a history, has counted and kept what happened in its bodies, and
it has counted what its new blocks hold and what is loose. -/
structure Accounts (base : List TallyId) (id : TallyId) (before : Tally) (h : History)
    (after : Tally) : Prop where
  counter : ∀ held, after.counter held
    = before.counter held + ((h.recordedWithin base id).countP (·.passed = held) : Nat)
  blocks : after.blocks = before.blocks ++ h.keptWithin base id
  balance : ∀ held, (h.recordedWithin base id).countP (·.passed = held)
    = ((h.keptWithin base id).map (·.counter held)).sum
      + (h.loose base id).countP (·.passed = held)

namespace Accounts

variable {base : List TallyId} {id : TallyId} {t u v : Tally} {h k : History}

theorem nothing (counter : ∀ held, u.counter held = t.counter held) (blocks : u.blocks = t.blocks) :
    Accounts base id t [] u :=
  ⟨fun held => (counter held).trans (Int.add_zero _).symm, blocks.trans (List.append_nil _).symm,
    fun _ => rfl⟩

theorem trans (first : Accounts base id t h u) (settled : h.Settled base id)
    (second : Accounts base id u k v) : Accounts base id t (h ++ k) v := by
  refine ⟨fun held => ?_, ?_, fun held => ?_⟩
  · rw [second.counter, first.counter, History.recordedWithin_append, List.countP_append]
    omega
  · rw [second.blocks, first.blocks, History.keptWithin_append, List.append_assoc]
  · -- nothing that follows can settle what the first part left loose
    have early := first.balance held
    have late := second.balance held
    rw [settled.loose_eq] at early
    simp only [History.recordedWithin_append, History.keptWithin_append,
      History.loose_append_of_settled settled, List.countP_append, List.map_append, List.sum_append]
    omega

theorem within {f : Frame} (inside : Accounts (Frame.enclosing base [f]) id t h u) :
    Accounts base id t (History.within f h) u := by
  refine ⟨fun held => ?_, ?_, fun held => ?_⟩
  · rw [History.recordedWithin_within]
    exact inside.counter held
  · rw [History.keptWithin_within]
    exact inside.blocks
  · rw [History.recordedWithin_within, History.keptWithin_within, History.loose_within]
    exact inside.balance held

theorem told (r : Reporter) (c : Call) : Accounts base id t [⟨[], .told r c⟩] t := by
  refine ⟨fun held => ?_, ?_, fun held => ?_⟩ <;>
    simp [History.recordedWithin, History.keptWithin, History.loose, History.select,
      Happening.assertion?, Happening.block?]

end Accounts

section Progress

variable {allowed : Step → Bool} {s t : State} {h : History}

theorem Course.accounts (scopes : ScopesOnly allowed)
    (unassigned : ∀ name p f, allowed (.assign name p f) = false)
    (unkept : ∀ name b, allowed (.keep name b) = false) (c : Course allowed s h t) (id : TallyId)
    (sound : s.Sound) :
    Accounts s.context.active id (s.tallies.get id) h (t.tallies.get id) := by
  refine ⟨fun held => c.counted scopes unassigned id held sound, c.kept scopes unkept id sound,
    fun held => ?_⟩
  rw [(c.settled id _).loose_eq]
  exact c.balanced scopes id held sound

theorem Underway.accounts (scopes : ScopesOnly allowed)
    (unassigned : ∀ name p f, allowed (.assign name p f) = false)
    (unkept : ∀ name b, allowed (.keep name b) = false) (u : Underway allowed s h t)
    (id : TallyId) :
    s.Sound → Accounts s.context.active id (s.tallies.get id) h (t.tallies.get id) := by
  induction u with
  | here s => exact fun _ => .nothing (fun _ => rfl) rfl
  | andThen first _ second =>
    intro sound
    have same := first.sameActivation scopes
    have later := second (sound.of_sameActivation same)
    rw [same.active] at later
    exact (first.accounts scopes unassigned unkept id sound).trans (first.settled id _) later
  | @block s begun p h description same _ inside =>
    intro sound
    have body := inside (sound.setBlock same _)
    rw [← same.context, ← same.tallies]
    exact (Accounts.told _ _).trans (.single _) (.within body)
  | @tally s p h name enters _ inside =>
    intro sound
    obtain ⟨idle, entered⟩ := State.enter_ok enters
    have opens : Accounts s.context.active id (s.tallies.get id) []
        ((s.enter (.named name)).2.tallies.get id) := .nothing (by simp) (by simp)
    rw [entered] at inside opens
    exact opens.trans trivial (.within (inside (sound.entered idle)))
  | report r _ inside => exact fun sound => inside ⟨sound.nodup, sound.remembered⟩
  | thread _ inside => exact fun _ => .within (inside (.fork _))

end Progress

/-! ## Sessions -/

theorem Course.completed_status {allowed : Step → Bool} {s t : State} {h : History}
    (c : Course allowed s h t) : ∀ o ∈ h, ∀ b, o.happening = .completed b →
      b.status = Block.statusOf b.results b.fault := by
  induction c with
  | rest | quiet | enter | leave | assign | keep => intro o member; cases member
  | reach | tell | record =>
    intro o member b completed
    cases List.mem_singleton.mp member
    cases completed
  | andThen _ _ first second =>
    intro o member
    rcases List.mem_append.mp member with early | late
    · exact first o early
    · exact second o late
  | block description outcome _ _ body =>
    intro o member b completed
    simp only [List.mem_cons, List.mem_append, List.not_mem_nil, or_false] at member
    rcases member with rfl | within | rfl | rfl
    · cases completed
    · obtain ⟨fs, x, inside, rfl⟩ := History.mem_within.mp within
      exact body _ inside b completed
    · cases completed
      rfl
    · cases completed
  | tally _ _ body | thread _ body =>
    intro o member b completed
    obtain ⟨fs, x, inside, rfl⟩ := History.mem_within.mp member
    exact body _ inside b completed
  | report r _ body => exact body

/-- What a tally has counted after a history agrees with the blocks it has kept. -/
structure Reconciled (h : History) (id : TallyId) (t : Tally) : Prop where
  passed : t.passed = (t.blocks.map Block.passed).sum + (h.loose [] id).countP (·.passed)
  failed : t.failed = (t.blocks.map Block.failed).sum + (h.loose [] id).countP (!·.passed)
  total : t.total = (t.blocks.map fun b => b.passed + b.failed).sum + (h.loose [] id).length
  clean : t.exitCode = 0 → ∀ b ∈ t.blocks, b.status = .passed

namespace Reconciled

theorem of_accounts {h : History} {id : TallyId} {t : Tally} (accounts : Accounts [] id {} h t)
    (statuses : ∀ b ∈ h.keptWithin [] id, b.status = Block.statusOf b.results b.fault) :
    Reconciled h id t := by
  have blocks : t.blocks = h.keptWithin [] id := by simpa using accounts.blocks
  have passed : t.passed = (t.blocks.map Block.passed).sum + (h.loose [] id).countP (·.passed) := by
    have counter := accounts.counter true
    rw [accounts.balance true, ← blocks] at counter
    simpa [Tally.counter, Block.counter] using counter
  have failed : t.failed = (t.blocks.map Block.failed).sum +
      (h.loose [] id).countP (!·.passed) := by
    have counter := accounts.counter false
    rw [accounts.balance false, ← blocks] at counter
    simpa [Tally.counter, Block.counter] using counter
  refine ⟨passed, failed, ?_, fun zero b member => ?_⟩
  · have parts : (h.loose [] id).length
        = (h.loose [] id).countP (·.passed) + (h.loose [] id).countP (!·.passed) := by
      simpa using List.length_eq_countP_add_countP (fun a : Assertion => a.passed)
        (l := h.loose [] id)
    unfold Tally.total
    rw [passed, failed, List.sum_map_add, parts]
    push_cast
    omega
  · -- no error, and no block with a broken assertion
    obtain ⟨unbroken, errorless⟩ : t.failed = 0 ∧ t.errors = 0 := by
      simpa [Tally.exitCode, Tally.ok] using zero
    have sound : b.status ≠ .error := by
      have none := List.countP_eq_zero.mp errorless b member
      simpa using none
    have whole : b.failed = 0 := by
      have bound := List.le_sum_of_mem (List.mem_map_of_mem (f := Block.failed) member)
      omega
    have status := statuses b (blocks ▸ member)
    cases found : b.status with
    | passed => rfl
    | error => exact absurd found sound
    | failed =>
      obtain ⟨-, a, inside, broken⟩ := Block.statusOf_eq_failed_iff.mp (status.symm.trans found)
      have none := List.countP_eq_zero.mp whole a inside
      simp [broken] at none

end Reconciled

/-- A step that changes no tally by hand. -/
def Step.handsOff : Step → Bool
  | .enter _ | .leave _ | .assign .. | .keep .. => false
  | _ => true

theorem History.mem_of_mem_keptWithin {base : List TallyId} {id : TallyId} {h : History} {b : Block}
    (member : b ∈ h.keptWithin base id) : ∃ o ∈ h, o.happening = .completed b := by
  obtain ⟨o, inside, found⟩ := List.mem_filterMap.mp member
  refine ⟨o, inside, ?_⟩
  split at found
  · cases what : o.happening with
    | completed b' =>
      rw [what] at found
      cases found
      rfl
    | reached | recorded | told =>
      rw [what] at found
      cases found
  · cases found

/-- In every session whose tallies are activated only by their bodies and are not changed by hand,
at every point that it reaches and at its end, every tally has counted what its blocks hold and what
was made outside every block that was begun while it was active and has been completed; so a tally
without failures has kept none but passed blocks. -/
theorem session_counters_match_blocks (env : Setting) (steps : List Step)
    (untouched : everyStep Step.handsOff steps = true) :
    (∀ before fs s after, historyAll env steps {} = before ++ ⟨fs, .reached s⟩ :: after →
      s.context.active = Frame.enclosing [] fs ∧ ∀ id, Reconciled before id (s.tallies.get id))
    ∧ ∀ id, Reconciled (historyAll env steps {}) id ((runAll env steps {}).2.tallies.get id) := by
  have c := runAll_course env steps untouched {}
  have only : ScopesOnly Step.handsOff := ⟨fun _ => rfl, fun _ => rfl⟩
  have sound : ({} : State).Sound := ⟨List.nodup_nil, fun _ member => nomatch member⟩
  have reconciled {h : History} {t : State} (past : h ⊆ historyAll env steps {})
      (u : Underway Step.handsOff {} h t) (id : TallyId) : Reconciled h id (t.tallies.get id) := by
    refine .of_accounts (u.accounts only (fun _ _ _ => rfl) (fun _ _ => rfl) id sound) ?_
    intro b member
    obtain ⟨o, inside, completed⟩ := History.mem_of_mem_keptWithin member
    exact c.completed_status o (past inside) b completed
  refine ⟨fun before fs s after split => ⟨?_, ?_⟩, ?_⟩
  · exact (c.located only sound ⟨fs, .reached s⟩ (by simp [split]) s rfl).1
  · exact reconciled (by simp [split]) (c.underway split)
  · have ended := Underway.andThen c (.here _)
    rw [List.append_nil] at ended
    exact reconciled (List.Subset.refl _) ended

/-- A session with a point at which one block of a tally is done and the one around it is open. -/
def midwaySession : List Step :=
  [.tally "t"
    [.assertion (.text "first") (.bool true),
      .runTest (.text "outer")
        [.assertion (.text "open") (.bool true),
          .runTest (.text "inner") [.check (.bool false) (.text "done")],
          .surroundings]]]

theorem midwaySession_totals :
    everyStep Step.handsOff midwaySession = true
    ∧ (∃ (before : History) (s : State) (after : History),
        historyAll {} midwaySession {} =
          before ++ ⟨[.tally (.named "t"), .block], .reached s⟩ :: after
        ∧ (before.loose [] (.named "t")).map (·.text) = ["first", "open"]
        ∧ (s.tallies.get (.named "t")).blocks.length = 1
        ∧ (s.tallies.get (.named "t")).total = 3)
    ∧ ((runAll {} midwaySession {}).2.tallies.get (.named "t")).total = 3 := by
  have untouched : everyStep Step.handsOff midwaySession = true := by decide
  obtain ⟨points, ends⟩ := session_counters_match_blocks {} midwaySession untouched
  refine ⟨untouched, ⟨(historyAll {} midwaySession {}).take 17, _, _,
    (List.take_append_drop 17 _).symm, ?_, ?_, ?_⟩, ?_⟩
  · decide +kernel
  · decide +kernel
  · rw [((points _ _ _ _ (List.take_append_drop 17 _).symm).2 (.named "t")).total]
    decide +kernel
  · rw [(ends (.named "t")).total]
    decide +kernel

end InlineCheck
