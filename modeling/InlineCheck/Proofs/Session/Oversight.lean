import InlineCheck.Proofs.Session.Course

/-! # The command's own tally

A program runs while the command's tally is active in the first context. The program can enter and
leave its own tallies there in any order, and an exit brings back a whole tuple; yet no tuple that
any of them remembers lacks the command's tally.

* `State.Guarded` — the invariant: in the first context the command's tally comes first and occurs
  once, in what is active and in what every tally of the program remembers; elsewhere it does not
  occur.
* `Course.guarded` — every run keeps it.
* `Course.overseen` — so the command's tally counts what the first context records, once.
-/

namespace InlineCheck

/-! ## The invariant -/

/-- What may be active in a context: in the first one the command's tally comes first and occurs
once, and in others it does not occur. -/
structure Fits (context : Nat) (ids : List TallyId) : Prop where
  first : context = 0 → ids.head? = some .command
  count : ids.count .command = if context = 0 then 1 else 0

namespace Fits

theorem concat {context : Nat} {ids : List TallyId} (fits : Fits context ids) (name : String) :
    Fits context (ids ++ [.named name]) where
  first main := by rw [List.head?_append, fits.first main]; rfl
  count := by
    rw [List.count_append, fits.count]
    simp

theorem nil {context : Nat} (other : context ≠ 0) : Fits context [] where
  first main := absurd main other
  count := by simp [other]

end Fits

namespace State

/-- The command's tally is safe from the program's own. -/
structure Guarded (s : State) : Prop where
  active : Fits s.context.id s.context.active
  saved : ∀ name a, (s.tallies.get (.named name)).activation = some a → Fits a.context a.before
  own : (s.tallies.get .command).activation = some ⟨0, []⟩
  contexts : 0 < s.contexts

namespace Guarded

theorem of_activation {s t : State} (guarded : s.Guarded)
    (active : Fits t.context.id t.context.active)
    (activation : ∀ id, (t.tallies.get id).activation = (s.tallies.get id).activation)
    (contexts : 0 < t.contexts) : t.Guarded where
  active := active
  saved name a found := guarded.saved name a (activation _ ▸ found)
  own := (activation _).trans guarded.own
  contexts := contexts

theorem modify {s : State} {id : TallyId} {f : Tally → Tally} (guarded : s.Guarded)
    (kept : ∀ t, (f t).activation = t.activation) :
    State.Guarded { s with tallies := s.tallies.modify id f } :=
  guarded.of_activation guarded.active
    (fun _ => Ledger.modify_view Tally.activation kept _ _ _) guarded.contexts

theorem setBlock {s begun : State} (guarded : s.Guarded) (same : SameBooks s begun)
    (b : Option OpenBlock) : (begun.setBlock b).Guarded := by
  refine guarded.of_activation ?_ (fun id => ?_) ?_
  · show Fits begun.context.id begun.context.active
    rw [same.context]
    exact guarded.active
  · show (begun.tallies.get id).activation = _
    rw [same.tallies]
  · show 0 < begun.contexts
    rw [same.contexts]
    exact guarded.contexts

theorem enter {s : State} (guarded : s.Guarded) (name : String) :
    (s.enter (.named name)).2.Guarded := by
  rcases s.enter_cases (.named name) with ⟨_, refused⟩ | ⟨_, enters⟩
  · rw [refused]; exact guarded
  · rw [enters]
    refine ⟨guarded.active.concat name, fun name' a found => ?_, ?_, guarded.contexts⟩
    · -- what the new tally remembers is what is active now, and that fits
      by_cases same : TallyId.named name = .named name'
      · rw [← same, s.activation_entered_self] at found
        cases found
        exact guarded.active
      · rw [s.get_entered_of_ne same] at found
        exact guarded.saved name' a found
    · rw [s.get_entered_of_ne (nofun : TallyId.named name ≠ .command)]
      exact guarded.own

theorem released {s : State} (guarded : s.Guarded) (name : String) :
    (s.released (.named name)).Guarded := by
  refine ⟨guarded.active, fun name' a found => ?_, ?_, guarded.contexts⟩
  · by_cases same : TallyId.named name = .named name'
    · rw [← same, s.activation_released_self] at found
      cases found
    · rw [s.get_released_of_ne same] at found
      exact guarded.saved name' a found
  · rw [s.get_released_of_ne (nofun : TallyId.named name ≠ .command)]
    exact guarded.own

theorem leave {s : State} (guarded : s.Guarded) (name : String) :
    (s.leave (.named name)).2.Guarded := by
  have released := guarded.released name
  rcases s.leave_cases (.named name) with ⟨_, idle⟩ | ⟨before, found, restored⟩ | ⟨_, _, _, foreign⟩
  · rw [idle]; exact guarded
  · -- the tuple that comes back was saved in this very context
    rw [restored]
    exact ⟨guarded.saved name _ found, released.saved, released.own, released.contexts⟩
  · rw [foreign]; exact released

theorem fork {s : State} (guarded : s.Guarded) : s.fork.Guarded where
  active := .nil (Nat.ne_of_gt guarded.contexts)
  saved := guarded.saved
  own := guarded.own
  contexts := Nat.succ_pos _

end Guarded

end State

theorem Course.context_id {allowed : Step → Bool} {s t : State} {h : History}
    (c : Course allowed s h t) : t.context.id = s.context.id := by
  induction c with
  | rest | reach | tell | record | assign | keep | thread => rfl
  | andThen _ _ first second => exact second.trans first
  | quiet same => rw [same.context]
  | enter => exact State.enter_context_view Context.id (fun _ _ => rfl) _ _
  | leave => exact State.leave_context_view Context.id (fun _ _ => rfl) _ _
  | block description outcome same _ body => rw [← same.context]; exact body
  | tally _ _ body =>
    rw [State.leave_context_view Context.id fun _ _ => rfl, body]
    exact State.enter_context_view Context.id (fun _ _ => rfl) _ _
  | report r _ body => exact body

theorem Course.guarded {allowed : Step → Bool} {s t : State} {h : History}
    (c : Course allowed s h t) : s.Guarded → t.Guarded := by
  induction c with
  | rest | reach | tell => exact id
  | andThen _ _ first second => exact second ∘ first
  | quiet same =>
    intro guarded
    refine guarded.of_activation ?_ (fun _ => by rw [same.tallies]) ?_
    · rw [same.context]; exact guarded.active
    · rw [same.contexts]; exact guarded.contexts
  | record _ =>
    intro guarded
    exact guarded.of_activation guarded.active (State.activation_record _ _) guarded.contexts
  | enter _ => exact fun guarded => guarded.enter _
  | leave _ => exact fun guarded => guarded.leave _
  | assign _ | keep _ => exact fun guarded => guarded.modify fun _ => rfl
  | block description outcome same _ body =>
    intro guarded
    have inside := body (guarded.setBlock same _)
    exact inside.of_activation inside.active (State.activation_keep _ _) inside.contexts
  | tally _ _ body => exact fun guarded => (body (guarded.enter _)).leave _
  | report r _ body =>
    intro guarded
    have inside := body ⟨guarded.active, guarded.saved, guarded.own, guarded.contexts⟩
    exact ⟨inside.active, inside.saved, inside.own, inside.contexts⟩
  | thread _ body =>
    intro guarded
    have inside := body guarded.fork
    exact ⟨guarded.active, inside.saved, inside.own, inside.contexts⟩

/-! ## What the command's tally sees -/

namespace History

/-- What of a kind happened in the thread that the steps began in. -/
def onThread {α : Type} (kind : Happening → Option α) (h : History) : List α :=
  h.select (fun fs => .thread ∉ fs) kind

/-- What of a kind happened in the first context, when the steps began in a given one. -/
def onMain {α : Type} (context : Nat) (kind : Happening → Option α) (h : History) : List α :=
  if context = 0 then h.onThread kind else []

section

variable {α : Type} (context : Nat) (kind : Happening → Option α)

@[simp] theorem onMain_nil : onMain context kind [] = [] := by
  simp [onMain, onThread]

theorem onMain_append (h k : History) :
    onMain context kind (h ++ k) = onMain context kind h ++ onMain context kind k := by
  unfold onMain onThread
  split <;> simp

theorem onMain_of_ne {context : Nat} (other : context ≠ 0) (h : History) :
    onMain context kind h = [] :=
  if_neg other

theorem onMain_single (x : Happening) :
    onMain context kind [⟨[], x⟩] = if context = 0 then (kind x).toList else [] := by
  simp [onMain, onThread, select_single]

theorem onMain_tally (id : TallyId) (h : History) :
    onMain context kind (within (.tally id) h) = onMain context kind h := by
  unfold onMain onThread
  rw [select_within]
  simp

theorem onMain_thread (h : History) : onMain context kind (within .thread h) = [] := by
  unfold onMain onThread
  rw [select_within]
  simp [select_never]

theorem onMain_block (h : History) :
    onMain context kind (within .block h) = onMain context kind h := by
  unfold onMain onThread
  rw [select_within]
  simp

end

end History

/-- The command's tally, known before and after a history that began in a context, has counted once
what was recorded in the first context, and was active there at every point as it should be. -/
structure Overseen (context : Nat) (before : Tally) (h : History) (after : Tally) : Prop where
  counter : ∀ held, after.counter held = before.counter held
    + ((h.onMain context Happening.assertion?).countP (·.passed = held) : Nat)
  blocks : after.blocks = before.blocks ++ h.onMain context Happening.block?
  points : ∀ s ∈ h.onMain context Happening.state?, Fits 0 s.context.active

namespace Overseen

theorem trans {context : Nat} {t u v : Tally} {h k : History} (first : Overseen context t h u)
    (second : Overseen context u k v) : Overseen context t (h ++ k) v := by
  refine ⟨fun held => ?_, ?_, fun s member => ?_⟩
  · rw [second.counter, first.counter, History.onMain_append, List.countP_append]
    omega
  · rw [second.blocks, first.blocks, History.onMain_append, List.append_assoc]
  · rw [History.onMain_append] at member
    rcases List.mem_append.mp member with early | late
    · exact first.points s early
    · exact second.points s late

theorem nothing {context : Nat} {t u : Tally} (counter : ∀ held, u.counter held = t.counter held)
    (blocks : u.blocks = t.blocks) : Overseen context t [] u :=
  ⟨by simp [counter], by simp [blocks], by simp⟩

theorem told {context : Nat} {t : Tally} (r : Reporter) (c : Call) :
    Overseen context t [⟨[], .told r c⟩] t := by
  refine ⟨?_, ?_, ?_⟩
  · simp [History.onMain_single, Happening.assertion?]
  · simp [History.onMain_single, Happening.block?]
  · simp [History.onMain_single, Happening.state?]

theorem reached {s : State} (guarded : s.Guarded) {t : Tally} :
    Overseen s.context.id t [⟨[], .reached s⟩] t := by
  refine ⟨?_, ?_, fun p member => ?_⟩
  · simp [History.onMain_single, Happening.assertion?]
  · simp [History.onMain_single, Happening.block?]
  · rw [History.onMain_single] at member
    split at member
    next main =>
      cases List.mem_singleton.mp member
      exact main ▸ guarded.active
    next => cases member

theorem record {s : State} (guarded : s.Guarded) (a : Assertion) :
    Overseen s.context.id (s.tallies.get .command) [⟨[], .recorded a⟩]
      ((s.record a).tallies.get .command) := by
  refine ⟨fun held => ?_, ?_, ?_⟩
  · rw [State.counter_record, guarded.active.count, History.onMain_single]
    by_cases main : s.context.id = 0 <;> by_cases passes : a.passed = held <;>
      simp [Happening.assertion?, main, passes]
  · simp [History.onMain_single, Happening.block?]
  · simp [History.onMain_single, Happening.state?]

theorem keep {s : State} (guarded : s.Guarded) (b : Block) :
    Overseen s.context.id (s.tallies.get .command) [⟨[], .completed b⟩]
      ((s.keep b).tallies.get .command) := by
  refine ⟨?_, ?_, ?_⟩
  · simp [History.onMain_single, Happening.assertion?]
  · rw [State.blocks_keep, guarded.active.count, History.onMain_single]
    by_cases main : s.context.id = 0 <;> simp [Happening.block?, main]
  · simp [History.onMain_single, Happening.state?]

theorem tally {context : Nat} {t u : Tally} {h : History} (body : Overseen context t h u)
    (id : TallyId) : Overseen context t (History.within (.tally id) h) u :=
  ⟨by simpa [History.onMain_tally] using body.counter,
    by simpa [History.onMain_tally] using body.blocks,
    by simpa [History.onMain_tally] using body.points⟩

theorem block {context : Nat} {t u : Tally} {h : History} (body : Overseen context t h u) :
    Overseen context t (History.within .block h) u :=
  ⟨by simpa [History.onMain_block] using body.counter,
    by simpa [History.onMain_block] using body.blocks,
    by simpa [History.onMain_block] using body.points⟩

theorem thread {context other : Nat} {t u : Tally} {h : History} (body : Overseen other t h u)
    (ne : other ≠ 0) : Overseen context t (History.within .thread h) u := by
  have counter := body.counter
  have blocks := body.blocks
  rw [History.onMain_of_ne _ ne] at blocks
  simp only [History.onMain_of_ne _ ne] at counter
  exact ⟨by simpa [History.onMain_thread] using counter,
    by simpa [History.onMain_thread] using blocks,
    by simp [History.onMain_thread]⟩

end Overseen

theorem Course.overseen {allowed : Step → Bool} {s t : State} {h : History}
    (c : Course allowed s h t) :
    s.Guarded → Overseen s.context.id (s.tallies.get .command) h (t.tallies.get .command) := by
  induction c with
  | rest s => exact fun _ => .nothing (fun _ => rfl) rfl
  | reach s => exact fun guarded => .reached guarded
  | tell s r c => exact fun _ => .told r c
  | quiet same => exact fun _ => .nothing (by simp [same.tallies]) (by simp [same.tallies])
  | record _ => exact fun guarded => .record guarded _
  | enter _ | leave _ | assign _ | keep _ => exact fun _ => .nothing (by simp) (by simp)
  | andThen first _ ihFirst ihSecond =>
    intro guarded
    exact (ihFirst guarded).trans (first.context_id ▸ ihSecond (first.guarded guarded))
  | @block s begun t h description outcome same inner body =>
    intro guarded
    have begins := guarded.setBlock same (some { description })
    have ends := inner.guarded begins
    have inside : Overseen begun.context.id (begun.tallies.get .command) h
        (t.tallies.get .command) :=
      body begins
    -- the block is kept by what is active after the body, which need not be what was active before
    have kept := Overseen.keep ends (.ofBody description begun.clock outcome t)
    rw [inner.context_id] at kept
    rw [← same.context, ← same.tallies]
    exact (Overseen.told _ _).trans (inside.block.trans (kept.trans (.told _ _)))
  | @tally s t h name enters _ body =>
    intro guarded
    have inside := (body (guarded.enter name)).tally (.named name)
    rw [State.enter_context_view Context.id fun _ _ => rfl] at inside
    -- neither the enter before the body nor the exit after it touches a counter or a block
    have entered : Overseen s.context.id (s.tallies.get .command) []
        ((s.enter (.named name)).2.tallies.get .command) := .nothing (by simp) (by simp)
    have left : Overseen s.context.id (t.tallies.get .command) []
        ((t.leave (.named name)).2.tallies.get .command) := .nothing (by simp) (by simp)
    simpa using entered.trans (inside.trans left)
  | report r _ body =>
    intro guarded
    exact body ⟨guarded.active, guarded.saved, guarded.own, guarded.contexts⟩
  | @thread s _ _ _ body =>
    -- a thread runs in a new context, and only the first context has number zero
    intro guarded
    exact (body guarded.fork).thread (Nat.ne_of_gt guarded.contexts)

end InlineCheck
