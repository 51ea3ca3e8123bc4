import Mathlib.Logic.Function.Iterate
import InlineCheck.Session.Step

/-! # Effects on tallies and contexts

What each operation of a session does to the tallies and to the context, so that later proofs need
not unfold the operations:

* `Tally.counter` — the two counters of a tally under one name.
* `Ledger.get_modifyAll` — a change made to several names reaches a name once for each time it is
  listed.
* `State.enter_cases`, `State.leave_cases` — everything that entering and leaving a tally can do.
* `State.counter_record`, `State.blocks_keep` — what recording adds to a tally.
-/

namespace InlineCheck

/-! ## Tallies -/

namespace Tally

/-- The counter of assertions that held, or of those that did not. -/
def counter (t : Tally) (held : Bool) : Int :=
  if held then t.passed else t.failed

theorem counter_count (t : Tally) (a : Assertion) (held : Bool) :
    (t.count a).counter held = t.counter held + if a.passed = held then 1 else 0 := by
  unfold count counter
  cases a.passed <;> cases held <;> simp

@[simp] theorem activation_count (t : Tally) (a : Assertion) :
    (t.count a).activation = t.activation := by
  unfold count
  split <;> rfl

@[simp] theorem blocks_count (t : Tally) (a : Assertion) : (t.count a).blocks = t.blocks := by
  unfold count
  split <;> rfl

@[simp] theorem activation_keep (t : Tally) (b : Block) :
    (t.keep b).activation = t.activation := rfl

@[simp] theorem counter_keep (t : Tally) (b : Block) (held : Bool) :
    (t.keep b).counter held = t.counter held := rfl

theorem counter_iterate_count (t : Tally) (a : Assertion) (held : Bool) (n : Nat) :
    ((count · a)^[n] t).counter held =
      t.counter held + if a.passed = held then (n : Int) else 0 := by
  induction n with
  | zero => simp
  | succ n ih =>
    rw [Function.iterate_succ_apply', counter_count, ih]
    split
    · push_cast; omega
    · omega

theorem blocks_iterate_keep (t : Tally) (b : Block) (n : Nat) :
    ((keep · b)^[n] t).blocks = t.blocks ++ List.replicate n b := by
  induction n with
  | zero => simp
  | succ n ih =>
    rw [Function.iterate_succ_apply', List.replicate_succ', ← List.append_assoc, ← ih]
    rfl

end Tally

/-! ## Ledgers -/

namespace Ledger

@[simp] theorem get_empty (id : TallyId) : ({} : Ledger).get id = {} := rfl

@[simp] theorem get_modify_self (l : Ledger) (id : TallyId) (f : Tally → Tally) :
    (l.modify id f).get id = f (l.get id) := by
  simp [modify]

@[simp] theorem get_modify_of_ne (l : Ledger) {id id' : TallyId} (f : Tally → Tally)
    (h : id ≠ id') : (l.modify id f).get id' = l.get id' := by
  simp [modify, h]

theorem get_modifyAll (l : Ledger) (ids : List TallyId) (f : Tally → Tally) (id : TallyId) :
    (l.modifyAll ids f).get id = f^[ids.count id] (l.get id) := by
  induction ids generalizing l with
  | nil => rfl
  | cons i ids ih =>
    have tail : (l.modifyAll (i :: ids) f).get id = f^[ids.count id] ((l.modify i f).get id) :=
      ih (l.modify i f)
    rw [tail]
    -- the head is changed first, so its change is the innermost one
    by_cases same : i = id
    · subst same
      rw [get_modify_self, List.count_cons_self, Function.iterate_succ_apply]
    · rw [get_modify_of_ne _ _ same, List.count_cons_of_ne same]

theorem modifyAll_view {α : Type} (view : Tally → α) {f : Tally → Tally}
    (kept : ∀ t, view (f t) = view t) (l : Ledger) (ids : List TallyId) (id : TallyId) :
    view ((l.modifyAll ids f).get id) = view (l.get id) := by
  rw [get_modifyAll]
  induction ids.count id with
  | zero => rfl
  | succ n ih => rw [Function.iterate_succ_apply', kept, ih]

theorem modify_view {α : Type} (view : Tally → α) {f : Tally → Tally}
    (kept : ∀ t, view (f t) = view t) (l : Ledger) (i id : TallyId) :
    view ((l.modify i f).get id) = view (l.get id) := by
  by_cases same : i = id
  · subst same
    rw [get_modify_self, kept]
  · rw [get_modify_of_ne _ _ same]

end Ledger

namespace State

/-! ## Recording -/

@[simp] theorem activation_record (s : State) (a : Assertion) (id : TallyId) :
    ((s.record a).tallies.get id).activation = (s.tallies.get id).activation :=
  Ledger.modifyAll_view Tally.activation (Tally.activation_count · a) _ _ _

@[simp] theorem blocks_record (s : State) (a : Assertion) (id : TallyId) :
    ((s.record a).tallies.get id).blocks = (s.tallies.get id).blocks :=
  Ledger.modifyAll_view Tally.blocks (Tally.blocks_count · a) _ _ _

/-- An assertion is counted once for each time that a tally is active. -/
theorem counter_record (s : State) (a : Assertion) (id : TallyId) (held : Bool) :
    ((s.record a).tallies.get id).counter held =
      (s.tallies.get id).counter held
        + if a.passed = held then (s.context.active.count id : Int) else 0 := by
  show (((s.tallies.modifyAll s.context.active (·.count a)).get id).counter held) = _
  rw [Ledger.get_modifyAll, Tally.counter_iterate_count]

theorem total_record (s : State) (a : Assertion) (id : TallyId) :
    ((s.record a).tallies.get id).total =
      (s.tallies.get id).total + (s.context.active.count id : Int) := by
  have held := s.counter_record a id true
  have broken := s.counter_record a id false
  simp only [Tally.counter, if_true, Bool.false_eq_true, if_false] at held broken
  unfold Tally.total
  rw [held, broken]
  cases a.passed <;> simp <;> omega

@[simp] theorem activation_keep (s : State) (b : Block) (id : TallyId) :
    ((s.keep b).tallies.get id).activation = (s.tallies.get id).activation :=
  Ledger.modifyAll_view Tally.activation (Tally.activation_keep · b) _ _ _

@[simp] theorem counter_keep (s : State) (b : Block) (id : TallyId) (held : Bool) :
    ((s.keep b).tallies.get id).counter held = (s.tallies.get id).counter held :=
  Ledger.modifyAll_view (Tally.counter · held) (Tally.counter_keep · b held) _ _ _

/-- A block is kept once for each time that a tally is active. -/
theorem blocks_keep (s : State) (b : Block) (id : TallyId) :
    ((s.keep b).tallies.get id).blocks =
      (s.tallies.get id).blocks ++ List.replicate (s.context.active.count id) b := by
  show ((s.tallies.modifyAll s.context.active (·.keep b)).get id).blocks = _
  rw [Ledger.get_modifyAll, Tally.blocks_iterate_keep]

/-- What comes of telling a reporter something depends on the reporter and the earlier calls
only. -/
theorem call_fst (s : State) (r : Reporter) (c : Call) :
    (s.call r c).1 = match (r.respond s.calls c).fault with
      | some f => .error (.alone f)
      | none => .ok () :=
  rfl

theorem check_of_error {s : State} {label condition : Value} {f : Fault}
    (h : s.assertionOf label condition = .error f) :
    s.check label condition = (.error (.alone f), s) := by
  simp only [check, h]

-- the assertion is recorded before the reporter is told, so its answer does not matter here
theorem check_state {s : State} {label condition : Value} {a : Assertion}
    (h : s.assertionOf label condition = .ok a) :
    (s.check label condition).2 = ((s.record a).call s.reporter (.assertion a)).2 := by
  have same : (s.record a).reporter = s.reporter := rfl
  simp only [check, h, same]
  rcases (s.record a).call s.reporter (.assertion a) with ⟨_ | _, t⟩ <;> rfl

theorem complete_state (s : State) (r : Reporter) (b : Block) (outcome : Except Raised Unit) :
    (s.complete r b outcome).2 = ((s.keep b).call r (.complete b)).2 := by
  unfold complete
  rcases (s.keep b).call r (.complete b) with ⟨_ | _, t⟩ <;> rfl

/-! ## Entering and leaving -/

/-- The state after a tally that was not active has been entered. -/
def entered (s : State) (id : TallyId) : State :=
  { s with
    tallies := s.tallies.modify id
      ({ · with activation := some ⟨s.context.id, s.context.active⟩ })
    context := { s.context with active := s.context.active ++ [id] } }

/-- The state in which a tally no longer remembers an activation. -/
def released (s : State) (id : TallyId) : State :=
  { s with tallies := s.tallies.modify id ({ · with activation := none }) }

/-- The state with other tallies active. -/
def setActive (s : State) (ids : List TallyId) : State :=
  { s with context := { s.context with active := ids } }

/-- A tally that is active is refused, and every other one is entered. -/
theorem enter_cases (s : State) (id : TallyId) :
    ((s.tallies.get id).activation.isSome ∧ s.enter id = (.error (.alone .alreadyActive), s))
    ∨ ((s.tallies.get id).activation = none ∧ s.enter id = (.ok (), s.entered id)) := by
  unfold enter
  cases h : (s.tallies.get id).activation with
  | none => exact .inr ⟨rfl, by simp [h, entered, Ledger.modify]⟩
  | some a => exact .inl ⟨rfl, by simp [h]⟩

/-- Leaving does nothing to a tally that is not active, brings back what was active before one that
was entered in this context, and only forgets the activation of one that was entered elsewhere. -/
theorem leave_cases (s : State) (id : TallyId) :
    ((s.tallies.get id).activation = none ∧ s.leave id = (.ok (), s))
    ∨ (∃ before, (s.tallies.get id).activation = some ⟨s.context.id, before⟩ ∧
        s.leave id = (.ok (), (s.released id).setActive before))
    ∨ (∃ a, (s.tallies.get id).activation = some a ∧ a.context ≠ s.context.id ∧
        s.leave id = (.error (.alone .foreignContext), s.released id)) := by
  unfold leave
  cases h : (s.tallies.get id).activation with
  | none => exact .inl ⟨rfl, by simp [h]⟩
  | some a =>
    obtain ⟨context, before⟩ := a
    by_cases here : context = s.context.id
    · subst here
      exact .inr (.inl ⟨before, rfl, by simp [h, released, setActive, Ledger.modify]⟩)
    · exact .inr (.inr ⟨_, rfl, here, by simp [h, here, released, Ledger.modify]⟩)

theorem enter_ok {s : State} {id : TallyId} (h : (s.enter id).1 = .ok ()) :
    (s.tallies.get id).activation = none ∧ (s.enter id).2 = s.entered id := by
  rcases enter_cases s id with ⟨_, refused⟩ | ⟨idle, entered⟩
  · rw [refused] at h; cases h
  · exact ⟨idle, by rw [entered]⟩

theorem leave_of_here {s : State} {id : TallyId} {before : List TallyId}
    (found : (s.tallies.get id).activation = some ⟨s.context.id, before⟩) :
    s.leave id = (.ok (), (s.released id).setActive before) := by
  rcases leave_cases s id with ⟨idle, _⟩ | ⟨before', found', restored⟩ | ⟨a, found', elsewhere, _⟩
  · cases found.symm.trans idle
  · cases found.symm.trans found'
    exact restored
  · cases found.symm.trans found'
    exact absurd rfl elsewhere

-- A `view` is any part of a context or of a tally that an operation leaves alone. Each operation
-- then needs one lemma, and its fields are instances.

theorem enter_context_view {α : Type} (view : Context → α)
    (kept : ∀ (c : Context) ids, view { c with active := ids } = view c) (s : State)
    (id : TallyId) : view (s.enter id).2.context = view s.context := by
  rcases enter_cases s id with ⟨_, refused⟩ | ⟨_, enters⟩
  · rw [refused]
  · rw [enters]
    exact kept _ _

theorem leave_context_view {α : Type} (view : Context → α)
    (kept : ∀ (c : Context) ids, view { c with active := ids } = view c) (s : State)
    (id : TallyId) : view (s.leave id).2.context = view s.context := by
  rcases leave_cases s id with ⟨_, idle⟩ | ⟨_, _, restored⟩ | ⟨_, _, _, foreign⟩
  · rw [idle]
  · rw [restored]
    exact kept _ _
  · rw [foreign]
    rfl

/-! ## What entering and leaving change in a tally -/

theorem activation_entered_self (s : State) (id : TallyId) :
    ((s.entered id).tallies.get id).activation = some ⟨s.context.id, s.context.active⟩ := by
  simp [entered]

theorem get_entered_of_ne (s : State) {id id' : TallyId} (h : id ≠ id') :
    (s.entered id).tallies.get id' = s.tallies.get id' := by
  simp [entered, h]

theorem activation_released_self (s : State) (id : TallyId) :
    ((s.released id).tallies.get id).activation = none := by
  simp [released]

theorem get_released_of_ne (s : State) {id id' : TallyId} (h : id ≠ id') :
    (s.released id).tallies.get id' = s.tallies.get id' := by
  simp [released, h]

/-- Entering tallies does not touch the activation of one that is active. -/
theorem activation_enter_of_some {s : State} {id : TallyId} {a : Activation}
    (found : (s.tallies.get id).activation = some a) (id' : TallyId) :
    ((s.enter id').2.tallies.get id).activation = some a := by
  rcases enter_cases s id' with ⟨_, refused⟩ | ⟨idle, enters⟩
  · rwa [refused]
  · have other : id' ≠ id := by
      rintro rfl
      cases found.symm.trans idle
    rwa [enters, s.get_entered_of_ne other]

theorem get_leave_of_ne (s : State) {id id' : TallyId} (other : id ≠ id') :
    (s.leave id).2.tallies.get id' = s.tallies.get id' := by
  rcases leave_cases s id with ⟨_, left⟩ | ⟨_, _, left⟩ | ⟨_, _, _, left⟩
  · rw [left]
  · rw [left]
    exact s.get_released_of_ne other
  · rw [left]
    exact s.get_released_of_ne other

theorem enter_view {α : Type} (view : Tally → α)
    (kept : ∀ (t : Tally) a, view { t with activation := a } = view t) (s : State)
    (id id' : TallyId) :
    view ((s.enter id).2.tallies.get id') = view (s.tallies.get id') := by
  rcases enter_cases s id with ⟨_, refused⟩ | ⟨_, entered⟩
  · rw [refused]
  · rw [entered]
    exact Ledger.modify_view view (fun t => kept t _) _ _ _

theorem leave_view {α : Type} (view : Tally → α)
    (kept : ∀ (t : Tally) a, view { t with activation := a } = view t) (s : State)
    (id id' : TallyId) :
    view ((s.leave id).2.tallies.get id') = view (s.tallies.get id') := by
  rcases leave_cases s id with ⟨_, idle⟩ | ⟨_, _, restored⟩ | ⟨_, _, _, foreign⟩
  · rw [idle]
  · rw [restored]
    exact Ledger.modify_view view (fun t => kept t _) _ _ _
  · rw [foreign]
    exact Ledger.modify_view view (fun t => kept t _) _ _ _

@[simp] theorem counter_enter (s : State) (id id' : TallyId) (held : Bool) :
    ((s.enter id).2.tallies.get id').counter held = (s.tallies.get id').counter held :=
  enter_view (Tally.counter · held) (fun _ _ => rfl) s id id'

@[simp] theorem blocks_enter (s : State) (id id' : TallyId) :
    ((s.enter id).2.tallies.get id').blocks = (s.tallies.get id').blocks :=
  enter_view Tally.blocks (fun _ _ => rfl) s id id'

@[simp] theorem counter_leave (s : State) (id id' : TallyId) (held : Bool) :
    ((s.leave id).2.tallies.get id').counter held = (s.tallies.get id').counter held :=
  leave_view (Tally.counter · held) (fun _ _ => rfl) s id id'

@[simp] theorem blocks_leave (s : State) (id id' : TallyId) :
    ((s.leave id).2.tallies.get id').blocks = (s.tallies.get id').blocks :=
  leave_view Tally.blocks (fun _ _ => rfl) s id id'

end State

/-! ## Blocks -/

section Blocks

variable {env : Setting} {description : Value} {body : State → Except Raised Unit × State}
  {s begun : State}

theorem runBlock_of_unnamed {f : Fault} (unnamed : checkDescription description = .error f) :
    runBlock env description body s = (.error (.alone f), s) := by
  simp only [runBlock, unnamed]

theorem runBlock_of_refused {e : Raised} (named : checkDescription description = .ok ())
    (refused : s.announce env description = (.error e, begun)) :
    runBlock env description body s = (.error e, begun) := by
  simp only [runBlock, named, refused]

theorem runBlock_of_begun (named : checkDescription description = .ok ())
    (begins : s.announce env description = (.ok (), begun)) :
    runBlock env description body s =
      ((body (begun.setBlock (some { description }))).2.setBlock begun.context.block).complete
        s.reporter
        (.ofBody description begun.clock (body (begun.setBlock (some { description }))).1
          (body (begun.setBlock (some { description }))).2)
        (body (begun.setBlock (some { description }))).1 := by
  simp only [runBlock, named, begins]

end Blocks

/-! ## Bodies of tallies -/

theorem runTally_of_refused {s t : State} {id : TallyId} {e : Raised}
    {body : State → Except Raised Unit × State} (refused : s.enter id = (.error e, t)) :
    runTally id body s = (.error e, t) := by
  simp only [runTally, refused]

theorem runTally_state {s t : State} {id : TallyId} {body : State → Except Raised Unit × State}
    (enters : s.enter id = (.ok (), t)) : (runTally id body s).2 = ((body t).2.leave id).2 := by
  simp only [runTally, enters]
  rcases (body t).2.leave id with ⟨_ | _, u⟩ <;> rfl

end InlineCheck
