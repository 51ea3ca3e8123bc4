import Mathlib.Data.List.Basic
import InlineCheck.Proofs.Session.Effects

/-! # Histories

What happens while steps run, in order, each happening with the scopes around it.

* `Frame` — the scopes: the body of a tally, the body of a block, a thread.
* `Happening` — a state is reached, an assertion is recorded, a block is completed, a reporter is
  told something.
* `Step.history`, `historyAll` — the history of a step and of steps in a row, from a state on.
* `History.select` — what of a kind happened in scopes of a kind.

Scopes that were refused, such as the body of a tally that is active already, never run and leave
nothing in a history.
-/

namespace InlineCheck

/-- A scope that steps run in. -/
inductive Frame where
  | tally (id : TallyId)
  | block
  | thread
  deriving DecidableEq, Repr

namespace Frame

/-- The tallies whose bodies a place lies in, outermost first: those of the last thread on the way
to it, and those of `base` as well when there is no thread on the way. -/
def enclosing (base : List TallyId) : List Frame → List TallyId
  | [] => base
  | .tally id :: fs => enclosing (base ++ [id]) fs
  | .block :: fs => enclosing base fs
  | .thread :: fs => enclosing [] fs

end Frame

/-- Something that happens while steps run. -/
inductive Happening where
  /-- A step is about to run, or all steps have run. -/
  | reached (s : State)
  | recorded (a : Assertion)
  | completed (b : Block)
  | told (r : Reporter) (c : Call)
  deriving Repr

namespace Happening

/-- The state that was reached. -/
def state? : Happening → Option State
  | .reached s => some s
  | _ => none

/-- The assertion that was recorded. -/
def assertion? : Happening → Option Assertion
  | .recorded a => some a
  | _ => none

/-- The block that was completed. -/
def block? : Happening → Option Block
  | .completed b => some b
  | _ => none

end Happening

/-- A happening and the scopes around it, outermost first. -/
structure Occurrence where
  frames : List Frame := []
  happening : Happening
  deriving Repr

/-- What happened, in order. -/
abbrev History := List Occurrence

namespace History

/-- A history with one more scope around it. -/
def within (f : Frame) (h : History) : History :=
  h.map fun o => { o with frames := f :: o.frames }

/-- What of a kind happened in scopes of a kind. -/
def select {α : Type} (places : List Frame → Bool) (kind : Happening → Option α) (h : History) :
    List α :=
  h.filterMap fun o => if places o.frames then kind o.happening else none

end History

/-! ## Histories of steps -/

/-- The history of a check. -/
def State.checkHistory (s : State) (label condition : Value) : History :=
  match s.assertionOf label condition with
  | .error _ => []
  | .ok a => [⟨[], .recorded a⟩, ⟨[], .told s.reporter (.assertion a)⟩]

/-- The history of a test block. What its body does and what happens then are given by `body` and
`inner`. -/
def blockHistory (env : Setting) (description : Value) (body : State → Except Raised Unit × State)
    (inner : State → History) (s : State) : History :=
  match checkDescription description with
  | .error _ => []
  | .ok () =>
    ⟨[], .told s.reporter (.start description)⟩ ::
      match s.announce env description with
      | (.error _, _) => []
      | (.ok (), begun) =>
        let inside := begun.setBlock (some { description })
        let (outcome, after) := body inside
        let block := Block.ofBody description begun.clock outcome after
        History.within .block (inner inside)
          ++ [⟨[], .completed block⟩, ⟨[], .told s.reporter (.complete block)⟩]

/-- The history of steps run while a tally is active. -/
def tallyHistory (id : TallyId) (inner : State → History) (s : State) : History :=
  match s.enter id with
  | (.error _, _) => []
  | (.ok (), s) => History.within (.tally id) (inner s)

mutual
/-- What happens while a step runs. -/
def Step.history (env : Setting) : Step → State → History
  | .assertion label condition, s => s.checkHistory label condition
  | .check condition label, s => s.checkHistory label condition
  | .runTest description body, s =>
    blockHistory env description (runAll env body) (historyAll env body) s
  | .runDemanding description, s =>
    blockHistory env description (fun s => (.error (.alone .bodyNeedsArgument), s)) (fun _ => []) s
  | .attempt steps, s => historyAll env steps s
  | .tally name steps, s => tallyHistory (.named name) (historyAll env steps) s
  | .summary name, s => [⟨[], .told s.reporter (.summary (s.tallies.get (.named name)))⟩]
  | .tell c, s => [⟨[], .told s.reporter c⟩]
  | .report choice steps, s =>
    match choice.resolve env with
    | .error _ => []
    | .ok r => historyAll env steps (s.setReporter (some r))
  | .thread steps, s => History.within .thread (historyAll env steps s.fork)
  | _, _ => []

/-- What happens while steps run in a row: the state that each begins in is reached. -/
def historyAll (env : Setting) : List Step → State → History
  | [], s => [⟨[], .reached s⟩]
  | step :: steps, s =>
    ⟨[], .reached s⟩ :: step.history env s
      ++ match step.run env s with
        | (.error _, _) => []
        | (.ok reply, s) => historyAll env steps (s.emit [.finished step.name reply])
end

section Steps

variable {env : Setting} {step : Step} {steps : List Step} {s t : State}

theorem historyAll_of_failed {e : Raised} (failed : step.run env s = (.error e, t)) :
    historyAll env (step :: steps) s = [⟨[], .reached s⟩] ++ step.history env s := by
  rw [historyAll, failed]
  simp

theorem historyAll_of_finished {reply : Reply} (finished : step.run env s = (.ok reply, t)) :
    historyAll env (step :: steps) s = [⟨[], .reached s⟩] ++ (step.history env s
      ++ historyAll env steps (t.emit [.finished step.name reply])) := by
  rw [historyAll, finished]
  simp

end Steps

section Blocks

variable {env : Setting} {description : Value} {body : State → Except Raised Unit × State}
  {inner : State → History} {s begun : State}

theorem blockHistory_of_unnamed {f : Fault} (unnamed : checkDescription description = .error f) :
    blockHistory env description body inner s = [] := by
  simp only [blockHistory, unnamed]

theorem blockHistory_of_refused {e : Raised} (named : checkDescription description = .ok ())
    (refused : s.announce env description = (.error e, begun)) :
    blockHistory env description body inner s =
      [⟨[], .told s.reporter (.start description)⟩] := by
  simp only [blockHistory, named, refused]

theorem blockHistory_of_begun (named : checkDescription description = .ok ())
    (begins : s.announce env description = (.ok (), begun)) {b : Block}
    (built : b = .ofBody description begun.clock (body (begun.setBlock (some { description }))).1
      (body (begun.setBlock (some { description }))).2) :
    blockHistory env description body inner s =
      ⟨[], .told s.reporter (.start description)⟩ ::
        (History.within .block (inner (begun.setBlock (some { description })))
          ++ [⟨[], .completed b⟩, ⟨[], .told s.reporter (.complete b)⟩]) := by
  simp only [blockHistory, named, begins, built]

end Blocks

/-! ## Selections -/

namespace History

variable {α : Type} (places : List Frame → Bool) (kind : Happening → Option α)

@[simp] theorem select_nil : select places kind [] = [] := rfl

theorem select_cons_of_none {o : Occurrence} (other : kind o.happening = none) (h : History) :
    select places kind (o :: h) = select places kind h := by
  simp [select, other]

theorem select_cons (o : Occurrence) (h : History) :
    select places kind (o :: h)
      = (if places o.frames then (kind o.happening).toList else []) ++ select places kind h := by
  by_cases place : places o.frames
  · cases what : kind o.happening <;> simp [select, place, what]
  · simp [select, place]

theorem select_single (x : Happening) :
    select places kind [⟨[], x⟩] = if places [] then (kind x).toList else [] := by
  by_cases place : places []
  · cases what : kind x <;> simp [select, place, what]
  · simp [select, place]

@[simp] theorem select_append (h k : History) :
    select places kind (h ++ k) = select places kind h ++ select places kind k :=
  List.filterMap_append

@[simp] theorem select_within (f : Frame) (h : History) :
    select places kind (within f h) = select (fun fs => places (f :: fs)) kind h := by
  simp only [select, within, List.filterMap_map]
  rfl

/-- A block and what is told about it add no assertion to those of the body. -/
theorem select_assertions_block (h : History) (r : Reporter) (description : Value) (b : Block) :
    select places Happening.assertion? (⟨[], .told r (.start description)⟩ ::
        (within .block h ++ [⟨[], .completed b⟩, ⟨[], .told r (.complete b)⟩])) =
      select (fun fs => places (.block :: fs)) Happening.assertion? h := by
  rw [select_cons_of_none _ _ rfl, select_append, select_within, select_cons_of_none _ _ rfl,
    select_cons_of_none _ _ rfl, select_nil, List.append_nil]

/-- A block adds itself to the blocks of its body. -/
theorem select_blocks_block (h : History) (r : Reporter) (description : Value) (b : Block) :
    select places Happening.block? (⟨[], .told r (.start description)⟩ ::
        (within .block h ++ [⟨[], .completed b⟩, ⟨[], .told r (.complete b)⟩])) =
      select (fun fs => places (.block :: fs)) Happening.block? h ++
        if places [] then [b] else [] := by
  have ending : select places Happening.block? [⟨[], .completed b⟩, ⟨[], .told r (.complete b)⟩]
      = if places [] then [b] else [] := by
    rw [select_cons, select_cons_of_none _ _ rfl, select_nil, List.append_nil]
    rfl
  rw [select_cons_of_none _ _ rfl, select_append, select_within, ending]

theorem mem_within {f : Frame} {h : History} {o : Occurrence} :
    o ∈ within f h ↔ ∃ fs x, ⟨fs, x⟩ ∈ h ∧ o = ⟨f :: fs, x⟩ := by
  simp only [within, List.mem_map]
  constructor
  · rintro ⟨⟨fs, x⟩, member, rfl⟩
    exact ⟨fs, x, member, rfl⟩
  · rintro ⟨fs, x, member, rfl⟩
    exact ⟨⟨fs, x⟩, member, rfl⟩

variable {places} in
theorem select_congr {places' : List Frame → Bool} {h : History}
    (same : ∀ o ∈ h, places o.frames = places' o.frames) :
    select places kind h = select places' kind h :=
  List.filterMap_congr fun o member => by rw [same o member]

theorem select_never (h : History) : select (fun _ => false) kind h = [] := by
  simp [select]

end History

end InlineCheck
