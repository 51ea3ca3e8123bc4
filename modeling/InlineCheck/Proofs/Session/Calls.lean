import InlineCheck.Proofs.Session.Blocks
import InlineCheck.Proofs.Session.Execution
import InlineCheck.Proofs.Session.Oversight

/-! # Calls of reporters

What reporters are told while steps run.

* `historyAll_told` — reporters are told of every recorded assertion and of every completed block,
  and of nothing else of the kind.
* `runAll_calls` — the calls in a history are those that the session has made.
-/

namespace InlineCheck

namespace Call

/-- The assertion that is told. -/
def assertion? : Call → Option Assertion
  | .assertion a => some a
  | _ => none

/-- The block that is told to be done. -/
def block? : Call → Option Block
  | .complete b => some b
  | _ => none

end Call

namespace Happening

/-- The reporter that was told something, and what it was told. -/
def call? : Happening → Option (Reporter × Call)
  | .told r c => some (r, c)
  | _ => none

/-- The assertion that a reporter was told of. -/
def toldAssertion? (x : Happening) : Option Assertion :=
  x.call?.bind (·.2.assertion?)

/-- The block that a reporter was told of as done. -/
def toldBlock? (x : Happening) : Option Block :=
  x.call?.bind (·.2.block?)

/-- What a reporter was told. -/
def heard? : Happening → Option Call
  | .told _ c => some c
  | _ => none

end Happening

namespace History

/-- The calls that a history's own thread makes. -/
def calls (h : History) : List (Reporter × Call) :=
  h.onThread Happening.call?

theorem calls_filterMap {α : Type} (kind : Reporter × Call → Option α) (h : History) :
    h.calls.filterMap kind = h.onThread fun x => x.call?.bind kind := by
  unfold calls onThread select
  rw [List.filterMap_filterMap]
  congr 1
  funext o
  split <;> rfl

end History

/-! ## What is recorded is told -/

/-- In all scopes, the assertions and blocks that reporters were told of are those that were
recorded and completed, in the same order. -/
structure History.Told (h : History) : Prop where
  assertions : ∀ places, h.select places Happening.toldAssertion?
    = h.select places Happening.assertion?
  blocks : ∀ places, h.select places Happening.toldBlock? = h.select places Happening.block?

namespace History.Told

theorem nil : Told [] := ⟨fun _ => rfl, fun _ => rfl⟩

theorem single {x : Happening} (assertion : x.toldAssertion? = x.assertion?)
    (block : x.toldBlock? = x.block?) : Told [⟨[], x⟩] := by
  refine ⟨fun places => ?_, fun places => ?_⟩
  · rw [select_single, select_single, assertion]
  · rw [select_single, select_single, block]

theorem append {h k : History} (first : h.Told) (second : k.Told) : Told (h ++ k) := by
  refine ⟨fun places => ?_, fun places => ?_⟩
  · rw [select_append, select_append, first.assertions, second.assertions]
  · rw [select_append, select_append, first.blocks, second.blocks]

theorem within {h : History} (inside : h.Told) (f : Frame) : Told (History.within f h) := by
  refine ⟨fun places => ?_, fun places => ?_⟩
  · rw [select_within, select_within, inside.assertions]
  · rw [select_within, select_within, inside.blocks]

theorem check (s : State) (label condition : Value) : Told (s.checkHistory label condition) := by
  unfold State.checkHistory
  cases s.assertionOf label condition with
  | error f => exact nil
  | ok a =>
    refine ⟨fun places => ?_, fun places => ?_⟩
    · simp [select_cons, Happening.toldAssertion?, Happening.call?, Call.assertion?,
        Happening.assertion?]
    · simp [select_cons, Happening.toldBlock?, Happening.call?, Call.block?,
        Happening.block?]

theorem completed (r : Reporter) (b : Block) :
    Told [⟨[], .completed b⟩, ⟨[], .told r (.complete b)⟩] := by
  refine ⟨fun places => ?_, fun places => ?_⟩
  · simp [select_cons, Happening.toldAssertion?, Happening.call?, Call.assertion?,
        Happening.assertion?]
  · simp [select_cons, Happening.toldBlock?, Happening.call?, Call.block?,
        Happening.block?]

theorem block {env : Setting} {description : Value} {body : State → Except Raised Unit × State}
    {inner : State → History} (inside : ∀ s, (inner s).Told) (s : State) :
    Told (blockHistory env description body inner s) := by
  have started : Told [⟨[], .told s.reporter (.start description)⟩] := single rfl rfl
  cases named : checkDescription description with
  | error f =>
    rw [blockHistory_of_unnamed named]
    exact nil
  | ok _ =>
    rcases begins : s.announce env description with ⟨e | _, begun⟩
    · rw [blockHistory_of_refused named begins]
      exact started
    · rw [blockHistory_of_begun named begins rfl]
      exact started.append (((inside _).within .block).append (completed _ _))

end History.Told

/-- A step that does not tell a reporter something directly. -/
def Step.untold : Step → Bool
  | .tell _ => false
  | _ => true

mutual
theorem Step.history_told (env : Setting) (step : Step) (ok : step.every Step.untold = true)
    (s : State) : (step.history env s).Told := by
  cases step with
  | assertion label condition => exact .check s label condition
  | check condition label => exact .check s label condition
  | runTest description body => exact .block (historyAll_told env body ok) s
  | runDemanding description =>
    rw [Step.history]
    exact .block (fun _ => .nil) s
  | attempt steps => exact historyAll_told env steps ok s
  | tally name steps =>
    rw [Step.history, tallyHistory]
    rcases s.enter (.named name) with ⟨_ | _, inside⟩
    · exact .nil
    · exact (historyAll_told env steps ok inside).within _
  | summary name => exact .single rfl rfl
  | tell c => cases ok
  | report choice steps =>
    rw [Step.history]
    cases choice.resolve env with
    | error f => exact .nil
    | ok r => exact historyAll_told env steps ok _
  | thread steps => exact (historyAll_told env steps ok s.fork).within .thread
  | _ => exact .nil

theorem historyAll_told (env : Setting) (steps : List Step)
    (ok : everyStep Step.untold steps = true) (s : State) : (historyAll env steps s).Told := by
  cases steps with
  | nil => exact .single rfl rfl
  | cons step steps =>
    simp only [everyStep, Bool.and_eq_true] at ok
    have reached : History.Told [⟨[], .reached s⟩] := .single rfl rfl
    have first := Step.history_told env step ok.1 s
    rcases ran : step.run env s with ⟨e | reply, t⟩
    · rw [historyAll_of_failed ran]
      exact reached.append first
    · rw [historyAll_of_finished ran]
      exact reached.append (first.append (historyAll_told env steps ok.2 _))
end

/-! ## What is told is heard -/

/-- All calls of a history, on whatever thread. -/
def History.heard (h : History) : List Call :=
  h.select (fun _ => true) Happening.heard?

namespace State

theorem calls_check (s : State) (label condition : Value) :
    (s.check label condition).2.calls
      = s.calls ++ (s.checkHistory label condition).heard := by
  unfold checkHistory
  cases made : s.assertionOf label condition with
  | error f =>
    rw [check_of_error made]
    exact (List.append_nil _).symm
  | ok a =>
    rw [check_state made]
    rfl

theorem calls_enter (s : State) (id : TallyId) : (s.enter id).2.calls = s.calls := by
  rcases s.enter_cases id with ⟨_, refused⟩ | ⟨_, enters⟩
  · rw [refused]
  · rw [enters]
    rfl

theorem calls_leave (s : State) (id : TallyId) : (s.leave id).2.calls = s.calls := by
  rcases s.leave_cases id with ⟨_, idle⟩ | ⟨_, _, restored⟩ | ⟨_, _, _, foreign⟩
  · rw [idle]
  · rw [restored]
    rfl
  · rw [foreign]
    rfl

end State

namespace History

theorem heard_append (h k : History) : heard (h ++ k) = heard h ++ heard k :=
  select_append _ _ h k

theorem heard_within (f : Frame) (h : History) : heard (within f h) = heard h :=
  select_within _ _ f h

theorem heard_block (h : History) (r : Reporter) (description : Value) (b : Block) :
    heard (⟨[], .told r (.start description)⟩ ::
        (within .block h ++ [⟨[], .completed b⟩, ⟨[], .told r (.complete b)⟩]))
      = .start description :: (heard h ++ [.complete b]) := by
  rw [← List.singleton_append, heard_append, heard_append, heard_within]
  rfl

end History

theorem runBlock_calls {env : Setting} {description : Value}
    {body : State → Except Raised Unit × State} {inner : State → History}
    (bodies : ∀ s, (body s).2.calls = s.calls ++ (inner s).heard) (s : State) :
    (runBlock env description body s).2.calls
      = s.calls ++ (blockHistory env description body inner s).heard := by
  have told : (s.announce env description).2.calls = s.calls ++ [.start description] := rfl
  cases named : checkDescription description with
  | error f =>
    rw [runBlock_of_unnamed named, blockHistory_of_unnamed named]
    exact (List.append_nil _).symm
  | ok _ =>
    rcases begins : s.announce env description with ⟨e | _, begun⟩
    · rw [runBlock_of_refused named begins, blockHistory_of_refused named begins]
      rwa [begins] at told
    · rw [begins] at told
      have inside : (body (begun.setBlock (some { description }))).2.calls
          = begun.calls ++ (inner (begun.setBlock (some { description }))).heard := bodies _
      rw [runBlock_of_begun named begins, State.complete_state,
        blockHistory_of_begun named begins rfl, History.heard_block]
      -- keeping the block and putting the enclosing one back are told to nobody
      show (body (begun.setBlock (some { description }))).2.calls ++ [.complete _] = _
      rw [inside, told]
      simp

mutual
theorem Step.run_calls (env : Setting) (step : Step) (s : State) :
    (step.run env s).2.calls = s.calls ++ (step.history env s).heard := by
  cases step with
  | assertion label condition => exact s.calls_check label condition
  | check condition label => exact s.calls_check label condition
  | runTest description body => exact runBlock_calls (runAll_calls env body) s
  | runDemanding description =>
    simp only [Step.history, Step.run, silent]
    exact runBlock_calls (fun inside => (List.append_nil _).symm) s
  | attempt steps => exact runAll_calls env steps s
  | tally name steps =>
    simp only [Step.history, Step.run, tallyHistory]
    have opened := s.calls_enter (.named name)
    rcases enters : s.enter (.named name) with ⟨e | _, inside⟩
    · rw [runTally_of_refused enters]
      rw [enters] at opened
      simpa [History.heard] using opened
    · rw [runTally_state enters, State.calls_leave, runAll_calls env steps inside,
        History.heard_within]
      rw [enters] at opened
      rw [opened]
  | enter name => exact (s.calls_enter (.named name)).trans (List.append_nil _).symm
  | leave name => exact (s.calls_leave (.named name)).trans (List.append_nil _).symm
  | summary name => rfl
  | tell c => rfl
  | report choice steps =>
    rw [Step.history, Step.run]
    cases choice.resolve env with
    | error f => exact (List.append_nil _).symm
    | ok r => exact runAll_calls env steps (s.setReporter (some r))
  | thread steps =>
    rw [Step.history, History.heard_within]
    exact runAll_calls env steps s.fork
  | print text toErr =>
    rw [Step.run]
    cases text.display with
    | error f => exact (List.append_nil _).symm
    | ok t => exact (List.append_nil _).symm
  | _ => exact (List.append_nil _).symm

/-- The calls that a session makes while steps run are those of the history. -/
theorem runAll_calls (env : Setting) (steps : List Step) (s : State) :
    (runAll env steps s).2.calls = s.calls ++ (historyAll env steps s).heard := by
  cases steps with
  | nil => exact (List.append_nil _).symm
  | cons step steps =>
    have first := Step.run_calls env step s
    rcases ran : step.run env s with ⟨e | reply, t⟩
    · rw [historyAll_of_failed ran, History.heard_append, runAll, ran]
      rw [ran] at first
      exact first
    · have later := runAll_calls env steps (t.emit [.finished step.name reply])
      rw [historyAll_of_finished ran, History.heard_append, History.heard_append, runAll, ran]
      rw [ran] at first
      have answered : (t.emit [.finished step.name reply]).calls = t.calls := rfl
      rw [answered, first, List.append_assoc] at later
      exact later
end

end InlineCheck
