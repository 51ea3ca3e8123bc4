import InlineCheck.Proofs.Session.History

/-! # The stages of a test

A test can end at three places: its description is refused, its start is refused by the reporter, or
its body has run. A body is any function on states here, so it may raise anything and change
anything, the active tallies and the chosen reporter included.

* `State.begun` — the state that a body finds, but for the open block.
* `State.Keeps` — a block kept once for each time that a tally is active after the body.
* `Raises` — the outcome of a completed test: the reporter's fault comes before that of the body.
* `runTest_by_stages` — what a test does at each of the three places.
-/

namespace InlineCheck

namespace State

/-- The state after the start of a test has been logged and told to the reporter. -/
def begun (s : State) (env : Setting) (description : Value) : State :=
  ((s.log env (startRecords description)).hear (.start description)).emit
    (s.reporter.respond s.calls (.start description)).events

theorem announce_eq (s : State) (env : Setting) (description : Value) :
    s.announce env description =
      (match (s.reporter.respond s.calls (.start description)).fault with
        | some f => .error (.alone f)
        | none => .ok (),
        s.begun env description) :=
  rfl

/-- A state differs from the one after a body only in a block that was kept once for each time that
a tally is active there, and in the open block, which is the enclosing one again. -/
structure Keeps (after : State) (outer : Option OpenBlock) (b : Block) (kept : State) : Prop where
  context : kept.context = { after.context with block := outer }
  blocks : ∀ id, (kept.tallies.get id).blocks =
    (after.tallies.get id).blocks ++ List.replicate (after.context.active.count id) b
  counters : ∀ id held, (kept.tallies.get id).counter held = (after.tallies.get id).counter held
  activation : ∀ id, (kept.tallies.get id).activation = (after.tallies.get id).activation
  clock : kept.clock = after.clock
  contexts : kept.contexts = after.contexts
  calls : kept.calls = after.calls
  events : kept.events = after.events

theorem keeps_keep (after : State) (outer : Option OpenBlock) (b : Block) :
    after.Keeps outer b ((after.setBlock outer).keep b) where
  context := rfl
  blocks := (after.setBlock outer).blocks_keep b
  counters := (after.setBlock outer).counter_keep b
  activation := (after.setBlock outer).activation_keep b
  clock := rfl
  contexts := rfl
  calls := rfl
  events := rfl

end State

/-- What leaves a test whose body has ended: the fault of the reporter that was told, and otherwise
what left the body. -/
def Raises (told : Option Fault) (outcome result : Except Raised Unit) : Prop :=
  match told with
  | some f => ∃ e, result = .error e ∧ e.fault = f
  | none => result = outcome

theorem fault_raiseDuring (outcome : Except Raised Unit) (f : Fault) :
    (raiseDuring outcome (.alone f)).fault = f := by
  cases outcome <;> rfl

theorem State.complete_raises (s : State) (r : Reporter) (b : Block)
    (outcome : Except Raised Unit) :
    Raises (r.respond s.calls (.complete b)).fault outcome (s.complete r b outcome).1 := by
  have heard : (s.keep b).calls = s.calls := rfl
  cases told : (r.respond s.calls (.complete b)).fault with
  | none => simp [Raises, complete, call, heard, told]
  | some f =>
    refine ⟨raiseDuring outcome (.alone f), ?_, fault_raiseDuring outcome f⟩
    simp [complete, call, heard, told]

/-! ## Descriptions -/

theorem checkDescription_of_true {description : Value} (truth : description.truth = .holds true) :
    checkDescription description = .ok () := by
  simp only [checkDescription, Value.decideTruth, truth]
  rfl

theorem checkDescription_of_false {description : Value} (truth : description.truth = .holds false) :
    checkDescription description = .error .emptyDescription := by
  simp only [checkDescription, Value.decideTruth, truth]
  rfl

theorem checkDescription_of_ambiguous {description : Value}
    (truth : description.truth = .ambiguous) :
    checkDescription description = .error .ambiguousTruth := by
  simp only [checkDescription, Value.decideTruth, truth]
  rfl

/-- A test is refused at its description: whatever was to be run, it ends with a fault and nothing
has happened. -/
def RefusesDescription (env : Setting) (s : State) (description : Value) (f : Fault) : Prop :=
  (∀ body inner, runBlock env description body s = (.error (.alone f), s)
      ∧ blockHistory env description body inner s = [])
    ∧ ∀ v, (Step.runValue description v).run env s = (.error (.alone f), s)

theorem refusesDescription_of_unnamed {env : Setting} {s : State} {description : Value} {f : Fault}
    (unnamed : checkDescription description = .error f) :
    RefusesDescription env s description f := by
  refine ⟨fun body inner => ?_, fun v => ?_⟩
  · exact ⟨runBlock_of_unnamed unnamed, blockHistory_of_unnamed unnamed⟩
  · simp only [Step.run, unnamed]

/-! ## Bodies -/

/-- A test goes through to its end: the body runs on the state that the start left, its block is
kept, and the reporter that was in use before the body is told of the block in the state in which it
is kept. -/
def Completes (env : Setting) (s : State) (description : Value)
    (body : State → Except Raised Unit × State) : Prop :=
  let ran := body ((s.begun env description).setBlock (some { description }))
  let b := Block.ofBody description s.clock ran.1 ran.2
  (∃ kept, ran.2.Keeps s.context.block b kept
      ∧ (runBlock env description body s).2 = (kept.call s.reporter (.complete b)).2)
    ∧ Raises (s.reporter.respond ran.2.calls (.complete b)).fault ran.1
      (runBlock env description body s).1
    ∧ ∀ inner, blockHistory env description body inner s =
      ⟨[], .told s.reporter (.start description)⟩ ::
        (History.within .block (inner ((s.begun env description).setBlock (some { description })))
          ++ [⟨[], .completed b⟩, ⟨[], .told s.reporter (.complete b)⟩])

section Bodies

variable {env : Setting} {s : State} {description : Value}
  {body : State → Except Raised Unit × State}

theorem announce_of_fault (env : Setting) {f : Fault}
    (fails : (s.reporter.respond s.calls (.start description)).fault = some f) :
    s.announce env description = (.error (.alone f), s.begun env description) := by
  rw [s.announce_eq, fails]

theorem announce_of_fine (env : Setting)
    (fine : (s.reporter.respond s.calls (.start description)).fault = none) :
    s.announce env description = (.ok (), s.begun env description) := by
  rw [s.announce_eq, fine]

theorem completes_of_begun (named : checkDescription description = .ok ())
    (begins : s.announce env description = (.ok (), s.begun env description)) :
    Completes env s description body := by
  unfold Completes
  intro ran b
  have runs : runBlock env description body s =
      (ran.2.setBlock s.context.block).complete s.reporter b ran.1 :=
    runBlock_of_begun named begins
  refine ⟨⟨_, State.keeps_keep _ _ _, ?_⟩, ?_, fun inner => ?_⟩
  · rw [runs, State.complete_state]
  · rw [runs]
    exact State.complete_raises (ran.2.setBlock s.context.block) _ _ _
  · exact blockHistory_of_begun named begins rfl

end Bodies

/-- For every state and description, and every reporter that does not call back into the session. A
description that is false, or whose truth cannot be told, ends the test with nothing done, and so
does something that is no body. A reporter that fails at the start ends it before any body is run,
with the fault of the reporter and every tally as it was. Otherwise every body runs to its end, and
the test completes. -/
theorem runTest_by_stages (env : Setting) (s : State) (description : Value) :
    (description.truth = .holds false →
      RefusesDescription env s description .emptyDescription
        ∧ Fault.emptyDescription.kind = "ValueError")
    ∧ (description.truth = .ambiguous → RefusesDescription env s description .ambiguousTruth)
    ∧ (description.truth = .holds true →
      (∀ v, (Step.runValue description v).run env s =
          (.error (.alone (.notCallable v.typeName)), s)
        ∧ (Fault.notCallable v.typeName).kind = "TypeError")
      ∧ (∀ f, (s.reporter.respond s.calls (.start description)).fault = some f →
        (s.begun env description).tallies = s.tallies
        ∧ (s.begun env description).context = s.context
        ∧ ∀ body inner, runBlock env description body s =
            (.error (.alone f), s.begun env description)
          ∧ blockHistory env description body inner s =
            [⟨[], .told s.reporter (.start description)⟩])
      ∧ ((s.reporter.respond s.calls (.start description)).fault = none →
        ∀ body, Completes env s description body)) := by
  refine ⟨fun falsy => ?_, fun ambiguous => ?_, fun truthy => ?_⟩
  · exact ⟨refusesDescription_of_unnamed (checkDescription_of_false falsy), rfl⟩
  · exact refusesDescription_of_unnamed (checkDescription_of_ambiguous ambiguous)
  have named := checkDescription_of_true truthy
  refine ⟨fun v => ⟨?_, rfl⟩, fun f fails => ⟨rfl, rfl, fun body inner => ?_⟩, fun fine body => ?_⟩
  · simp only [Step.run, named]
  · have refused := announce_of_fault env fails
    exact ⟨runBlock_of_refused named refused, blockHistory_of_refused named refused⟩
  · exact completes_of_begun named (announce_of_fine env fine)

/-- A body that enters a tally, leaves it active and is interrupted. -/
def interruptedBody : List Step :=
  [.enter "t", .assertion (.text "x") (.bool true), .fail "KeyboardInterrupt" []]

/-- A reporter that ends the program once it is told of a block that is done. -/
def lastWord : Reporter where
  className := "LastWord"
  moduleName := "reports"
  respond _ c :=
    match c with
    | .complete _ => { fault := some (.raised "SystemExit" [.int 3]) }
    | _ => {}

def lateReport : State :=
  ({} : State).setReporter (some lastWord)

theorem interruptedBody_completes :
    (Value.text "d").truth = .holds true
    ∧ (lateReport.reporter.respond lateReport.calls (.start (.text "d"))).fault = none
    ∧ (∃ e, (runBlock {} (.text "d") (runAll {} interruptedBody) lateReport).1 = .error e
      ∧ e.fault = .raised "SystemExit" [.int 3])
    ∧ ∃ b, ((runBlock {} (.text "d") (runAll {} interruptedBody) lateReport).2.tallies.get
        (.named "t")).blocks = [b]
      ∧ b.fault = some (.raised "KeyboardInterrupt" [])
      ∧ b.results = [⟨"x", true, some "d"⟩] := by
  have stages := (runTest_by_stages {} lateReport (.text "d")).2.2 rfl
  obtain ⟨⟨kept, keeps, ends⟩, raises, -⟩ := stages.2.2 rfl (runAll {} interruptedBody)
  rw [ends]
  exact ⟨rfl, rfl, raises, _, keeps.blocks (.named "t"), rfl, rfl⟩

/-- A description that is not false need not let a test begin: one whose truth cannot be told ends
it with a fault of its own, and no body is run. -/
theorem ambiguousName_stops_test :
    (Value.object .ambiguous (some "x") "<obj>").truth ≠ .holds false
    ∧ ∀ body, runBlock {} (.object .ambiguous (some "x") "<obj>") body {} =
      (.error (.alone .ambiguousTruth), {}) :=
  ⟨nofun, fun _ => rfl⟩

end InlineCheck
