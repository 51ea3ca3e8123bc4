import InlineCheck.Proofs.Console.Escaped
import InlineCheck.Proofs.Session.Execution

/-! # Runs under two reporters

What reporters write is all that they do to a session, unless they fail, since they do not call back
into it. Two runs of the same steps, under reporters that do not fail when told texts and with log
records that go elsewhere, therefore stay in step.

* `State.recast` — a state under another reporter and with other events; every operation commutes
  with it.
* `State.Alike` — two states differ in no more than that.
* `runAll_agree` — runs from such states come to the same, in such states.
* `answersAll_alike` — and so does every step on the way.
-/

namespace InlineCheck

/-! ## Reporters -/

/-- Two reporters do the same to a session: they are one, or neither fails when told texts. -/
def Reporter.Alike (r r' : Reporter) : Prop :=
  r' = r ∨ (r.Steady ∧ r'.Steady)

theorem Reporter.Alike.fault {r r' : Reporter} (alike : r.Alike r') {c : Call}
    (textual : c.isTextual = true) (earlier : List Call) :
    (r'.respond earlier c).fault = (r.respond earlier c).fault := by
  rcases alike with rfl | ⟨first, second⟩
  · rfl
  · rw [first earlier c textual, second earlier c textual]

/-- The same setting with log records that go elsewhere. -/
def Setting.logged (env : Setting) (logging : Logging) : Setting :=
  { env with logging }

theorem ReporterChoice.resolve_logged (choice : ReporterChoice) (env : Setting)
    (logging : Logging) : choice.resolve (env.logged logging) = choice.resolve env := by
  cases choice <;> rfl

/-! ## States -/

/-- A state under another reporter and with other events. -/
def State.recast (s : State) (r : Option Reporter) (es : List Event) : State :=
  { s with context := { s.context with reporter := r }, events := es }

/-- Two states differ in the reporter and in the events only, and the reporters do the same. -/
inductive State.Alike (s : State) : State → Prop where
  | recast (r : Option Reporter) (es : List Event) :
      s.reporter.Alike (r.getD (.trace false)) → State.Alike s (s.recast r es)

/-- Two runs came to the same, in states that are alike. -/
structure Agree {α : Type} (x y : Except Raised α × State) : Prop where
  outcome : y.1 = x.1
  states : x.2.Alike y.2

theorem Agree.cases {α : Type} {x y : Except Raised α × State} (agree : Agree x y) :
    (∃ e s t, x = (.error e, s) ∧ y = (.error e, t) ∧ s.Alike t)
    ∨ ∃ a s t, x = (.ok a, s) ∧ y = (.ok a, t) ∧ s.Alike t := by
  obtain ⟨outcome, s⟩ := x
  obtain ⟨outcome', t⟩ := y
  obtain ⟨same, alike⟩ := agree
  cases (same : outcome' = outcome)
  cases outcome with
  | error e => exact .inl ⟨e, s, t, rfl, rfl, alike⟩
  | ok a => exact .inr ⟨a, s, t, rfl, rfl, alike⟩

namespace State

variable {s t : State}

namespace Alike

theorem refl (s : State) : s.Alike s :=
  .recast s.context.reporter s.events (.inl rfl)

theorem reporter (alike : s.Alike t) : s.reporter.Alike t.reporter := by
  cases alike with
  | recast r es voice => exact voice

theorem emit (alike : s.Alike t) (es fs : List Event) : (s.emit es).Alike (t.emit fs) := by
  cases alike with
  | recast r es' voice => exact .recast r (es' ++ fs) voice

theorem hear (alike : s.Alike t) (c : Call) : (s.hear c).Alike (t.hear c) := by
  cases alike with
  | recast r es voice => exact .recast r es voice

theorem log (alike : s.Alike t) (env : Setting) (logging : Logging) (rs : List LogRecord) :
    (s.log env rs).Alike (t.log (env.logged logging) rs) :=
  alike.emit _ _

theorem setBlock (alike : s.Alike t) (b : Option OpenBlock) :
    (s.setBlock b).Alike (t.setBlock b) := by
  cases alike with
  | recast r es voice => exact .recast r es voice

theorem setReporter (alike : s.Alike t) {r r' : Option Reporter}
    (voice : (r.getD (.trace false)).Alike (r'.getD (.trace false))) :
    (s.setReporter r).Alike (t.setReporter r') := by
  cases alike with
  | recast _ es _ => exact .recast r' es voice

theorem fork (alike : s.Alike t) : s.fork.Alike t.fork := by
  cases alike with
  | recast r es _ => exact .recast none es (.inl rfl)

theorem setContext {after after' : State} (alike : after.Alike after') (outer : s.Alike t) :
    (after.setContext s.context).Alike (after'.setContext t.context) := by
  cases alike with
  | recast _ es _ =>
    cases outer with
    | recast r _ voice => exact .recast r es voice

theorem tallies (alike : s.Alike t) : t.tallies = s.tallies := by
  cases alike with
  | recast => rfl

theorem block (alike : s.Alike t) : t.context.block = s.context.block := by
  cases alike with
  | recast => rfl

theorem clock (alike : s.Alike t) : t.clock = s.clock := by
  cases alike with
  | recast => rfl

theorem calls (alike : s.Alike t) : t.calls = s.calls := by
  cases alike with
  | recast => rfl

theorem setReporter_context (alike : s.Alike t) (r : Option Reporter) :
    (t.setReporter r).context = (s.setReporter r).context := by
  cases alike with
  | recast => rfl

theorem record (alike : s.Alike t) (a : Assertion) : (s.record a).Alike (t.record a) := by
  cases alike with
  | recast r es voice => exact .recast r es voice

theorem keep (alike : s.Alike t) (b : Block) : (s.keep b).Alike (t.keep b) := by
  cases alike with
  | recast r es voice => exact .recast r es voice

end Alike

/-! ## Operations -/

theorem enter_agree (alike : s.Alike t) (id : TallyId) : Agree (s.enter id) (t.enter id) := by
  cases alike with
  | recast r es voice =>
    unfold enter
    dsimp only [recast]
    split
    · exact ⟨rfl, .recast r es voice⟩
    · exact ⟨rfl, .recast r es voice⟩

theorem leave_agree (alike : s.Alike t) (id : TallyId) : Agree (s.leave id) (t.leave id) := by
  cases alike with
  | recast r es voice =>
    unfold leave
    dsimp only [recast]
    split
    · exact ⟨rfl, .recast r es voice⟩
    · split
      · exact ⟨rfl, .recast r es voice⟩
      · exact ⟨rfl, .recast r es voice⟩

theorem call_agree (alike : s.Alike t) {r r' : Reporter} (voice : r.Alike r') {c : Call}
    (textual : c.isTextual = true) : Agree (s.call r c) (t.call r' c) where
  outcome := by rw [call_fst, call_fst, alike.calls, voice.fault textual]
  states := (alike.hear c).emit _ _

theorem assertionOf_alike (alike : s.Alike t) (label condition : Value) :
    t.assertionOf label condition = s.assertionOf label condition := by
  cases alike with
  | recast => rfl

theorem check_agree (alike : s.Alike t) (label condition : Value) :
    Agree (s.check label condition) (t.check label condition) := by
  have same := assertionOf_alike alike label condition
  cases made : s.assertionOf label condition with
  | error f =>
    rw [check_of_error made, check_of_error (same.trans made)]
    exact ⟨rfl, alike⟩
  | ok a =>
    have recorded := alike.record a
    have told : Agree ((s.record a).call (s.record a).reporter (.assertion a))
        ((t.record a).call (t.record a).reporter (.assertion a)) :=
      call_agree recorded recorded.reporter rfl
    simp only [check, same, made]
    rcases told.cases with ⟨e, u, v, first, second, after⟩ | ⟨_, u, v, first, second, after⟩
    · rw [first, second]
      exact ⟨rfl, after⟩
    · rw [first, second]
      exact ⟨rfl, after⟩

theorem announce_agree (alike : s.Alike t) (env : Setting) (logging : Logging) {description : Value}
    (textual : description.isText = true) :
    Agree (s.announce env description) (t.announce (env.logged logging) description) :=
  call_agree (alike.log env logging _) alike.reporter textual

theorem ofBody_alike (alike : s.Alike t) (description : Value) (began : Nat)
    (outcome : Except Raised Unit) :
    Block.ofBody description began outcome t = Block.ofBody description began outcome s := by
  cases alike with
  | recast => rfl

theorem complete_agree (alike : s.Alike t) {r r' : Reporter} (voice : r.Alike r') {b : Block}
    (textual : b.description.isText = true) (outcome : Except Raised Unit) :
    Agree (s.complete r b outcome) (t.complete r' b outcome) := by
  have told : Agree ((s.keep b).call r (.complete b)) ((t.keep b).call r' (.complete b)) :=
    call_agree (alike.keep b) voice textual
  unfold complete
  rcases told.cases with ⟨e, u, v, first, second, after⟩ | ⟨_, u, v, first, second, after⟩
  · rw [first, second]
    exact ⟨rfl, after⟩
  · rw [first, second]
    exact ⟨rfl, after⟩

end State

/-! ## Scopes -/

section Scopes

variable {s t : State} {body body' : State → Except Raised Unit × State}
  (bodies : ∀ {s t : State}, s.Alike t → Agree (body s) (body' t))
include bodies

theorem runBlock_agree (alike : s.Alike t) (env : Setting) (logging : Logging) {description : Value}
    (textual : description.isText = true) :
    Agree (runBlock env description body s)
      (runBlock (env.logged logging) description body' t) := by
  cases named : checkDescription description with
  | error f =>
    rw [runBlock_of_unnamed named, runBlock_of_unnamed named]
    exact ⟨rfl, alike⟩
  | ok _ =>
    have voice := alike.reporter
    rcases (State.announce_agree alike env logging textual).cases with
      ⟨e, u, v, first, second, after⟩ | ⟨_, u, v, first, second, begun⟩
    · rw [runBlock_of_refused named first, runBlock_of_refused named second]
      exact ⟨rfl, after⟩
    · rw [runBlock_of_begun named first, runBlock_of_begun named second]
      have inside := bodies (begun.setBlock (some { description }))
      rw [inside.outcome, begun.block, begun.clock, State.ofBody_alike inside.states]
      exact State.complete_agree (inside.states.setBlock _) voice textual _

theorem runTally_agree (alike : s.Alike t) (id : TallyId) :
    Agree (runTally id body s) (runTally id body' t) := by
  unfold runTally
  rcases (State.enter_agree alike id).cases with
    ⟨e, u, v, first, second, after⟩ | ⟨_, u, v, first, second, entered⟩
  · rw [first, second]
    exact ⟨rfl, after⟩
  · rw [first, second]
    have inside := bodies entered
    simp only [inside.outcome]
    rcases (State.leave_agree inside.states id).cases with
      ⟨e, u', v', first, second, after⟩ | ⟨_, u', v', first, second, after⟩
    · rw [first, second]
      exact ⟨rfl, after⟩
    · rw [first, second]
      exact ⟨rfl, after⟩

theorem runReporter_agree (alike : s.Alike t) {r r' : Reporter} (voice : r.Alike r') :
    Agree (runReporter r body s) (runReporter r' body' t) := by
  have chosen : (s.setReporter (some r)).Alike (t.setReporter (some r')) := alike.setReporter voice
  exact ⟨(bodies chosen).outcome, (bodies chosen).states.setReporter alike.reporter⟩

theorem runThread_agree (alike : s.Alike t) : Agree (runThread body s) (runThread body' t) := by
  have inside := bodies alike.fork
  exact ⟨inside.outcome, inside.states.setContext alike⟩

end Scopes

/-! ## Steps -/

mutual
/-- Whether the descriptions that a step tells reporters are texts. -/
def Step.isTextual : Step → Bool
  | .runTest description body => description.isText && areTextual body
  | .runDemanding description => description.isText
  | .tell c => c.isTextual
  | .attempt steps => areTextual steps
  | .tally _ steps => areTextual steps
  | .report _ steps => areTextual steps
  | .thread steps => areTextual steps
  | _ => true

def areTextual : List Step → Bool
  | [] => true
  | step :: steps => step.isTextual && areTextual steps
end

/-- Steps with the same answers are left by the same fault, or by none. -/
theorem Step.run_cases {env env' : Setting} {step : Step} {s t : State}
    (same : step.answer env' t = step.answer env s) :
    (∃ e u v, step.run env s = (.error e, u) ∧ step.run env' t = (.error e, v))
    ∨ ∃ a b u v, step.run env s = (.ok a, u) ∧ step.run env' t = (.ok b, v) := by
  have shape (env : Setting) (s : State) :
      (step.answer env s).map (fun _ => ()) = (step.run env s).1.map fun _ => () := by
    cases step <;> rfl
  have outcome := congrArg (Except.map fun _ => ()) same
  rw [shape, shape] at outcome
  rcases first : step.run env s with ⟨e | a, u⟩ <;>
    rcases second : step.run env' t with ⟨e' | b, v⟩ <;> rw [first, second] at outcome
  · cases outcome
    exact .inl ⟨e, u, v, rfl, rfl⟩
  · cases outcome
  · cases outcome
  · exact .inr ⟨a, b, u, v, rfl, rfl⟩

mutual
theorem Step.run_alike (env : Setting) (logging : Logging) (step : Step)
    (textual : step.isTextual = true) {s t : State} (alike : s.Alike t) :
    step.answer (env.logged logging) t = step.answer env s
      ∧ (step.run env s).2.Alike (step.run (env.logged logging) t).2 := by
  have answered {α : Type} {x y : Except Raised α × State} (agree : Agree x y) (f : α → Reply) :
      y.1.map f = x.1.map f ∧ x.2.Alike y.2 :=
    ⟨congrArg (Except.map f) agree.outcome, agree.states⟩
  cases step with
  | assertion label condition => exact answered (State.check_agree alike label condition) .assertion
  | check condition label => exact answered (State.check_agree alike label condition) .assertion
  | runTest description body =>
    simp only [Step.isTextual, Bool.and_eq_true] at textual
    have inside {s t : State} := runAll_agree env logging body textual.2 (s := s) (t := t)
    exact answered (runBlock_agree inside alike env logging textual.1) fun _ => .nothing
  | runDemanding description =>
    refine answered (runBlock_agree ?_ alike env logging textual) fun _ => .nothing
    exact fun inside => ⟨rfl, inside⟩
  | attempt steps =>
    have inside := runAll_agree env logging steps textual alike
    exact ⟨congrArg (fun outcome => Except.ok (caught outcome)) inside.outcome, inside.states⟩
  | tally name steps =>
    have inside {s t : State} := runAll_agree env logging steps textual (s := s) (t := t)
    have ran := runTally_agree inside alike (.named name)
    refine ⟨?_, ran.states⟩
    simp only [Step.answer, Step.run]
    rw [ran.outcome, ran.states.tallies]
  | enter name => exact answered (State.enter_agree alike (.named name)) fun _ => .entered
  | leave name => exact answered (State.leave_agree alike (.named name)) fun _ => .nothing
  | state name =>
    refine ⟨?_, alike⟩
    simp only [Step.answer, Step.run]
    rw [alike.tallies]
  | surroundings =>
    cases alike with
    | recast r es voice => exact ⟨rfl, .recast r es voice⟩
  | summary name =>
    simp only [Step.answer, Step.run]
    rw [alike.tallies]
    exact answered (State.call_agree alike alike.reporter rfl) fun _ => .nothing
  | assign name passed failed =>
    refine ⟨rfl, ?_⟩
    cases alike with
    | recast r es voice => exact .recast r es voice
  | keep name block =>
    refine ⟨rfl, ?_⟩
    cases alike with
    | recast r es voice => exact .recast r es voice
  | tell c => exact answered (State.call_agree alike alike.reporter textual) fun _ => .nothing
  | report choice steps =>
    simp only [Step.answer, Step.run]
    rw [choice.resolve_logged]
    cases choice.resolve env with
    | error f => exact ⟨rfl, alike⟩
    | ok r =>
      have inside {s t : State} := runAll_agree env logging steps textual (s := s) (t := t)
      exact answered (runReporter_agree inside alike (.inl rfl)) fun _ => .nothing
  | thread steps =>
    have inside {s t : State} := runAll_agree env logging steps textual (s := s) (t := t)
    have ran := runThread_agree inside alike
    exact ⟨congrArg (fun outcome => Except.ok (caught outcome)) ran.outcome, ran.states⟩
  | advance ticks =>
    refine ⟨rfl, ?_⟩
    cases alike with
    | recast r es voice => exact .recast r es voice
  | print text toErr =>
    simp only [Step.answer, Step.run]
    cases text.display with
    | error f => exact ⟨rfl, alike⟩
    | ok shown => exact ⟨rfl, alike.emit _ _⟩
  | slice source start stop => exact ⟨rfl, alike.log env logging _⟩
  | range start stop step => exact ⟨rfl, alike.log env logging _⟩
  | runValue _ _ | fail _ _ | quit _ | arguments => exact ⟨rfl, alike⟩

theorem runAll_agree (env : Setting) (logging : Logging) (steps : List Step)
    (textual : areTextual steps = true) {s t : State} (alike : s.Alike t) :
    Agree (runAll env steps s) (runAll (env.logged logging) steps t) := by
  cases steps with
  | nil => exact ⟨rfl, alike⟩
  | cons step steps =>
    simp only [areTextual, Bool.and_eq_true] at textual
    obtain ⟨same, after⟩ := Step.run_alike env logging step textual.1 alike
    rw [runAll, runAll]
    rcases Step.run_cases same with ⟨e, u, v, first, second⟩ | ⟨a, b, u, v, first, second⟩
    · rw [first, second] at after ⊢
      exact ⟨rfl, after⟩
    · rw [first, second] at after ⊢
      exact runAll_agree env logging steps textual.2 (after.emit _ _)
end

/-! ## Answers -/

theorem State.insideBlock?_alike {s t : State} (alike : s.Alike t) (env : Setting)
    (logging : Logging) {description : Value} (textual : description.isText = true) :
    (s.insideBlock? env description = none ∧ t.insideBlock? (env.logged logging) description = none)
    ∨ ∃ u v, s.insideBlock? env description = some u
      ∧ t.insideBlock? (env.logged logging) description = some v ∧ u.Alike v := by
  unfold insideBlock?
  cases checkDescription description with
  | error f => exact .inl ⟨rfl, rfl⟩
  | ok _ =>
    rcases (announce_agree alike env logging textual).cases with
      ⟨e, u, v, first, second, _⟩ | ⟨_, u, v, first, second, begun⟩
    · rw [first, second]
      exact .inl ⟨rfl, rfl⟩
    · rw [first, second]
      exact .inr ⟨_, _, rfl, rfl, begun.setBlock _⟩

mutual
theorem Step.answers_alike (env : Setting) (logging : Logging) (step : Step)
    (textual : step.isTextual = true) {s t : State} (alike : s.Alike t) :
    answers (env.logged logging) (step.executed (env.logged logging) t)
      = answers env (step.executed env s) := by
  have own {step : Step} {ran ran' : List (Step × State)} (textual : step.isTextual = true)
      (same : answers (env.logged logging) ran' = answers env ran) :
      answers (env.logged logging) ((step, t) :: ran') = answers env ((step, s) :: ran) := by
    simp only [answers, List.map_cons] at same ⊢
    rw [same, (Step.run_alike env logging step textual alike).1]
  cases step with
  | runTest description body =>
    refine own textual ?_
    simp only [Step.isTextual, Bool.and_eq_true] at textual
    rcases State.insideBlock?_alike alike env logging textual.1 with
      ⟨first, second⟩ | ⟨u, v, first, second, inside⟩
    · rw [first, second]
      rfl
    · rw [first, second]
      exact answersAll_alike env logging body textual.2 inside
  | attempt steps => exact own textual (answersAll_alike env logging steps textual alike)
  | tally name steps =>
    refine own textual ?_
    rcases (State.enter_agree alike (.named name)).cases with
      ⟨e, u, v, first, second, _⟩ | ⟨_, u, v, first, second, entered⟩
    · rw [first, second]
      rfl
    · rw [first, second]
      exact answersAll_alike env logging steps textual entered
  | report choice steps =>
    refine own textual ?_
    rw [choice.resolve_logged]
    cases choice.resolve env with
    | error f => rfl
    | ok r => exact answersAll_alike env logging steps textual (alike.setReporter (.inl rfl))
  | thread steps => exact own textual (answersAll_alike env logging steps textual alike.fork)
  | _ => exact own textual rfl

theorem answersAll_alike (env : Setting) (logging : Logging) (steps : List Step)
    (textual : areTextual steps = true) {s t : State} (alike : s.Alike t) :
    answers (env.logged logging) (executedAll (env.logged logging) steps t)
      = answers env (executedAll env steps s) := by
  cases steps with
  | nil => rfl
  | cons step steps =>
    simp only [areTextual, Bool.and_eq_true] at textual
    obtain ⟨same, after⟩ := Step.run_alike env logging step textual.1 alike
    have head := Step.answers_alike env logging step textual.1 alike
    rw [executedAll, executedAll, answers_append, answers_append, head]
    rcases Step.run_cases same with ⟨e, u, v, first, second⟩ | ⟨a, b, u, v, first, second⟩
    · rw [first, second]
      rfl
    · rw [first, second] at after ⊢
      rw [answersAll_alike env logging steps textual.2 (after.emit _ _)]
end

end InlineCheck
