import InlineCheck.Proofs.Session.History

/-! # Courses

Everything that a run can do to a state, as one relation: `Course allowed s h t` holds when a run
that made the history `h` leads from `s` to `t`. A law of all runs is an induction over courses,
with one case for each effect and each scope; no such proof opens `Step.run` again.

* `Step.every`, `everyStep` — whether a property holds of all steps that have no body, also inside
  bodies.
* `Course` — the effects and scopes of runs.
* `runAll_course` — every run is a course.
-/

namespace InlineCheck

/-! ## Properties of steps -/

mutual
/-- Whether a step without a body has a property, or all of them inside its body. -/
def Step.every (p : Step → Bool) : Step → Bool
  | .runTest _ body => everyStep p body
  | .attempt steps => everyStep p steps
  | .tally _ steps => everyStep p steps
  | .report _ steps => everyStep p steps
  | .thread steps => everyStep p steps
  | step => p step

/-- Whether all steps without a body have a property. -/
def everyStep (p : Step → Bool) : List Step → Bool
  | [] => true
  | step :: steps => step.every p && everyStep p steps
end

mutual
theorem Step.every_true (step : Step) : step.every (fun _ => true) = true := by
  cases step with
  | runTest _ body => exact everyStep_true body
  | attempt steps | tally _ steps | report _ steps | thread steps => exact everyStep_true steps
  | _ => rfl

theorem everyStep_true (steps : List Step) : everyStep (fun _ => true) steps = true := by
  cases steps with
  | nil => rfl
  | cons step steps => simp [everyStep, step.every_true, everyStep_true steps]
end

/-! ## Courses -/

/-- Two states differ at most in the clock, the calls and the events. -/
structure SameBooks (s t : State) : Prop where
  context : t.context = s.context
  tallies : t.tallies = s.tallies
  contexts : t.contexts = s.contexts

/-- A run leads from a state to a state, with a history. Of the steps without a body that change
tallies directly, only allowed ones occur. -/
inductive Course (allowed : Step → Bool) : State → History → State → Prop where
  | rest (s : State) : Course allowed s [] s
  | andThen {s t u : State} {h k : History} :
      Course allowed s h t → Course allowed t k u → Course allowed s (h ++ k) u
  | reach (s : State) : Course allowed s [⟨[], .reached s⟩] s
  | tell (s : State) (r : Reporter) (c : Call) : Course allowed s [⟨[], .told r c⟩] s
  | quiet {s t : State} : SameBooks s t → Course allowed s [] t
  | record {s : State} {label condition : Value} {a : Assertion} :
      s.assertionOf label condition = .ok a → Course allowed s [⟨[], .recorded a⟩] (s.record a)
  | enter {s : State} {name : String} :
      allowed (.enter name) = true → Course allowed s [] (s.enter (.named name)).2
  | leave {s : State} {name : String} :
      allowed (.leave name) = true → Course allowed s [] (s.leave (.named name)).2
  | assign {s : State} {name : String} {passed failed : Int} :
      allowed (.assign name passed failed) = true →
      Course allowed s []
        { s with tallies := s.tallies.modify (.named name) ({ · with passed, failed }) }
  | keep {s : State} {name : String} {b : Block} :
      allowed (.keep name b) = true →
      Course allowed s [] { s with tallies := s.tallies.modify (.named name) (·.keep b) }
  | block {s begun t : State} {h : History} (description : Value) (outcome : Except Raised Unit) :
      SameBooks s begun →
      Course allowed (begun.setBlock (some { description })) h t →
      Course allowed s
        (⟨[], .told s.reporter (.start description)⟩ :: (History.within .block h
          ++ [⟨[], .completed (.ofBody description begun.clock outcome t)⟩,
            ⟨[], .told s.reporter (.complete (.ofBody description begun.clock outcome t))⟩]))
        ((t.setBlock begun.context.block).keep (.ofBody description begun.clock outcome t))
  | tally {s t : State} {h : History} {name : String} :
      (s.enter (.named name)).1 = .ok () →
      Course allowed (s.enter (.named name)).2 h t →
      Course allowed s (History.within (.tally (.named name)) h) (t.leave (.named name)).2
  | report {s t : State} {h : History} (r : Reporter) :
      Course allowed (s.setReporter (some r)) h t →
      Course allowed s h (t.setReporter s.context.reporter)
  | thread {s t : State} {h : History} :
      Course allowed s.fork h t →
      Course allowed s (History.within .thread h) (t.setContext s.context)

namespace Course

variable {allowed : Step → Bool}

theorem emit (s : State) (es : List Event) : Course allowed s [] (s.emit es) :=
  .quiet ⟨rfl, rfl, rfl⟩

theorem thenQuiet {s t u : State} {h : History} (c : Course allowed s h t) (same : SameBooks t u) :
    Course allowed s h u := by
  simpa using c.andThen (.quiet same)

theorem call (s : State) (r : Reporter) (c : Call) :
    Course allowed s [⟨[], .told r c⟩] (s.call r c).2 :=
  (Course.tell s r c).thenQuiet ⟨rfl, rfl, rfl⟩

theorem check (s : State) (label condition : Value) :
    Course allowed s (s.checkHistory label condition) (s.check label condition).2 := by
  unfold State.checkHistory
  cases made : s.assertionOf label condition with
  | error f => rw [State.check_of_error made]; exact .rest s
  | ok a =>
    rw [State.check_state made]
    exact (Course.record made).andThen (call (s.record a) s.reporter (.assertion a))

/-! ## Scopes -/

/-- A block is a course when its body is one: its description may be refused, its reporter may
refuse it, or it is begun and completed. -/
theorem runBlock {env : Setting} {description : Value} {body : State → Except Raised Unit × State}
    {inner : State → History} (bodies : ∀ s, Course allowed s (inner s) (body s).2) (s : State) :
    Course allowed s (blockHistory env description body inner s)
      (runBlock env description body s).2 := by
  have told : Course allowed s [⟨[], .told s.reporter (.start description)⟩]
      (s.announce env description).2 :=
    (emit s _).andThen (call _ s.reporter (.start description))
  have books : SameBooks s (s.announce env description).2 := ⟨rfl, rfl, rfl⟩
  cases named : checkDescription description with
  | error f =>
    rw [blockHistory_of_unnamed named, runBlock_of_unnamed named]
    exact .rest s
  | ok _ =>
    rcases begins : s.announce env description with ⟨e | _, begun⟩
    · rw [blockHistory_of_refused named begins, runBlock_of_refused named begins]
      rwa [begins] at told
    · -- what the reporter is told at the end changes no tally
      rw [blockHistory_of_begun named begins rfl, runBlock_of_begun named begins,
        State.complete_state]
      rw [begins] at books
      have closed := Course.block description (body (begun.setBlock (some { description }))).1 books
        (bodies (begun.setBlock (some { description })))
      exact closed.thenQuiet ⟨rfl, rfl, rfl⟩

theorem runTally {name : String} {body : State → Except Raised Unit × State}
    {inner : State → History} (bodies : ∀ s, Course allowed s (inner s) (body s).2) (s : State) :
    Course allowed s (tallyHistory (.named name) inner s) (runTally (.named name) body s).2 := by
  unfold tallyHistory
  rcases s.enter_cases (.named name) with ⟨_, refused⟩ | ⟨_, enters⟩
  · rw [refused, runTally_of_refused refused]
    exact .rest s
  · rw [enters, runTally_state enters]
    have inside := bodies (s.entered (.named name))
    exact .tally (by rw [enters]) (by rwa [enters])

end Course

/-! ## Runs are courses -/

mutual
theorem Step.run_course {allowed : Step → Bool} (env : Setting) (step : Step)
    (ok : step.every allowed = true) (s : State) :
    Course allowed s (step.history env s) (step.run env s).2 := by
  cases step with
  | assertion label condition => exact .check s label condition
  | check condition label => exact .check s label condition
  | runTest description body => exact .runBlock (runAll_course env body ok) s
  | runDemanding description =>
    -- the body of this block is no list of steps: it fails at once and its history is empty
    simp only [Step.history, Step.run, silent]
    exact .runBlock (fun inside => .rest inside) s
  | attempt steps => exact runAll_course env steps ok s
  | tally name steps => exact .runTally (runAll_course env steps ok) s
  | enter name => exact .enter ok
  | leave name => exact .leave ok
  | assign name passed failed => exact .assign ok
  | keep name block => exact .keep ok
  | summary name => exact .call s _ _
  | tell c => exact .call s _ _
  | report choice steps =>
    unfold Step.history Step.run
    cases choice.resolve env with
    | error f => exact .rest s
    | ok r => exact .report r (runAll_course env steps ok (s.setReporter (some r)))
  | thread steps => exact .thread (runAll_course env steps ok s.fork)
  | print text toErr =>
    unfold Step.history Step.run
    cases text.display with
    | error f => exact .rest s
    | ok t => exact .emit s _
  | advance ticks => exact .quiet ⟨rfl, rfl, rfl⟩
  | slice source start stop => exact .emit s _
  | range start stop step => exact .emit s _
  | runValue _ _ | fail _ _ | quit _ | state _ | surroundings | arguments => exact .rest s

/-- Every run is a course, whether it ends normally or by a fault. -/
theorem runAll_course {allowed : Step → Bool} (env : Setting) (steps : List Step)
    (ok : everyStep allowed steps = true) (s : State) :
    Course allowed s (historyAll env steps s) (runAll env steps s).2 := by
  cases steps with
  | nil => exact .reach s
  | cons step steps =>
    simp only [everyStep, Bool.and_eq_true] at ok
    have first := (Course.reach s).andThen (Step.run_course env step ok.1 s)
    unfold historyAll runAll
    rcases ran : step.run env s with ⟨e | reply, t⟩
    · simpa [ran] using first
    · rw [ran] at first
      have later := runAll_course env steps ok.2 (t.emit [.finished step.name reply])
      simpa using first.andThen ((Course.emit t _).andThen later)
end

end InlineCheck
