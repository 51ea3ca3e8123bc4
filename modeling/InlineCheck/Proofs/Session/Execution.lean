import InlineCheck.Proofs.Session.Course

/-! # Executed steps

Which steps of a session run, and in which states.

* `executedAll` — the steps that run, each with the state that it begins in. A step after one that
  failed does not run, nor does the body of a scope that was refused.
* `answers` — what each of them comes to, its answer or the fault that leaves it, but for the name
  of the reporter.
* `threads` — the threads of a session: the one that it begins in, and those that its steps start.
-/

namespace InlineCheck

/-- The state in which the body of a block begins, if it does. -/
def State.insideBlock? (s : State) (env : Setting) (description : Value) : Option State :=
  match checkDescription description with
  | .error _ => none
  | .ok () =>
    match s.announce env description with
    | (.error _, _) => none
    | (.ok (), begun) => some (begun.setBlock (some { description }))

theorem State.insideBlock?_eq_some {s inside : State} {env : Setting} {description : Value}
    (begins : s.insideBlock? env description = some inside) :
    ∃ begun, checkDescription description = .ok () ∧ s.announce env description = (.ok (), begun)
      ∧ inside = begun.setBlock (some { description }) := by
  unfold insideBlock? at begins
  cases named : checkDescription description with
  | error f => simp [named] at begins
  | ok _ =>
    rcases told : s.announce env description with ⟨e | _, begun⟩
    · simp [named, told] at begins
    · simp only [named, told, Option.some.injEq] at begins
      exact ⟨begun, rfl, rfl, begins.symm⟩

mutual
/-- The steps that run when a step does: itself, and those of its body. -/
def Step.executed (env : Setting) : Step → State → List (Step × State)
  | .runTest description body, s =>
    (.runTest description body, s) ::
      match s.insideBlock? env description with
      | some inside => executedAll env body inside
      | none => []
  | .attempt steps, s => (.attempt steps, s) :: executedAll env steps s
  | .tally name steps, s =>
    (.tally name steps, s) ::
      match s.enter (.named name) with
      | (.ok (), inside) => executedAll env steps inside
      | (.error _, _) => []
  | .report choice steps, s =>
    (.report choice steps, s) ::
      match choice.resolve env with
      | .ok r => executedAll env steps (s.setReporter (some r))
      | .error _ => []
  | .thread steps, s => (.thread steps, s) :: executedAll env steps s.fork
  | step, s => [(step, s)]

/-- The steps that run when steps run in a row, each with the state that it begins in. -/
def executedAll (env : Setting) : List Step → State → List (Step × State)
  | [], _ => []
  | step :: steps, s =>
    step.executed env s
      ++ match step.run env s with
        | (.error _, _) => []
        | (.ok reply, s) => executedAll env steps (s.emit [.finished step.name reply])
end

/-- What a step comes to: its answer, or the fault that leaves it. What it answers about its
surroundings is taken without the name of the reporter. -/
def Step.answer (env : Setting) : Step → State → Except Raised Reply
  | .surroundings, s => .ok (.surroundings { s.surroundings with reporter := "" })
  | step, s => (step.run env s).1

/-- The steps that run, each with what it comes to. -/
def answers (env : Setting) (ran : List (Step × State)) : List (Step × Except Raised Reply) :=
  ran.map fun (step, s) => (step, step.answer env s)

theorem answers_append (env : Setting) (ran later : List (Step × State)) :
    answers env (ran ++ later) = answers env ran ++ answers env later :=
  List.map_append

/-! ## Threads -/

/-- The thread that a step starts: its steps, and the state that it begins in. -/
def startedThread? : Step × State → Option (List Step × State)
  | (.thread steps, s) => some (steps, s.fork)
  | _ => none

/-- The threads of steps that run from a state: their own, and those that they start. -/
def threads (env : Setting) (steps : List Step) (s : State) : List (List Step × State) :=
  (steps, s) :: (executedAll env steps s).filterMap startedThread?

/-- The happenings of a history are among those of another. -/
def History.Part (h k : History) : Prop :=
  ∀ o ∈ h, ∃ o' ∈ k, o'.happening = o.happening

namespace History.Part

theorem refl (h : History) : h.Part h := fun o member => ⟨o, member, rfl⟩

theorem append_left {h k : History} (part : h.Part k) (later : History) : h.Part (k ++ later) := by
  intro o member
  obtain ⟨o', found, same⟩ := part o member
  exact ⟨o', List.mem_append_left _ found, same⟩

theorem append_right {h k : History} (part : h.Part k) (earlier : History) :
    h.Part (earlier ++ k) := by
  intro o member
  obtain ⟨o', found, same⟩ := part o member
  exact ⟨o', List.mem_append_right _ found, same⟩

theorem within {h k : History} (part : h.Part k) (f : Frame) : h.Part (History.within f k) := by
  intro o member
  obtain ⟨o', found, same⟩ := part o member
  exact ⟨_, History.mem_within.mpr ⟨o'.frames, o'.happening, found, rfl⟩, same⟩

end History.Part

theorem begun_of_startedThread {x : Step × State} {body : List Step} {begun : State}
    (started : startedThread? x = some (body, begun)) : ∃ p : State, begun = p.fork := by
  obtain ⟨step, p⟩ := x
  cases step with
  | thread steps =>
    cases started
    exact ⟨p, rfl⟩
  | _ => cases started

mutual
theorem Step.part_of_thread (env : Setting) (step : Step) (s : State) {body : List Step}
    {begun : State} (started : (body, begun) ∈ (step.executed env s).filterMap startedThread?) :
    (∀ p, step.every p = true → everyStep p body = true)
      ∧ (historyAll env body begun).Part (step.history env s) := by
  cases step with
  | runTest description inner =>
    simp only [Step.executed] at started
    cases begins : s.insideBlock? env description with
    | none => simp [begins, startedThread?] at started
    | some inside =>
      simp only [begins, List.filterMap_cons, startedThread?] at started
      obtain ⟨opened, named, told, rfl⟩ := State.insideBlock?_eq_some begins
      obtain ⟨every, part⟩ := part_of_thread env inner _ started
      rw [Step.history, blockHistory_of_begun named told rfl]
      exact ⟨every, ((part.within .block).append_left _).append_right [_]⟩
  | attempt steps =>
    simp only [Step.executed, List.filterMap_cons, startedThread?] at started
    exact part_of_thread env steps s started
  | tally name steps =>
    simp only [Step.executed, List.filterMap_cons, startedThread?] at started
    rw [Step.history, tallyHistory]
    rcases enters : s.enter (.named name) with ⟨_ | _, inside⟩
    · simp [enters] at started
    · rw [enters] at started
      obtain ⟨every, part⟩ := part_of_thread env steps inside started
      exact ⟨every, part.within _⟩
  | report choice steps =>
    simp only [Step.executed, List.filterMap_cons, startedThread?] at started
    rw [Step.history]
    cases resolves : choice.resolve env with
    | error f => simp [resolves] at started
    | ok r =>
      rw [resolves] at started
      exact part_of_thread env steps _ started
  | thread steps =>
    simp only [Step.executed, List.filterMap_cons, startedThread?, List.mem_cons] at started
    rcases started with own | later
    · cases own
      exact ⟨fun _ every => every, (History.Part.refl _).within .thread⟩
    · obtain ⟨every, part⟩ := part_of_thread env steps s.fork later
      exact ⟨every, part.within .thread⟩
  | _ => simp [Step.executed, startedThread?] at started

/-- The steps of a thread that steps start are among them, and what happens in it is part of what
happens while they run. -/
theorem part_of_thread (env : Setting) (steps : List Step) (s : State) {body : List Step}
    {begun : State} (started : (body, begun) ∈ (executedAll env steps s).filterMap startedThread?) :
    (∀ p, everyStep p steps = true → everyStep p body = true)
      ∧ (historyAll env body begun).Part (historyAll env steps s) := by
  cases steps with
  | nil => simp [executedAll] at started
  | cons step steps =>
    rw [executedAll, List.filterMap_append, List.mem_append] at started
    simp only [everyStep, Bool.and_eq_true]
    rcases ran : step.run env s with ⟨e | reply, t⟩
    · rw [historyAll_of_failed ran]
      rcases started with now | later
      · obtain ⟨every, part⟩ := Step.part_of_thread env step s now
        exact ⟨fun p both => every p both.1, part.append_right _⟩
      · simp [ran] at later
    · rw [historyAll_of_finished ran]
      rcases started with now | later
      · obtain ⟨every, part⟩ := Step.part_of_thread env step s now
        exact ⟨fun p both => every p both.1, (part.append_left _).append_right _⟩
      · rw [ran] at later
        obtain ⟨every, part⟩ := part_of_thread env steps _ later
        exact ⟨fun p both => every p both.2, (part.append_right _).append_right _⟩
end

end InlineCheck
