import InlineCheck.Proofs.Session.Blocks
import InlineCheck.Proofs.Session.Oversight

/-! # Scopes put back what they found

What a block, a reporter's scope and a tally's body leave behind, whatever runs in them and however
it ends.

The open block and the chosen reporter are saved by the scope itself. What is active is not: a tally
remembers it, and a body may enter and leave any other tally in any order. The ingredient for this
is `Course.holds_activation`: as long as a tally is not left by hand, it remembers the same
activation, because every further entry of it is refused.
-/

namespace InlineCheck

/-! ## Reporters -/

/-- Every run ends under the reporter that it began under. -/
theorem Course.reporter {allowed : Step → Bool} {s t : State} {h : History}
    (c : Course allowed s h t) : t.context.reporter = s.context.reporter := by
  induction c with
  | rest | reach | tell | record | assign | keep | thread => rfl
  | andThen _ _ first second => exact second.trans first
  | quiet same => rw [same.context]
  | enter => exact State.enter_context_view Context.reporter (fun _ _ => rfl) _ _
  | leave => exact State.leave_context_view Context.reporter (fun _ _ => rfl) _ _
  | block description outcome same _ body => rw [← same.context]; exact body
  | tally _ _ body =>
    rw [State.leave_context_view Context.reporter fun _ _ => rfl, body]
    exact State.enter_context_view Context.reporter (fun _ _ => rfl) _ _
  | report r _ _ => rfl

/-! ## Activations -/

/-- A tally that is not left by hand remembers its activation to the end of a run. -/
theorem Course.holds_activation {allowed : Step → Bool} {name : String}
    (unleft : allowed (.leave name) = false) {s t : State} {h : History}
    (c : Course allowed s h t) {a : Activation} :
    (s.tallies.get (.named name)).activation = some a →
      (t.tallies.get (.named name)).activation = some a := by
  -- a tally that is left is another one, or else the step would not be allowed
  have other {name' : String} (ok : allowed (.leave name') = true) :
      TallyId.named name' ≠ .named name := by
    rintro ⟨⟩
    rw [unleft] at ok
    cases ok
  induction c with
  | rest | reach | tell => exact id
  | andThen _ _ first second => exact fun found => second (first found)
  | quiet same => exact fun found => by rwa [same.tallies]
  | record _ => exact fun found => by rwa [State.activation_record]
  | enter _ => exact fun found => State.activation_enter_of_some found _
  | leave ok => exact fun found => by rwa [State.get_leave_of_ne _ (other ok)]
  | assign _ | keep _ =>
    intro found
    refine (Ledger.modify_view Tally.activation ?_ _ _ _).trans found
    exact fun _ => rfl
  | block description outcome same _ body =>
    intro found
    rw [State.activation_keep]
    exact body (by rwa [← same.tallies] at found)
  | @tally s t h name' enters _ body =>
    intro found
    -- the body of the tally itself would have been refused
    have different : TallyId.named name' ≠ .named name := by
      rintro ⟨⟩
      have idle := (State.enter_ok enters).1
      rw [found] at idle
      cases idle
    rw [State.get_leave_of_ne _ different]
    exact body (State.activation_enter_of_some found _)
  | report r _ body => exact body
  | thread _ body => exact body

/-- A step that does not leave a tally by hand. -/
def Step.spares (name : String) : Step → Bool
  | .leave other => other ≠ name
  | _ => true

/-- After the body of a tally that it does not leave by hand, what was active before is active
again. -/
theorem tally_restores_active (env : Setting) (s : State) (name : String) (steps : List Step)
    (spared : everyStep (Step.spares name) steps = true) :
    ((Step.tally name steps).run env s).2.context.active = s.context.active := by
  show (runTally (.named name) (runAll env steps) s).2.context.active = _
  rcases s.enter_cases (.named name) with ⟨_, refused⟩ | ⟨_, enters⟩
  · rw [runTally_of_refused refused]
  · have c := runAll_course env steps spared (s.entered (.named name))
    have unleft : Step.spares name (.leave name) = false := by simp [Step.spares]
    have found := c.holds_activation unleft (s.activation_entered_self (.named name))
    have here : (runAll env steps (s.entered (.named name))).2.context.id = s.context.id :=
      c.context_id
    rw [← here] at found
    rw [runTally_state enters, State.leave_of_here found]
    rfl

/-! ## Scopes -/

theorem direct_history_of_runTest (env : Setting) (s : State) {step : Step}
    (named : step.name = "run_test") : (step.history env s).direct = [] := by
  cases step with
  | runTest | runDemanding =>
    rw [Step.history]
    exact History.direct_blockHistory
  | runValue => rfl
  | _ => simp [Step.name] at named

/-- From every state and whatever the steps inside do, whether they end normally or by a fault:
after a test block the open block and the reporter are those before it; after a reporter's scope the
reporter is the one before it, and the open block is the one before it, which has collected what the
scope recorded directly; and after the body of a tally what is active is what was active before it,
unless the body itself leaves the tally by hand. -/
theorem scopes_put_back (env : Setting) (s : State) :
    (∀ step : Step, step.name = "run_test" →
      (step.run env s).2.context.block = s.context.block
      ∧ (step.run env s).2.context.reporter = s.context.reporter)
    ∧ (∀ choice steps,
      ((Step.report choice steps).run env s).2.context.block
        = s.context.block.map (OpenBlock.collect ((Step.report choice steps).history env s).direct)
      ∧ ((Step.report choice steps).run env s).2.context.reporter = s.context.reporter)
    ∧ ∀ name steps, everyStep (Step.spares name) steps = true →
      ((Step.tally name steps).run env s).2.context.active = s.context.active := by
  have course (step : Step) := step.run_course env step.every_true s
  refine ⟨fun step named => ⟨?_, (course step).reporter⟩, fun choice steps => ?_, ?_⟩
  · rw [(course step).collects, direct_history_of_runTest env s named, OpenBlock.collect_nil,
      Option.map_id_fun, id]
  · exact ⟨(course (.report choice steps)).collects, (course (.report choice steps)).reporter⟩
  · exact tally_restores_active env s

/-- A body that leaves the tally outside of its own, enters two others that it leaves open, and
fails. -/
def unrulyBody : List Step :=
  [.enter "a", .leave "outer", .enter "b", .fail "ValueError" []]

/-- What is active when such a body ends has nothing in common with what was active before it. -/
theorem unrulyBody_put_back :
    let s := ({} : State).entered (.named "outer")
    everyStep (Step.spares "t") unrulyBody = true
    ∧ (runAll {} unrulyBody (s.entered (.named "t"))).2.context.active = [.named "b"]
    ∧ ((Step.tally "t" unrulyBody).run {} s).2.context.active = [.named "outer"] := by
  intro s
  have spared : everyStep (Step.spares "t") unrulyBody = true := by decide
  obtain ⟨_, _, restored⟩ := scopes_put_back {} s
  refine ⟨spared, by decide +kernel, ?_⟩
  rw [restored "t" unrulyBody spared]
  rfl

end InlineCheck
