import InlineCheck.Proofs.Command.Verdict
import InlineCheck.Proofs.Session.Calls

/-! # The summary of a run

What the reporter is told when a script has run.

* `Tally.AgreesWith` — a tally has the counts of calls.
* `Outcome.Sums` — a command ends by telling its reporter a tally.
* `Overseen.agrees` — the command's tally has counted what it oversaw, and reporters were told of
  all of it.
-/

namespace InlineCheck

open CommandLine

/-- A tally has the counts of the assertions and of the blocks in calls. -/
structure Tally.AgreesWith (t : Tally) (calls : List (Reporter × Call)) : Prop where
  passed : t.passed = ((calls.filterMap (·.2.assertion?)).countP (·.passed) : Nat)
  failed : t.failed = ((calls.filterMap (·.2.assertion?)).countP (!·.passed) : Nat)
  blocks : t.blocks.length = (calls.filterMap (·.2.block?)).length
  errors : t.errors = (calls.filterMap (·.2.block?)).countP (·.status = .error)

theorem Overseen.agrees {h : History} {t : Tally} (overseen : Overseen 0 {} h t) (told : h.Told) :
    t.AgreesWith h.calls := by
  have assertions : h.calls.filterMap (·.2.assertion?) = h.onThread Happening.assertion? :=
    (h.calls_filterMap _).trans (told.assertions _)
  have completed : h.calls.filterMap (·.2.block?) = h.onThread Happening.block? :=
    (h.calls_filterMap _).trans (told.blocks _)
  have kept : t.blocks = h.onThread Happening.block? := overseen.blocks
  refine ⟨?_, ?_, ?_, ?_⟩
  · rw [assertions]
    simpa [Tally.counter, History.onMain] using overseen.counter true
  · rw [assertions]
    simpa [Tally.counter, History.onMain] using overseen.counter false
  · rw [completed, kept]
  · rw [completed, Tally.errors, kept]

/-! ## Ends of commands -/

/-- After some calls and events a reporter is told a tally, and with what it does then the command
ends: it returns a code, or it fails as the reporter does. -/
structure Outcome.Sums (o : Outcome) (r : Reporter) (t : Tally) (calls : List Call)
    (before : List Event) : Prop where
  events : o.events = before ++ (r.respond calls (.summary t)).events
  returns : (r.respond calls (.summary t)).fault = none → ∃ code, o.ending = .returned code
  fails : ∀ f, (r.respond calls (.summary t)).fault = some f → o.ending = .failed (.alone f)

theorem Outcome.Sums.after {o : Outcome} {r : Reporter} {t : Tally} {calls : List Call}
    {before : List Event} (sums : o.Sums r t calls before) (earlier : List Event) :
    (o.after earlier).Sums r t calls (earlier ++ before) where
  events := by
    show earlier ++ o.events = _
    rw [sums.events, List.append_assoc]
  returns := sums.returns
  fails := sums.fails

namespace Workplace

theorem conclude_sums {plan : Plan} (summed : plan.summary = true) (r : Reporter)
    (code : Option Value) (s : State) :
    (conclude plan r code s).Sums r (s.tallies.get .command) s.calls s.events := by
  cases told : (r.respond s.calls (.summary (s.tallies.get .command))).fault with
  | none =>
    refine ⟨?_, fun _ => ?_, fun f fault => ?_⟩
    · simp [conclude, summed, State.call, told, State.emit, State.hear]
    · simp [conclude, summed, State.call, told]
    · rw [told] at fault
      cases fault
  | some f =>
    refine ⟨?_, fun fault => ?_, fun f' fault => ?_⟩
    · simp [conclude, summed, State.call, told, State.emit, State.hear]
    · rw [told] at fault
      cases fault
    · cases told.symm.trans fault
      simp [conclude, summed, State.call, told]

theorem concluding?_ne_none {outcome : Except Raised Unit} (ends : outcome = .ok () ∨
    ∃ e, outcome = .error e ∧ (e.fault.exitCode?.isSome ∨ e.fault.isOrdinary)) :
    concluding? outcome ≠ none := by
  rcases ends with rfl | ⟨e, rfl, asked | ordinary⟩
  · exact nofun
  · obtain ⟨code, request⟩ := Option.isSome_iff_exists.mp asked
    simp [concluding?, request]
  · cases request : e.fault.exitCode? <;> simp [concluding?, request, ordinary]

theorem runScript_sums {w : Workplace} {plan : Plan} {r : Reporter} {path : String}
    {arguments : List String} {file : File} (found : w.script? (tidyPath path) = some file)
    (summed : plan.summary = true) {outcome : Except Raised Unit} {s : State}
    (ran : counted r (Script.run (w.setting plan (tidyPath path :: arguments)) file) = (outcome, s))
    (concludes : concluding? outcome ≠ none) :
    ∃ before,
      (w.runScript plan r path arguments).Sums r (s.tallies.get .command) s.calls before := by
  rcases runScript_cases found ran with ⟨asked, rs, _, same⟩ | ⟨e, _, unconcluded, _⟩
  · rw [same]
    exact ⟨_, conclude_sums summed r asked _⟩
  · exact absurd unconcluded concludes

end Workplace

/-- Running any script that tells its reporters nothing directly, under any reporters that do not
call back into the session, when a summary is wanted: if the script ends normally, by a request to
end the program or by an ordinary fault, the command's reporter is told a tally last, after all
calls of the script. That tally has the counts of the calls that the script's own thread made,
whichever reporters they went to. -/
theorem run_summary_agrees_with_calls (w : Workplace) (words : List String) (settings : Settings)
    (path : String) (flags : Flags) (arguments : List String) (r : Reporter) (steps : List Step)
    (loads : (Settings.load w.files w.place w.environment w.environment).value = .ok settings)
    (asks : Request.ofWords settings.addopts words = .ok (.run path flags arguments))
    (resolves : w.catalog.resolve w.screen (Plan.make settings flags).reporterName
      (Plan.make settings flags).verbosity = .ok r)
    (found : w.script? (tidyPath path) = some (.script steps))
    (untold : everyStep Step.untold steps = true)
    (summed : (Plan.make settings flags).summary = true) :
    let env := w.setting (Plan.make settings flags) (tidyPath path :: arguments)
    let outcome := (runAll env steps (.launched r)).1
    let h := historyAll env steps (.launched r)
    (outcome = .ok () ∨ ∃ e, outcome = .error e
        ∧ (e.fault.exitCode?.isSome ∨ e.fault.isOrdinary)) →
      ∃ t before, (w.run words).Sums r t h.heard before ∧ t.AgreesWith h.calls := by
  intro env outcome h ends
  have course := launched_course env steps r
  have ran := counted_of_course course
  have agrees := (counted_overseen course).agrees (historyAll_told env steps untold (.launched r))
  rw [ran] at agrees
  obtain ⟨before, sums⟩ := Workplace.runScript_sums found summed ran
    (Workplace.concluding?_ne_none ends)
  -- the command's own scopes make no calls
  have calls : (((runAll env steps (.launched r)).2.leave .command).2.setReporter none).calls
      = h.heard := by
    show ((runAll env steps (.launched r)).2.leave .command).2.calls = _
    rw [State.calls_leave]
    exact runAll_calls env steps (.launched r)
  rw [calls] at sums
  have asked := sums.after
    (earlyEvents (Settings.load w.files w.place w.environment w.environment).log)
  rw [← Workplace.run_of_asked loads asks resolves] at asked
  exact ⟨_, _, asked, agrees⟩

/-- A reporter that asks for the end of the program whenever it is told of an assertion. -/
def quitter : Reporter where
  className := "Quitter"
  moduleName := "reports"
  respond _ c :=
    match c with
    | .assertion _ => { fault := some (.raised "SystemExit" [.int 3]) }
    | _ => {}

/-- Tallies that cross, a reporter that fails in a block, and a failure on another thread. -/
def noisyScript : List Step :=
  [.enter "a", .enter "b", .leave "a",
    .report (.given quitter)
      [.attempt [.runTest (.text "noisy") [.check (.bool false) (.text "broken")]]],
    .thread [.assertion (.text "elsewhere") (.bool false)],
    .runTest (.text "fine") [.assertion (.text "held") (.bool true)],
    .leave "b"]

def noisyPlace : Workplace where
  files := { files := [(["s"], .script noisyScript)] }

theorem noisyScript_summary :
    noisyPlace.script? (tidyPath "s") = some (.script noisyScript)
    ∧ everyStep Step.untold noisyScript = true
    ∧ ∃ t calls before, (noisyPlace.run ["run", "s"]).Sums (.trace false) t calls before
      ∧ t.passed = 1 ∧ t.failed = 1 ∧ t.blocks.length = 2 ∧ t.errors = 1 := by
  have found : noisyPlace.script? (tidyPath "s") = some (.script noisyScript) := rfl
  have untold : everyStep Step.untold noisyScript = true := by decide
  refine ⟨found, untold, ?_⟩
  obtain ⟨t, before, sums, agrees⟩ := run_summary_agrees_with_calls noisyPlace ["run", "s"] {}
    "s" {} [] (.trace false) noisyScript rfl rfl rfl found untold rfl (.inl rfl)
  refine ⟨t, _, before, sums, agrees.passed.trans ?_, agrees.failed.trans ?_,
    agrees.blocks.trans ?_, agrees.errors.trans ?_⟩
  · decide +kernel
  · decide +kernel
  · decide +kernel
  · decide +kernel

end InlineCheck
