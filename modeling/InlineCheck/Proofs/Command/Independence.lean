import InlineCheck.Proofs.Command.Verdict
import InlineCheck.Proofs.Session.Alike

/-! # Independence of the reporter

What a program comes to does not depend on the reporter that is told about it, as long as the
reporter does not fail.

* `Workplace.runScript_ending_alike` — so commands end alike that run it under built-in reporters.
* `SameEnd` — two runs came to the same but for what was written.
-/

namespace InlineCheck

open CommandLine

/-! ## Commands -/

namespace Workplace

section Scripts

variable {w : Workplace} {r r' : Reporter} {path : String} {steps : List Step}

theorem counted_agree (plan plan' : Plan) (arguments : List String) (voice : r.Alike r')
    (textual : areTextual steps = true) :
    Agree (counted r (runAll (w.setting plan arguments) steps))
      (counted r' (runAll (w.setting plan' arguments) steps)) := by
  -- for a script the two plans differ in where its log records go
  have bodies {s t : State} (alike : s.Alike t) :=
    runAll_agree (w.setting plan arguments) (.printed (leastLevel plan'.verbosity) w.stamp) steps
      textual alike
  exact runReporter_agree (fun alike => runTally_agree bodies alike .command) (.refl {}) voice

/-- Two commands that run the same script under built-in reporters end alike. -/
theorem runScript_ending_alike (plan plan' : Plan) (arguments : List String)
    (builtin : r.IsBuiltin) (builtin' : r'.IsBuiltin)
    (found : w.script? (tidyPath path) = some (.script steps)) (textual : areTextual steps = true) :
    (w.runScript plan' r' path arguments).ending = (w.runScript plan r path arguments).ending := by
  have voice : r.Alike r' :=
    .inr ⟨Reporter.steady_of_builtin builtin, Reporter.steady_of_builtin builtin'⟩
  have agree : Agree (counted r (runAll (w.setting plan (tidyPath path :: arguments)) steps))
      (counted r' (runAll (w.setting plan' (tidyPath path :: arguments)) steps)) :=
    counted_agree plan plan' _ voice textual
  rcases ran : counted r (runAll (w.setting plan (tidyPath path :: arguments)) steps) with
    ⟨outcome, s⟩
  rcases ran' : counted r' (runAll (w.setting plan' (tidyPath path :: arguments)) steps) with
    ⟨outcome', t⟩
  rw [ran, ran'] at agree
  obtain ⟨same, alike⟩ := agree
  cases (same : outcome' = outcome)
  have tallies : t.tallies = s.tallies := alike.tallies
  rcases runScript_cases found ran with ⟨asked, _, concludes, first⟩ | ⟨e, failed, concludes, first⟩
  · rcases runScript_cases found ran' with ⟨asked', _, concludes', second⟩ | ⟨_, _, concludes', _⟩
    · cases concludes.symm.trans concludes'
      rw [first, second, conclude_ending plan builtin, conclude_ending plan' builtin']
      show Ending.returned (asked.getD (.int (t.tallies.get .command).exitCode)) = _
      rw [tallies]
      rfl
    · cases concludes.symm.trans concludes'
  · rcases runScript_cases found ran' with ⟨_, _, concludes', _⟩ | ⟨_, failed', _, second⟩
    · cases concludes.symm.trans concludes'
    · cases failed.symm.trans failed'
      rw [first, second]

end Scripts

end Workplace

/-! ## Sessions and commands -/

/-- Two runs came to the same: only what was written may differ. -/
structure SameEnd (x y : Except Raised Unit × State) : Prop where
  outcome : y.1 = x.1
  tallies : y.2.tallies = x.2.tallies
  clock : y.2.clock = x.2.clock
  context : y.2.context = x.2.context

/-- Blocks and labels that look like markup, an open failure, and a question about the reporter. -/
def markedScript : List Step :=
  [.tally "t"
    [.runTest (.text "[bold]outer[/nothing]")
      [.assertion (.text "[/red]") (.bool false), .surroundings, .advance 3,
        .attempt [.runTest (.text "inner[x") [.fail "ValueError" []]]]]]

def markedPlace : Workplace where
  files := { files := [(["s"], .script markedScript)] }

end InlineCheck
