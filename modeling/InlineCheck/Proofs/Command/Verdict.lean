import InlineCheck.Command.Run
import InlineCheck.Proofs.Console.Escaped
import InlineCheck.Proofs.Session.Oversight

/-! # The code that a script ends with

* `ScriptCode` — the code that a script stands for, by how it ended and by what happened on its
  thread.
* `counted_of_course`, `counted_overseen` — a program's outcome passes through the command's scopes
  unchanged, and the command's tally has counted the history of the program's thread.
* `Workplace.runScript_returns` — running a script returns its code, whatever the script does to its
  own tallies.
-/

namespace InlineCheck

open CommandLine

/-! ## Codes -/

/-- Whether a value is a whole number; booleans are. -/
def Value.isWhole : Value → Bool
  | .int _ | .bool _ => true
  | _ => false

namespace History

/-- On the thread, an assertion did not hold or a block ended in an error. -/
def Broken (h : History) : Prop :=
  (∃ a ∈ h.onThread Happening.assertion?, a.passed = false)
    ∨ ∃ b ∈ h.onThread Happening.block?, b.status = .error

instance (h : History) : Decidable h.Broken :=
  inferInstanceAs (Decidable (_ ∨ _))

/-- The code of a script that asked for none. -/
def judged (h : History) : Value :=
  .int (if h.Broken then 1 else 0)

end History

/-- The code that a script stands for. -/
inductive ScriptCode (h : History) : Except Raised Unit → Value → Prop where
  | finished : ScriptCode h (.ok ()) h.judged
  | whole {e : Raised} {code : Value} (asked : e.fault.exitCode? = some code)
      (whole : code.isWhole = true) (nonzero : code.same (.int 0) = false) :
      ScriptCode h (.error e) code
  | other {e : Raised} {code : Value} (asked : e.fault.exitCode? = some code)
      (other : code.isWhole = false) (given : code ≠ .null) (nonzero : code.same (.int 0) = false) :
      ScriptCode h (.error e) (.int 1)
  | empty {e : Raised} {code : Value} (asked : e.fault.exitCode? = some code)
      (empty : code = .null ∨ code.same (.int 0) = true) : ScriptCode h (.error e) h.judged
  | failed {e : Raised} (ordinary : e.fault.isOrdinary = true) : ScriptCode h (.error e) (.int 1)

namespace Workplace

theorem requestedCode_of_whole {code : Value} (whole : code.isWhole = true)
    (nonzero : code.same (.int 0) = false) : requestedCode code = some code := by
  cases code with
  | int n =>
    have : n ≠ 0 := by simpa [Value.same, Value.number?] using nonzero
    simp [requestedCode, this]
  | bool b =>
    have : b = true := by simpa [Value.same, Value.number?] using nonzero
    simp [requestedCode, this]
  | _ => cases whole

theorem requestedCode_of_other {code : Value} (other : code.isWhole = false) (given : code ≠ .null)
    (nonzero : code.same (.int 0) = false) : requestedCode code = some (.int 1) := by
  cases code with
  | null => exact absurd rfl given
  | int | bool => cases other
  | _ => simp [requestedCode, nonzero]

theorem requestedCode_of_empty {code : Value} (empty : code = .null ∨ code.same (.int 0) = true) :
    requestedCode code = none := by
  rcases empty with rfl | zero
  · rfl
  · cases code with
    | null => rfl
    | int n =>
      have : n = 0 := by simpa [Value.same, Value.number?] using zero
      simp [requestedCode, this]
    | bool b =>
      have : b = false := by simpa [Value.same, Value.number?] using zero
      simp [requestedCode, this]
    | _ => simp [requestedCode, zero]

end Workplace

/-- The code that a script's outcome asks for, when the command goes on to its end: none after a
normal end, and no end at all after a fault that is neither a request nor ordinary. -/
def Workplace.concluding? : Except Raised Unit → Option (Option Value)
  | .ok () => some none
  | .error e =>
    match e.fault.exitCode? with
    | some code => some (requestedCode code)
    | none => if e.fault.isOrdinary then some (some (.int 1)) else none

/-- What is logged of how a script ended: a fault that is ordinary. -/
def Workplace.endRecords (path : String) : Except Raised Unit → List LogRecord
  | .ok () => []
  | .error e =>
    if e.fault.exitCode?.isNone && e.fault.isOrdinary then [scriptRecord path e] else []

theorem Fault.not_ordinary_of_asked {f : Fault} {code : Value} (asked : f.exitCode? = some code) :
    f.isOrdinary = false := by
  unfold exitCode? at asked
  split at asked
  · rfl
  · cases asked

namespace ScriptCode

variable {h : History} {e : Raised} {code given : Value}

theorem ok_iff : ScriptCode h (.ok ()) code ↔ code = h.judged := by
  constructor
  · rintro ⟨⟩
    rfl
  · rintro rfl
    exact .finished

theorem asked_iff (asked : e.fault.exitCode? = some given) :
    ScriptCode h (.error e) code ↔ code = (Workplace.requestedCode given).getD h.judged := by
  constructor
  · intro stands
    cases stands with
    | whole asked' whole nonzero =>
      cases asked.symm.trans asked'
      rw [Workplace.requestedCode_of_whole whole nonzero]
      rfl
    | other asked' other present nonzero =>
      cases asked.symm.trans asked'
      rw [Workplace.requestedCode_of_other other present nonzero]
      rfl
    | empty asked' empty =>
      cases asked.symm.trans asked'
      rw [Workplace.requestedCode_of_empty empty]
      rfl
    | failed ordinary =>
      rw [Fault.not_ordinary_of_asked asked] at ordinary
      cases ordinary
  · -- every value that is asked for falls under exactly one of the three rules
    rintro rfl
    by_cases empty : given = .null ∨ given.same (.int 0) = true
    · rw [Workplace.requestedCode_of_empty empty]
      exact .empty asked empty
    · obtain ⟨present, nonzero⟩ := not_or.mp empty
      rw [Bool.not_eq_true] at nonzero
      cases whole : given.isWhole with
      | true =>
        rw [Workplace.requestedCode_of_whole whole nonzero]
        exact .whole asked whole nonzero
      | false =>
        rw [Workplace.requestedCode_of_other whole present nonzero]
        exact .other asked whole present nonzero

theorem unasked_iff (unasked : e.fault.exitCode? = none) :
    ScriptCode h (.error e) code ↔ e.fault.isOrdinary = true ∧ code = .int 1 := by
  constructor
  · intro stands
    cases stands with
    | whole asked | other asked | empty asked => cases unasked.symm.trans asked
    | failed ordinary => exact ⟨ordinary, rfl⟩
  · rintro ⟨ordinary, rfl⟩
    exact .failed ordinary

theorem iff_of_concluding {outcome : Except Raised Unit} {asked : Option Value}
    (concludes : Workplace.concluding? outcome = some asked) :
    ScriptCode h outcome code ↔ code = asked.getD h.judged := by
  cases outcome with
  | ok _ =>
    cases concludes
    exact ok_iff
  | error e =>
    unfold Workplace.concluding? at concludes
    cases request : e.fault.exitCode? with
    | some given =>
      simp only [request, Option.some.injEq] at concludes
      rw [asked_iff request, concludes]
    | none =>
      cases ordinary : e.fault.isOrdinary with
      | true =>
        simp only [request, ordinary, if_true, Option.some.injEq] at concludes
        rw [unasked_iff request, ← concludes]
        simp [ordinary]
      | false => simp [request, ordinary] at concludes

theorem not_of_concluding {outcome : Except Raised Unit}
    (concludes : Workplace.concluding? outcome = none) : ¬ ScriptCode h outcome code := by
  intro stands
  cases stands with
  | finished => cases concludes
  | whole asked | other asked | empty asked => simp [Workplace.concluding?, asked] at concludes
  | failed ordinary =>
    simp only [Workplace.concluding?] at concludes
    split at concludes
    · cases concludes
    · rw [if_pos ordinary] at concludes
      cases concludes

theorem exists_of_ends {outcome : Except Raised Unit} (ends : outcome = .ok () ∨
    ∃ e, outcome = .error e ∧ (e.fault.exitCode?.isSome ∨ e.fault.isOrdinary)) :
    ∃ code, ScriptCode h outcome code := by
  rcases ends with rfl | ⟨e, rfl, asks | ordinary⟩
  · exact ⟨_, .finished⟩
  · obtain ⟨given, asked⟩ := Option.isSome_iff_exists.mp asks
    exact ⟨_, (asked_iff asked).mpr rfl⟩
  · exact ⟨_, .failed ordinary⟩

end ScriptCode

/-! ## Programs that the command counts -/

/-- The command's tally is of the same mind as the history that it has overseen. -/
theorem Overseen.judged {h : History} {t : Tally} (overseen : Overseen 0 {} h t) :
    Value.int t.exitCode = h.judged := by
  have failed : t.failed = (h.onThread Happening.assertion?).countP (·.passed = false) := by
    simpa [Tally.counter, History.onMain] using overseen.counter false
  have blocks : t.blocks = h.onThread Happening.block? := by
    simpa [History.onMain] using overseen.blocks
  have sound : t.ok = true ↔ ¬ h.Broken := by
    simp [Tally.ok, Tally.errors, failed, blocks, History.Broken, List.countP_eq_zero]
  unfold Tally.exitCode History.judged
  by_cases broken : h.Broken
  · rw [if_neg (fun ok => sound.mp ok broken), if_pos broken]
    rfl
  · rw [if_pos (sound.mpr broken), if_neg broken]
    rfl

namespace State

/-- The state that a command's program begins in: the command's tally is active, and no other. -/
def launched (r : Reporter) : State :=
  ((({} : State).setReporter (some r)).enter .command).2

theorem launched_eq (r : Reporter) :
    launched r = (({} : State).setReporter (some r)).entered .command :=
  rfl

theorem launched_guarded (r : Reporter) : (launched r).Guarded where
  active := ⟨fun _ => rfl, rfl⟩
  saved name a found := by
    rw [launched_eq, get_entered_of_ne _ (nofun : TallyId.command ≠ .named name)] at found
    cases found
  own := activation_entered_self _ _
  contexts := Nat.one_pos

end State

section Courses

variable {allowed : Step → Bool} {r : Reporter} {h : History}
  {program : State → Except Raised Unit × State}

theorem leave_command_ok (course : Course allowed (.launched r) h (program (.launched r)).2) :
    ((program (.launched r)).2.leave .command).1 = .ok () := by
  -- no step of a program can enter or leave the command's tally, so it remembers its own entry
  have own := (course.guarded (State.launched_guarded r)).own
  have main : (program (.launched r)).2.context.id = 0 := course.context_id
  rw [← main] at own
  rw [State.leave_of_here own]

/-- A program's outcome passes through the command's scopes unchanged. -/
theorem counted_of_course (course : Course allowed (.launched r) h (program (.launched r)).2) :
    Workplace.counted r program
      = ((program (.launched r)).1,
        ((program (.launched r)).2.leave .command).2.setReporter none) := by
  have enters : (({} : State).setReporter (some r)).enter .command = (.ok (), .launched r) := rfl
  have leaves := leave_command_ok course
  simp only [Workplace.counted, runReporter, runTally, enters]
  rcases left : (program (.launched r)).2.leave .command with ⟨_ | _, t⟩
  · rw [left] at leaves
    cases leaves
  · rfl

/-- The command's tally has counted what a program recorded on its own thread. -/
theorem counted_overseen (course : Course allowed (.launched r) h (program (.launched r)).2) :
    Overseen 0 {} h ((Workplace.counted r program).2.tallies.get .command) := by
  have overseen := course.overseen (State.launched_guarded r)
  have left := overseen.trans
    (.nothing (State.counter_leave _ .command .command) (State.blocks_leave _ .command .command))
  rw [List.append_nil] at left
  rw [counted_of_course course]
  exact ⟨left.counter, left.blocks, left.points⟩

end Courses

section Programs

variable (env : Setting) (steps : List Step) (r : Reporter)

theorem launched_course :
    Course (fun _ => true) (.launched r) (historyAll env steps (.launched r))
      (runAll env steps (.launched r)).2 :=
  runAll_course env steps (everyStep_true steps) (.launched r)

theorem runAll_fits : Fits 0 (runAll env steps (.launched r)).2.context.active := by
  have main : (runAll env steps (.launched r)).2.context.id = 0 :=
    (launched_course env steps r).context_id
  exact main ▸ ((launched_course env steps r).guarded (State.launched_guarded r)).active

theorem runAll_overseen : Overseen 0 {} (historyAll env steps (.launched r))
    ((runAll env steps (.launched r)).2.tallies.get .command) := by
  have overseen := (launched_course env steps r).overseen (State.launched_guarded r)
  exact ⟨overseen.counter, overseen.blocks, overseen.points⟩

theorem counted_runAll : Workplace.counted r (runAll env steps)
    = ((runAll env steps (.launched r)).1,
      ((runAll env steps (.launched r)).2.leave .command).2.setReporter none) :=
  counted_of_course (launched_course env steps r)

theorem judged_counted :
    Value.int ((Workplace.counted r (runAll env steps)).2.tallies.get .command).exitCode
      = (historyAll env steps (.launched r)).judged :=
  (counted_overseen (launched_course env steps r)).judged

end Programs

namespace Workplace

theorem conclude_of_steady (plan : Plan) {r : Reporter} (steady : r.Steady) (code : Option Value)
    (s : State) :
    (conclude plan r code s).ending
      = .returned (code.getD (.int (s.tallies.get .command).exitCode)) := by
  have tells := steady s.calls (.summary (s.tallies.get .command)) rfl
  cases summary : plan.summary <;> simp [conclude, summary, State.call, tells]

theorem conclude_ending (plan : Plan) {r : Reporter} (builtin : r.IsBuiltin)
    (code : Option Value) (s : State) :
    (conclude plan r code s).ending
      = .returned (code.getD (.int (s.tallies.get .command).exitCode)) :=
  conclude_of_steady plan (Reporter.steady_of_builtin builtin) code s

section Scripts

variable {w : Workplace} {plan : Plan} {r : Reporter} {path : String} {arguments : List String}
  {file : File} {steps : List Step}

theorem lookFor_of_script? {path : String} (found : w.script? path = some file) :
    w.lookFor path = .ok (some file) := by
  unfold script? at found
  cases looked : w.lookFor path with
  | error cause =>
    rw [looked] at found
    cases found
  | ok opened =>
    rw [looked] at found
    exact congrArg Except.ok found

/-- A script that comes to an end is concluded, with a record of its fault if it ended in one. -/
theorem runScript_of_concluding (found : w.script? (tidyPath path) = some file)
    {outcome : Except Raised Unit} {s : State}
    (ran : counted r (Script.run (w.setting plan (tidyPath path :: arguments)) file)
      = (outcome, s)) {asked : Option Value} (concludes : concluding? outcome = some asked) :
    w.runScript plan r path arguments
      = conclude plan r asked (s.log (w.setting plan (tidyPath path :: arguments))
          (endRecords (tidyPath path) outcome)) := by
  have unlogged (env : Setting) : s.log env [] = s := by simp [State.log, State.emit]
  unfold runScript
  simp only [lookFor_of_script? found, ran]
  cases outcome with
  | ok _ =>
    cases concludes
    rw [endRecords, unlogged]
  | error e =>
    cases request : e.fault.exitCode? with
    | some code =>
      simp only [concluding?, request, Option.some.injEq] at concludes
      simp [endRecords, request, unlogged, concludes]
    | none =>
      cases ordinary : e.fault.isOrdinary with
      | true =>
        simp only [concluding?, request, ordinary, if_true, Option.some.injEq] at concludes
        simp [endRecords, request, ordinary, ← concludes]
      | false => simp [concluding?, request, ordinary] at concludes

/-- What running a script can come to: the command goes on to its end, after records of a fault
perhaps, or the script's fault leaves it. -/
theorem runScript_cases (found : w.script? (tidyPath path) = some file)
    {outcome : Except Raised Unit} {s : State}
    (ran : counted r (Script.run (w.setting plan (tidyPath path :: arguments)) file)
      = (outcome, s)) :
    (∃ asked rs, concluding? outcome = some asked ∧ w.runScript plan r path arguments
      = conclude plan r asked (s.log (w.setting plan (tidyPath path :: arguments)) rs))
    ∨ ∃ e, outcome = .error e ∧ concluding? outcome = none
      ∧ w.runScript plan r path arguments = { ending := .failed e, events := s.events } := by
  cases concludes : concluding? outcome with
  | some asked => exact .inl ⟨asked, _, rfl, runScript_of_concluding found ran concludes⟩
  | none =>
    cases outcome with
    | ok _ => cases concludes
    | error e =>
      cases request : e.fault.exitCode? with
      | some code => simp [concluding?, request] at concludes
      | none =>
        cases ordinary : e.fault.isOrdinary with
        | true => simp [concluding?, request, ordinary] at concludes
        | false =>
          refine .inr ⟨e, rfl, rfl, ?_⟩
          unfold runScript
          simp only [lookFor_of_script? found, ran, request, ordinary, Bool.false_eq_true, if_false]

theorem runScript_returns (builtin : r.IsBuiltin)
    (found : w.script? (tidyPath path) = some (.script steps)) (code : Value) :
    (w.runScript plan r path arguments).ending = .returned code
      ↔ ScriptCode (historyAll (w.setting plan (tidyPath path :: arguments)) steps (.launched r))
        (runAll (w.setting plan (tidyPath path :: arguments)) steps (.launched r)).1 code := by
  have judged := judged_counted (w.setting plan (tidyPath path :: arguments)) steps r
  have outcome := congrArg Prod.fst
    (counted_runAll (w.setting plan (tidyPath path :: arguments)) steps r)
  rw [← outcome]
  rcases ran : counted r (runAll (w.setting plan (tidyPath path :: arguments)) steps)
    with ⟨ended, s⟩
  rw [ran] at judged
  rcases runScript_cases found ran with ⟨asked, rs, concludes, same⟩ | ⟨e, _, concludes, same⟩
  · rw [same, conclude_ending plan builtin, ScriptCode.iff_of_concluding concludes, ← judged,
      Ending.returned.injEq]
    exact eq_comm
  · rw [same]
    simp [ScriptCode.not_of_concluding concludes]

end Scripts

section Words

variable {w : Workplace} {words : List String} {settings : Settings} {path : String}
  {flags : Flags} {arguments : List String} {r : Reporter}

theorem run_of_asked
    (loads : (Settings.load w.files w.place w.environment w.environment).value = .ok settings)
    (asks : Request.ofWords settings.addopts words = .ok (.run path flags arguments))
    (resolves : w.catalog.resolve w.screen (Plan.make settings flags).reporterName
      (Plan.make settings flags).verbosity = .ok r) :
    w.run words = (w.runScript (Plan.make settings flags) r path arguments).after
      (earlyEvents (Settings.load w.files w.place w.environment w.environment).log) := by
  simp only [run, loads, asks, carryOut, withReporter, resolves]

theorem run_ending
    (loads : (Settings.load w.files w.place w.environment w.environment).value = .ok settings)
    (asks : Request.ofWords settings.addopts words = .ok (.run path flags arguments))
    (resolves : w.catalog.resolve w.screen (Plan.make settings flags).reporterName
      (Plan.make settings flags).verbosity = .ok r) :
    (w.run words).ending = (w.runScript (Plan.make settings flags) r path arguments).ending := by
  rw [run_of_asked loads asks resolves, Outcome.after]

end Words

end Workplace

/-- Running a script returns the code that the script stands for. It returns one whenever the script
ends normally, by a request to end the program or by an ordinary fault; and all the time the
command's tally comes first on the script's thread, and is active once. -/
theorem run_returns_scriptCode (w : Workplace) (words : List String) (settings : Settings)
    (path : String) (flags : Flags) (arguments : List String) (r : Reporter) (steps : List Step)
    (loads : (Settings.load w.files w.place w.environment w.environment).value = .ok settings)
    (asks : Request.ofWords settings.addopts words = .ok (.run path flags arguments))
    (resolves : w.catalog.resolve w.screen (Plan.make settings flags).reporterName
      (Plan.make settings flags).verbosity = .ok r)
    (builtin : r.IsBuiltin)
    (found : w.script? (tidyPath path) = some (.script steps)) :
    let env := w.setting (Plan.make settings flags) (tidyPath path :: arguments)
    let ran := runAll env steps (.launched r)
    let h := historyAll env steps (.launched r)
    (∀ code, (w.run words).ending = .returned code ↔ ScriptCode h ran.1 code)
    ∧ ((ran.1 = .ok () ∨ ∃ e, ran.1 = .error e
          ∧ (e.fault.exitCode?.isSome ∨ e.fault.isOrdinary)) →
        ∃ code, (w.run words).ending = .returned code)
    ∧ ∀ s ∈ h.onThread Happening.state? ++ [ran.2],
        s.context.active.head? = some .command ∧ s.context.active.count .command = 1 := by
  intro env ran h
  have returns (code : Value) :
      (w.run words).ending = .returned code ↔ ScriptCode h ran.1 code := by
    rw [Workplace.run_ending loads asks resolves]
    exact Workplace.runScript_returns builtin found code
  refine ⟨returns, fun ends => ?_, fun s member => ?_⟩
  · obtain ⟨code, stands⟩ := ScriptCode.exists_of_ends ends
    exact ⟨code, (returns code).mpr stands⟩
  · have fits : Fits 0 s.context.active := by
      rcases List.mem_append.mp member with during | final
      · exact (runAll_overseen env steps r).points s during
      · cases List.mem_singleton.mp final
        exact runAll_fits env steps r
    exact ⟨fits.first rfl, fits.count⟩

/-- Two tallies that are left in the order they were entered in, a failure on another thread, and a
block left by a fault that is caught. -/
def crossingScript : List Step :=
  [.enter "a", .enter "b", .leave "a",
    .thread [.assertion (.text "elsewhere") (.bool false)],
    .attempt [.runTest (.text "left") [.fail "ValueError" []]],
    .leave "b"]

def crossingPlace : Workplace where
  files := { files := [(["s"], .script crossingScript)] }

theorem crossingScript_returns_one :
    crossingPlace.script? (tidyPath "s") = some (.script crossingScript)
    ∧ (crossingPlace.run ["run", "s"]).ending = .returned (.int 1) := by
  have found : crossingPlace.script? (tidyPath "s") = some (.script crossingScript) := rfl
  have verdict := run_returns_scriptCode crossingPlace ["run", "s"] {} "s" {} [] (.trace false)
    crossingScript rfl rfl rfl (.inl ⟨false, rfl⟩) found
  refine ⟨found, (verdict.1 (.int 1)).mpr ?_⟩
  have ends : (runAll (crossingPlace.setting (Plan.make {} {}) [tidyPath "s"]) crossingScript
    (.launched (.trace false))).1 = .ok () := rfl
  have broken : (historyAll (crossingPlace.setting (Plan.make {} {}) [tidyPath "s"]) crossingScript
    (.launched (.trace false))).Broken := by decide +kernel
  -- the failure on the other thread does not count, but the block does
  show ScriptCode _ (runAll _ crossingScript _).1 _
  rw [ends, ScriptCode.ok_iff, History.judged, if_pos broken]

end InlineCheck
