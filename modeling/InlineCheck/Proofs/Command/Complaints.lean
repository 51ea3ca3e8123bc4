import InlineCheck.Command.Run
import InlineCheck.Proofs.Console.Layout

/-! # Complaints

A command that cannot be carried out as it is set up tells why, in red, and returns two.

* `Workplace.Complains` — what there is to complain about, and in which words.
* `Workplace.run_of_complains` — a complaint is all that such a command comes to.
* `complaint_shown_iff_unmarked` — the words are shown as they are exactly when they are unmarked:
  they are not escaped.
-/

namespace InlineCheck

open Console CommandLine

/-- The flags of a request that has any. -/
def CommandLine.Request.flags? : Request → Option Flags
  | .overview => none
  | .demo _ flags => some flags
  | .run _ flags _ => some flags

namespace Workplace

/-- What a command complains about: settings that cannot be loaded, a reporter that there is not, or
a script that is not found. -/
inductive Complains (w : Workplace) (words : List String) : String → Prop where
  | settings {cause : SettingsFault}
      (refused : (Settings.load w.files w.place w.environment w.environment).value
        = .error (.settings cause)) :
      Complains w words cause.message
  | reporter {settings : Settings} {request : Request} {flags : Flags} {cause : SettingsFault}
      (loads : (Settings.load w.files w.place w.environment w.environment).value = .ok settings)
      (asks : Request.ofWords settings.addopts words = .ok request)
      (flagged : request.flags? = some flags)
      (refused : w.catalog.resolve w.screen (Plan.make settings flags).reporterName
        (Plan.make settings flags).verbosity = .error (.settings cause)) :
      Complains w words cause.message
  | script {settings : Settings} {path : String} {flags : Flags} {arguments : List String}
      {r : Reporter}
      (loads : (Settings.load w.files w.place w.environment w.environment).value = .ok settings)
      (asks : Request.ofWords settings.addopts words = .ok (.run path flags arguments))
      (resolves : w.catalog.resolve w.screen (Plan.make settings flags).reporterName
        (Plan.make settings flags).verbosity = .ok r)
      (missing : w.lookFor (tidyPath path) = .ok none) :
      Complains w words ("Script not found: " ++ tidyPath path)

/-- The words of a complaint about the settings. -/
def complaint? {α : Type} : Except Fault α → Option String
  | .error (.settings cause) => some cause.message
  | _ => none

theorem complaint?_eq_some {α : Type} {result : Except Fault α} {message : String}
    (told : complaint? result = some message) :
    ∃ cause, result = .error (.settings cause) ∧ cause.message = message := by
  unfold complaint? at told
  split at told
  next cause => exact ⟨cause, rfl, Option.some.inj told⟩
  next => cases told

theorem Complains.of_load {w : Workplace} {message : String}
    (told : complaint? (Settings.load w.files w.place w.environment w.environment).value
      = some message) (words : List String) : w.Complains words message := by
  obtain ⟨cause, refused, rfl⟩ := complaint?_eq_some told
  exact .settings refused

theorem run_of_request {w : Workplace} {words : List String} {settings : Settings}
    {request : Request}
    (loads : (Settings.load w.files w.place w.environment w.environment).value = .ok settings)
    (asks : Request.ofWords settings.addopts words = .ok request) :
    w.run words = (w.carryOut settings request).after
      (earlyEvents (Settings.load w.files w.place w.environment w.environment).log) := by
  simp only [run, loads, asks]

theorem withReporter_of_refused (w : Workplace) (plan : Plan) {f : Fault}
    (refused : w.catalog.resolve w.screen plan.reporterName plan.verbosity = .error f)
    (program : Reporter → Outcome) : w.withReporter plan program = w.giveUp f := by
  rw [withReporter, refused]

theorem withReporter_of_resolved (w : Workplace) (plan : Plan) {r : Reporter}
    (resolves : w.catalog.resolve w.screen plan.reporterName plan.verbosity = .ok r)
    (program : Reporter → Outcome) : w.withReporter plan program = program r := by
  rw [withReporter, resolves]

theorem runScript_of_missing (w : Workplace) (plan : Plan) (r : Reporter) {path : String}
    (missing : w.lookFor (tidyPath path) = .ok none) (arguments : List String) :
    w.runScript plan r path arguments = w.complain ("Script not found: " ++ tidyPath path) := by
  unfold runScript
  generalize tidyPath path = path at missing ⊢
  simp only [missing]

theorem run_of_stop {w : Workplace} {words : List String} {settings : Settings} {stop : Stop}
    (loads : (Settings.load w.files w.place w.environment w.environment).value = .ok settings)
    (stops : Request.ofWords settings.addopts words = .error stop) :
    w.run words = (w.explain stop).after
      (earlyEvents (Settings.load w.files w.place w.environment w.environment).log) := by
  simp only [run, loads, stops]

theorem run_of_refused {w : Workplace} {f : Fault}
    (refused : (Settings.load w.files w.place w.environment w.environment).value = .error f)
    (words : List String) :
    w.run words = (w.giveUp f).after
      (earlyEvents (Settings.load w.files w.place w.environment w.environment).log) := by
  simp only [run, refused]

/-- A command whose reporter is refused gives up before it begins. -/
theorem run_of_unresolved {w : Workplace} {words : List String} {settings : Settings}
    {request : Request} {flags : Flags} {f : Fault}
    (loads : (Settings.load w.files w.place w.environment w.environment).value = .ok settings)
    (asks : Request.ofWords settings.addopts words = .ok request)
    (flagged : request.flags? = some flags)
    (refused : w.catalog.resolve w.screen (Plan.make settings flags).reporterName
      (Plan.make settings flags).verbosity = .error f) :
    w.run words = (w.giveUp f).after
      (earlyEvents (Settings.load w.files w.place w.environment w.environment).log) := by
  rw [run_of_request loads asks]
  cases request with
  | overview => cases flagged
  | demo | run =>
    cases flagged
    rw [carryOut, withReporter_of_refused w (Plan.make settings flags) refused]

/-- A complaint is all that a command comes to that has one. -/
theorem run_of_complains {w : Workplace} {words : List String} {message : String}
    (complains : w.Complains words message) :
    w.run words = (w.complain message).after
      (earlyEvents (Settings.load w.files w.place w.environment w.environment).log) := by
  cases complains with
  | settings refused => rw [run_of_refused refused, giveUp]
  | reporter loads asks flagged refused =>
    rw [run_of_unresolved loads asks flagged refused, giveUp]
  | @script settings path flags arguments r loads asks resolves missing =>
    rw [run_of_request loads asks, carryOut,
      withReporter_of_resolved w (Plan.make settings flags) resolves,
      runScript_of_missing w (Plan.make settings flags) r missing]

theorem paired_red : Paired "red".toList "red" :=
  Reporter.paired_color false

/-- The markup of a complaint. -/
def reddened (message : String) : List Char :=
  bracketed "red".toList ++ (message.toList ++ bracketed ('/' :: "red".toList))

theorem toList_complaint (message : String) :
    ("[red]" ++ message ++ "[/red]").toList = reddened message := by
  simp [reddened, bracketed]

theorem complain_of_print {w : Workplace} {message text : String}
    (prints : (w.screen.print ("[red]" ++ message ++ "[/red]")).toOption = some text) :
    w.complain message = { ending := .returned (.int 2), events := [.wrote .err text] } := by
  unfold complain
  cases printed : w.screen.print ("[red]" ++ message ++ "[/red]") with
  | error f =>
    rw [printed] at prints
    cases prints
  | ok text =>
    rw [printed] at prints
    cases prints
    rfl

/-- What a complaint writes without color: the rows of the text that its markup stands for. -/
theorem complain_of_render {w : Workplace} (colorless : w.screen.palette = .colorless)
    (roomy : w.screen.width ≠ 0) {message : String} {gs : List Glyph}
    (rendered : render w.screen.lexicon (reddened message) = .ok gs)
    (calm : w.screen.lexicon.clash w.screen.width (reddened message) = none) :
    w.complain message
      = { ending := .returned (.int 2)
          events := [.wrote .err (String.ofList (writtenLines (wrap w.screen.width gs)))] } := by
  refine complain_of_print ?_
  rw [Screen.print, toList_complaint, rendered, calm]
  simp only [if_neg roomy, paintLines_colorless colorless]
  rfl

/-- What goes wrong with markup in a complaint leaves the command. -/
theorem complain_of_fault {w : Workplace} {message : String} {f : Fault}
    (fails : w.screen.print ("[red]" ++ message ++ "[/red]") = .error f) :
    w.complain message = { ending := .failed (.alone f) } := by
  rw [complain, fails]

theorem render_of_complain {w : Workplace} {message : String} {events : List Event}
    (told : w.complain message = { ending := .returned (.int 2), events }) :
    ∃ gs, render w.screen.lexicon (reddened message) = .ok gs
      ∧ w.screen.lexicon.clash w.screen.width (reddened message) = none := by
  cases rendered : render w.screen.lexicon (reddened message) with
  | error f =>
    rw [complain_of_fault (f := .markup f)
      (by rw [Screen.print, toList_complaint, rendered])] at told
    cases told
  | ok gs =>
    cases clash : w.screen.lexicon.clash w.screen.width (reddened message) with
    | none => exact ⟨gs, rfl, rfl⟩
    | some f =>
      rw [complain_of_fault (f := .markup f)
        (by rw [Screen.print, toList_complaint, rendered, clash])] at told
      cases told

/-- A complaint is shown in its own words exactly when they are unmarked. -/
theorem complain_shows_iff {w : Workplace} (colorless : w.screen.palette = .colorless)
    (wide : 2 ≤ w.screen.width) {message : String} (wrappable : Wrappable message.toList) :
    (∃ written, w.complain message
        = { ending := .returned (.int 2), events := [.wrote .err written] }
      ∧ Shows w.screen.width message.toList written.toList) ↔ Unmarked message.toList := by
  have roomy : w.screen.width ≠ 0 := by omega
  constructor
  · rintro ⟨written, told, shown⟩
    obtain ⟨gs, rendered, calm⟩ := render_of_complain told
    have blanks : ∀ c ∈ message.toList, Text.isBlank c = true → isDropped c = false := by
      intro c member blank
      rcases wrappable.spaced c member blank with rfl | rfl <;> rfl
    -- the layout adds no ink, and the text has all of its own
    have inked : (ink message.toList).Sublist (ink (plain gs)) := by
      rw [complain_of_render colorless roomy rendered calm] at told
      cases told
      rw [← shown.ink_eq, String.toList_ofList]
      exact ink_wrap w.screen.width gs
    exact unmarked_of_render paired_red rendered (by decide) blanks inked
  · intro unmarked
    have rendered : render w.screen.lexicon (reddened message) = _ :=
      render_unmarked paired_red w.screen.lexicon unmarked
    have calm := w.screen.lexicon.calm w.screen.width (reddened message)
      (isBare_unmarked paired_red unmarked)
    have own : plain (message.toList.map (⟨·, ["red"]⟩)) = message.toList := by
      simp [plain, Function.comp_def]
    generalize (message.toList.map (⟨·, ["red"]⟩) : List Glyph) = gs at rendered own
    refine ⟨_, complain_of_render colorless roomy rendered calm, ?_⟩
    rw [String.toList_ofList, ← own]
    rw [← own] at wrappable
    exact wrap_shows wide wrappable

end Workplace

/-- On a screen without color, a complaint returns two and shows its own words exactly when they are
unmarked. -/
theorem complaint_shown_iff_unmarked (w : Workplace) (words : List String) (message : String)
    (complains : w.Complains words message) (colorless : w.screen.palette = .colorless)
    (wide : 2 ≤ w.screen.width) (wrappable : Wrappable message.toList) :
    (∃ written, w.run words
        = { ending := .returned (.int 2)
            events := earlyEvents (Settings.load w.files w.place w.environment w.environment).log
              ++ [.wrote .err written] }
      ∧ Shows w.screen.width message.toList written.toList)
    ↔ Unmarked message.toList := by
  rw [← Workplace.complain_shows_iff colorless wide wrappable, Workplace.run_of_complains complains]
  have early (o : Outcome) (es : List Event) (written : String) :
      o.after es = { ending := .returned (.int 2), events := es ++ [.wrote .err written] }
        ↔ o = { ending := .returned (.int 2), events := [.wrote .err written] } := by
    cases o
    simp [Outcome.after]
  simp only [early]

def narrowPlace : Workplace where
  environment := [("COLUMNS", some "20")]

/-- A complaint that is broken after the word that ends at the width. -/
theorem missingScript_shown :
    narrowPlace.Complains ["run", "no such script"] "Script not found: no such script"
    ∧ Unmarked "Script not found: no such script".toList
    ∧ ∃ written, narrowPlace.run ["run", "no such script"]
        = { ending := .returned (.int 2), events := [.wrote .err written] }
      ∧ Shows 20 "Script not found: no such script".toList written.toList := by
  have message : "Script not found: " ++ tidyPath "no such script"
      = "Script not found: no such script" := by decide +kernel
  have asks : Request.ofWords [] ["run", "no such script"]
      = .ok (.run "no such script" {} []) := rfl
  have loads : (Settings.load narrowPlace.files narrowPlace.place narrowPlace.environment
    narrowPlace.environment).value = .ok {} := rfl
  have resolves : Catalog.standard.resolve narrowPlace.screen "TraceReporter" 0
    = .ok (.trace false) := rfl
  have missing : narrowPlace.lookFor (tidyPath "no such script") = .ok none := rfl
  have complains : narrowPlace.Complains ["run", "no such script"]
      ("Script not found: " ++ tidyPath "no such script") :=
    .script loads asks resolves missing
  rw [message] at complains
  have unmarked : Unmarked "Script not found: no such script".toList := by decide +kernel
  exact ⟨complains, unmarked, (complaint_shown_iff_unmarked narrowPlace ["run", "no such script"]
    "Script not found: no such script" complains rfl (by decide) (by decide +kernel)).mpr
    unmarked⟩

/-- A project file in which what must be a table is a number. -/
def tablelessPlace : Workplace where
  files := { files := [(["pyproject.toml"], .text "tool = 1\n")] }

/-- The complaint about it begins with what is read as a tag, and the tag is not shown. -/
theorem tableless_not_shown :
    tablelessPlace.Complains [] "[tool] in /pyproject.toml must be a table"
    ∧ tablelessPlace.run []
        = { ending := .returned (.int 2)
            events := [.wrote .err " in /pyproject.toml must be a table\n"] }
    ∧ ¬ Shows 80 "[tool] in /pyproject.toml must be a table".toList
        " in /pyproject.toml must be a table\n".toList := by
  have complains : tablelessPlace.Complains [] "[tool] in /pyproject.toml must be a table" :=
    .of_load (by decide +kernel) []
  have early : (Settings.load tablelessPlace.files [] [] []).log.isEmpty = true := by decide +kernel
  have prints : (tablelessPlace.screen.print
      ("[red]" ++ "[tool] in /pyproject.toml must be a table" ++ "[/red]")).toOption
        = some " in /pyproject.toml must be a table\n" := by decide +kernel
  refine ⟨complains, ?_, fun shown => ?_⟩
  · have none : (Settings.load tablelessPlace.files tablelessPlace.place
        tablelessPlace.environment tablelessPlace.environment).log = [] := List.isEmpty_iff.mp early
    rw [Workplace.run_of_complains complains, none, Workplace.complain_of_print prints]
    rfl
  · have inked := shown.ink_eq
    revert inked
    decide +kernel

end InlineCheck
