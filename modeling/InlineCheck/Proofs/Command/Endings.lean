import InlineCheck.Proofs.Command.Complaints
import InlineCheck.Proofs.Command.Independence
import InlineCheck.Proofs.Project.Root

/-! # How demonstrations end

A command that is told to demonstrate returns zero, one or two, or ends the program with zero or
two, unless a fault slips through that is none of the settings.

* `Settings.Unreadable` and `Catalog.Unsupported` — the faults of files and of reporter names that
  the command does not expect.
* `Demo.counted_ok` — the demonstrations themselves end well under every reporter that has a name.
* `demo_documented_iff` — so only those faults, those of the sizes and of the place that a command
  is started with, and those of a complaint's own markup leave the command.
-/

namespace InlineCheck

open Console CommandLine

/-! ## Files -/

namespace Settings

/-- Files that cannot be read, whatever they say: bytes that are no text, a text that is nested too
deeply, or a number with too many digits. -/
inductive Unreadable (t : FileTree) (root : Place) : Fault → Prop where
  | project {file : File} {f : Text.DecodeFault}
      (found : t.openAt? (root ++ [FileTree.projectFile]) = .ok (some file))
      (read : file.read = .error f) : Unreadable t root (.undecodable f)
  | nested {file : File} {text : String}
      (found : t.openAt? (root ++ [FileTree.projectFile]) = .ok (some file))
      (read : file.read = .ok text) (deep : t.tooDeep text = true) :
      Unreadable t root (.system .tooDeep)
  | number {file : File} {text : String} {digits : Nat}
      (found : t.openAt? (root ++ [FileTree.projectFile]) = .ok (some file))
      (read : file.read = .ok text) (shallow : t.tooDeep text = false)
      (parsed : Toml.parse text = .error (.integerTooLong digits)) :
      Unreadable t root (.number (.tooLong digits))
  | environment {table : Toml.Entries} {file : File} {f : Text.DecodeFault}
      (tabled : projectTable t root = .ok table)
      (found : t.openAt? (root ++ [".env"]) = .ok (some file)) (read : file.read = .error f) :
      Unreadable t root (.undecodable f)

theorem subtable_error {part path key : String} {es : Toml.Entries} {f : Fault}
    (refused : subtable part path key es = .error f) : ∃ cause, f = .settings cause := by
  unfold subtable at refused
  split at refused
  · cases refused
  · cases refused
  · cases refused
    exact ⟨_, rfl⟩

theorem tableOf_error {path text : String} {f : Fault} (refused : tableOf path text = .error f) :
    (∃ cause, f = .settings cause)
      ∨ ∃ digits, Toml.parse text = .error (.integerTooLong digits)
        ∧ f = .number (.tooLong digits) := by
  unfold tableOf at refused
  split at refused
  · cases refused
    exact .inl ⟨_, rfl⟩
  next digits parsed =>
    cases refused
    exact .inr ⟨digits, parsed, rfl⟩
  next document parsed =>
    cases outer : subtable "tool" path "tool" document with
    | error f' =>
      simp only [outer, bind, Except.bind, Except.error.injEq] at refused
      exact .inl (refused ▸ subtable_error outer)
    | ok tool =>
      simp only [outer, bind, Except.bind] at refused
      exact .inl (subtable_error refused)

/-- Once the root of a project is found, the system has shown its project file, or that there is
none. -/
theorem openAt?_of_findRoot {t : FileTree} {place root : Place}
    (rooted : t.findRoot place = .ok root) :
    ∃ found, t.openAt? (root ++ [FileTree.projectFile]) = .ok found := by
  cases resolved : t.resolve place with
  | error cause =>
    rw [FileTree.findRoot, resolved] at rooted
    cases rooted
  | ok resolvedPlace =>
    have search := FileTree.rooted_findRoot resolved
    rw [rooted] at search
    cases search with
    | found _ has =>
      obtain ⟨file, opened, _⟩ := has
      exact ⟨some file, opened⟩
    | bare lacks => exact ⟨none, lacks _ (List.prefix_refl _)⟩

theorem projectTable_error {t : FileTree} {place root : Place}
    (rooted : t.findRoot place = .ok root) {f : Fault} (refused : projectTable t root = .error f) :
    (∃ cause, f = .settings cause) ∨ Unreadable t root f := by
  obtain ⟨opened, found⟩ := openAt?_of_findRoot rooted
  unfold projectTable at refused
  simp only [found] at refused
  cases opened with
  | none => cases refused
  | some file =>
    cases read : file.read with
    | error f' =>
      simp only [read, Except.error.injEq] at refused
      exact .inr (refused ▸ .project found read)
    | ok text =>
      simp only [read] at refused
      cases deep : t.tooDeep text with
      | true =>
        simp only [deep, if_true, Except.error.injEq] at refused
        exact .inr (refused ▸ .nested found read deep)
      | false =>
        simp only [deep, Bool.false_eq_true, if_false] at refused
        rcases tableOf_error refused with told | ⟨digits, parsed, rfl⟩
        · exact .inl told
        · exact .inr (.number found read deep parsed)

theorem environmentFile_error {t : FileTree} {root : Place} {process : EnvFile.Variables}
    {f : Fault} (refused : environmentFile t root process = .error f) :
    ∃ file f', t.openAt? (root ++ [".env"]) = .ok (some file) ∧ file.read = .error f'
      ∧ f = .undecodable f' := by
  unfold environmentFile at refused
  split at refused
  · cases refused
  next file found =>
    split at refused
    next f' read =>
      cases refused
      refine ⟨file, f', ?_, read, rfl⟩
      cases opened : t.openAt? (root ++ [".env"]) with
      | error cause =>
        rw [opened] at found
        cases found
      | ok found' =>
        rw [opened] at found
        exact congrArg Except.ok found
    · cases refused

/-- Loading fails for a fault of the settings, because there is no way to the root of the project,
or because files cannot be read. -/
theorem load_error {t : FileTree} {place : Place} {process environ : EnvFile.Variables} {f : Fault}
    (refused : (load t place process environ).value = .error f) :
    (∃ cause, f = .settings cause) ∨ (∃ cause, t.findRoot place = .error cause ∧ f = .system cause)
      ∨ ∃ root, t.findRoot place = .ok root ∧ Unreadable t root f := by
  unfold load at refused
  cases rooted : t.findRoot place with
  | error cause =>
    simp only [rooted, Except.error.injEq] at refused
    exact .inr (.inl ⟨cause, rfl, refused.symm⟩)
  | ok root =>
    simp only [rooted, loadFrom] at refused
    cases tabled : projectTable t root with
    | error f' =>
      simp only [tabled, Except.error.injEq] at refused
      subst refused
      exact (projectTable_error rooted tabled).imp_right fun unreadable =>
        .inr ⟨root, rfl, unreadable⟩
    | ok table =>
      cases read : environmentFile t root process with
      | error f' =>
        simp only [tabled, read, Except.error.injEq] at refused
        obtain ⟨file, cause, found, unread, rfl⟩ := environmentFile_error read
        exact .inr (.inr ⟨root, rfl, refused ▸ .environment tabled found unread⟩)
      | ok file =>
        cases valid : validate (merged table (file.value.update environ)) with
        | error report =>
          simp only [tabled, read, valid, Except.error.injEq] at refused
          exact .inl ⟨_, refused.symm⟩
        | ok s =>
          simp only [tabled, read, valid] at refused
          cases refused

theorem load_unrooted {t : FileTree} {place : Place} {cause : SystemFault}
    (lost : t.findRoot place = .error cause) (process environ : EnvFile.Variables) :
    (load t place process environ).value = .error (.system cause) := by
  rw [load, lost]

theorem load_unreadable {t : FileTree} {place root : Place} {f : Fault}
    (rooted : t.findRoot place = .ok root) (unreadable : Unreadable t root f)
    (process environ : EnvFile.Variables) : (load t place process environ).value = .error f := by
  rw [load, rooted]
  cases unreadable with
  | @project file cause found read =>
    have tabled : projectTable t root = .error (.undecodable cause) := by
      simp [projectTable, found, read]
    simp only [loadFrom, tabled]
  | @nested file text found read deep =>
    have tabled : projectTable t root = .error (.system .tooDeep) := by
      simp [projectTable, found, read, deep]
    simp only [loadFrom, tabled]
  | @number file text digits found read shallow parsed =>
    have tabled : projectTable t root = .error (.number (.tooLong digits)) := by
      simp [projectTable, found, read, shallow, tableOf, parsed]
    simp only [loadFrom, tabled]
  | @environment table file cause tabled found read =>
    have refused : environmentFile t root process = .error (.undecodable cause) := by
      simp [environmentFile, found, read, Except.toOption]
    simp only [loadFrom, tabled, refused]

end Settings

/-! ## Reporter names -/

/-- The members that modules of the library have. -/
def Member.IsOwn (m : Member) : Prop :=
  m = .trace ∨ m = .console ∨ m = .interface ∨ m = .other

namespace Catalog

/-- Names of reporters that are refused by a fault of another kind than the settings': the part that
names the module is empty or relative, or what is named is the interface itself. -/
inductive Unsupported (name : String) : Fault → Prop where
  | relative {path member : String} (split : splitName? name = some (path, member))
      (dotted : Text.startsWith ['.'] path.toList = true) : Unsupported name (.relativeModule path)
  | unnamed {member : String} (split : splitName? name = some ("", member)) :
      Unsupported name .emptyModuleName
  | interface (found : standard.find name = .ok .interface) : Unsupported name .abstractReporter

theorem find_error {name : String} {f : Fault} (refused : standard.find name = .error f) :
    (∃ cause, f = .settings cause) ∨ Unsupported name f := by
  unfold find at refused
  split at refused
  · cases refused
  split at refused
  · cases refused
    exact .inl ⟨_, rfl⟩
  next path member split =>
    split at refused
    next dotted =>
      cases refused
      exact .inr (.relative split dotted)
    next =>
      split at refused
      next empty =>
        cases refused
        exact .inr (.unnamed (empty ▸ split))
      next =>
        split at refused
        · cases refused
        · cases refused
          exact .inl ⟨_, rfl⟩

/-- The short names are not made of two parts. -/
theorem builtin_of_split {name : String} {parts : String × String}
    (split : splitName? name = some parts) : standard.builtin.find? (·.1 == name) = none := by
  have whole (own : String × Member) (member : own ∈ standard.builtin) :
      splitName? own.1 = none := by
    simp only [standard, List.mem_cons, List.not_mem_nil, or_false] at member
    rcases member with rfl | rfl <;> decide +kernel
  refine List.find?_eq_none.mpr fun own member same => ?_
  rw [← eq_of_beq same, whole own member] at split
  cases split

def AllOwn (ms : List (String × Member)) : Prop :=
  ∀ m ∈ ms, m.2.IsOwn

theorem allOwn_others (names : List String) : AllOwn (others names) := by
  intro m member
  obtain ⟨name, _, rfl⟩ := List.mem_map.mp member
  exact .inr (.inr (.inr rfl))

theorem AllOwn.append {ms ms' : List (String × Member)} (first : AllOwn ms) (second : AllOwn ms') :
    AllOwn (ms ++ ms') :=
  List.forall_mem_append.mpr ⟨first, second⟩

theorem allOwn_modules : ∀ entry ∈ standard.modules, AllOwn entry.members := by
  have reports {ms : List (String × Member)}
      (known : ∀ m ∈ ms, m.2 = .trace ∨ m.2 = .console ∨ m.2 = .interface) : AllOwn ms :=
    fun m member => (known m member).imp_right (Or.imp_right .inl)
  have some (names : List String) {ms : List (String × Member)}
      (known : ∀ m ∈ ms, m.2 = .trace ∨ m.2 = .console ∨ m.2 = .interface) :
      AllOwn (others names ++ ms) :=
    (allOwn_others names).append (reports known)
  simp only [standard, List.forall_mem_cons, allOwn_others, true_and]
  refine ⟨some _ ?_, some _ ?_, some _ ?_, some _ ?_, some _ ?_, some _ ?_, nofun⟩ <;> simp

theorem mem_of_module? {c : Catalog} {name : String} {entry : ModuleEntry}
    (found : c.module? name = some entry) : entry ∈ c.modules :=
  List.mem_of_find?_eq_some found

theorem mem_of_importParts {c : Catalog} {parent : Option ModuleEntry} {parts : List String}
    {entry : ModuleEntry} (inside : ∀ m ∈ parent, m ∈ c.modules)
    (imported : c.importParts parent parts = .ok (some entry)) : entry ∈ c.modules := by
  induction parts generalizing parent with
  | nil =>
    rw [importParts, Except.ok.injEq] at imported
    exact inside entry imported
  | cons part parts ih =>
    have step {name : String} {m : ModuleEntry} (found : c.module? name = some m)
        (later : c.importParts (some m) parts = .ok (some entry)) : entry ∈ c.modules :=
      ih (by simpa using mem_of_module? found) later
    cases parent with
    | none =>
      simp only [importParts] at imported
      split at imported
      next m found => exact step found imported
      next => cases imported
    | some m =>
      simp only [importParts] at imported
      split at imported
      · split at imported
        next m found => exact step found imported
        next => cases imported
      · cases imported

theorem mem_of_importModule {c : Catalog} {path : String} {entry : ModuleEntry}
    (imported : c.importModule path = .ok entry) : entry ∈ c.modules := by
  unfold importModule at imported
  split at imported
  next m found =>
    cases imported
    exact mem_of_importParts (by simp) found
  · cases imported
  · cases imported

theorem isOwn_of_member {entry : ModuleEntry} (own : AllOwn entry.members) {c : Catalog}
    {name : String} {m : Member} (found : c.member entry name = .ok m) : m.IsOwn := by
  unfold member at found
  split at found
  next key m' known =>
    cases found
    exact own _ (List.mem_of_find?_eq_some known)
  next =>
    split at found
    · cases found
      exact .inr (.inr (.inr rfl))
    · cases found

theorem isOwn_of_find {name : String} {m : Member} (found : standard.find name = .ok m) :
    m.IsOwn := by
  unfold find at found
  split at found
  next key own known =>
    cases found
    have member := List.mem_of_find?_eq_some known
    simp only [standard, List.mem_cons, List.not_mem_nil, or_false, Prod.mk.injEq] at member
    rcases member with ⟨_, rfl⟩ | ⟨_, rfl⟩
    · exact .inl rfl
    · exact .inr (.inl rfl)
  split at found
  · cases found
  next path member split =>
    split at found
    · cases found
    split at found
    · cases found
    cases imported : standard.importModule path with
    | error f =>
      rw [imported] at found
      cases found
    | ok entry =>
      rw [imported] at found
      cases listed : standard.member entry member with
      | error f =>
        simp only [bind, Except.bind, listed] at found
        cases found
      | ok m' =>
        simp only [bind, Except.bind, listed, Except.ok.injEq] at found
        exact found ▸ isOwn_of_member (allOwn_modules entry (mem_of_importModule imported)) listed

theorem resolve_of_refused {name : String} {f : Fault} (refused : standard.find name = .error f)
    (screen : Screen) (verbosity : Int) : standard.resolve screen name verbosity = .error f := by
  rw [resolve, refused]
  rfl

theorem resolve_error {screen : Screen} {name : String} {verbosity : Int} {f : Fault}
    (refused : standard.resolve screen name verbosity = .error f) :
    (∃ cause, f = .settings cause) ∨ Unsupported name f := by
  cases found : standard.find name with
  | error f' =>
    cases (resolve_of_refused found screen verbosity).symm.trans refused
    exact find_error found
  | ok member =>
    rw [resolve, found] at refused
    rcases isOwn_of_find found with rfl | rfl | rfl | rfl
    · cases refused
    · cases refused
    · cases refused
      exact .inr (.interface found)
    · cases refused
      exact .inl ⟨_, rfl⟩

theorem resolve_unsupported {name : String} {f : Fault} (unsupported : Unsupported name f)
    (screen : Screen) (verbosity : Int) : standard.resolve screen name verbosity = .error f := by
  cases unsupported with
  | relative split dotted =>
    refine resolve_of_refused ?_ screen verbosity
    simp only [find, builtin_of_split split, split, dotted, if_true]
  | unnamed split =>
    refine resolve_of_refused ?_ screen verbosity
    simp only [find, builtin_of_split split, split]
    rfl
  | interface found =>
    rw [resolve, found]
    rfl

theorem steady_of_resolved {screen : Screen} {name : String} {verbosity : Int} {r : Reporter}
    (resolves : standard.resolve screen name verbosity = .ok r) : r.Steady := by
  cases found : standard.find name with
  | error f => cases (resolve_of_refused found screen verbosity).symm.trans resolves
  | ok member =>
    rw [resolve, found] at resolves
    rcases isOwn_of_find found with rfl | rfl | rfl | rfl
    · cases resolves
      exact Reporter.trace_steady false
    · cases resolves
      exact Reporter.console_steady screen verbosity
    · cases resolves
    · cases resolves

end Catalog

/-! ## Demonstrations -/

namespace Demo

/-- A program that comes to the same under reporters that do the same. -/
def Uniform (p : State → Except Raised Unit × State) : Prop :=
  ∀ {s t : State}, s.Alike t → Agree (p s) (p t)

theorem uniform_inTurn {ps : List (State → Except Raised Unit × State)}
    (each : ∀ p ∈ ps, Uniform p) : Uniform (inTurn ps) := by
  induction ps with
  | nil => exact fun alike => ⟨rfl, alike⟩
  | cons p ps ih =>
    intro s t alike
    obtain ⟨first, others⟩ := List.forall_mem_cons.mp each
    rcases (first alike).cases with ⟨e, u, v, left, right, after⟩ | ⟨_, u, v, left, right, after⟩
    · simp only [inTurn, left, right]
      exact ⟨rfl, after⟩
    · simp only [inTurn, left, right]
      exact ih others after

theorem uniform_blockOf (env : Setting) (description : String) (checks : List (String × Bool)) :
    Uniform (blockOf env description checks) := by
  have checked (label : String) (condition : Bool) : Uniform (checked label condition) := by
    intro s t alike
    have agree := State.check_agree alike (.text label) (.bool condition)
    exact ⟨congrArg (Except.map fun _ => ()) agree.outcome, agree.states⟩
  intro s t alike
  refine runBlock_agree (uniform_inTurn fun p member => ?_) alike env env.logging rfl
  obtain ⟨⟨label, b⟩, _, rfl⟩ := List.mem_map.mp member
  exact checked label b

theorem uniform_run (env : Setting) (d : Demo) : Uniform (d.run env) := by
  cases d with
  | inlineTesting =>
    refine uniform_inTurn fun p member => ?_
    simp only [List.mem_cons, List.not_mem_nil, or_false] at member
    rcases member with rfl | rfl | rfl <;> exact uniform_blockOf env _ _
  | slicesRanges =>
    refine uniform_inTurn fun p member => ?_
    simp only [List.mem_cons, List.not_mem_nil, or_false] at member
    rcases member with rfl | rfl
    · exact fun alike => ⟨rfl, (alike.log env env.logging _).emit _ _⟩
    · exact fun alike => ⟨rfl, (alike.log env env.logging _).emit _ _⟩

/-- A reporter that says nothing. -/
def silent : Reporter where
  className := "Silent"
  moduleName := "reporters"
  respond _ _ := {}

/-- The demonstrations end well under every reporter that does not fail when told texts. -/
theorem counted_ok (env : Setting) (name : String) {r : Reporter} (steady : r.Steady) :
    (Workplace.counted r (inTurn ((named name).map (run env)))).1 = .ok () := by
  have uniform (demos : List Demo) : Uniform (inTurn (demos.map (run env))) := by
    refine uniform_inTurn fun p member => ?_
    obtain ⟨d, _, rfl⟩ := List.mem_map.mp member
    exact uniform_run env d
  -- it is enough to run them under one that says nothing
  have agree (demos : List Demo) : (Workplace.counted r (inTurn (demos.map (run env)))).1
      = (Workplace.counted silent (inTurn (demos.map (run env)))).1 := by
    refine (runReporter_agree ?_ (.refl {}) (.inr ⟨fun _ _ _ => rfl, steady⟩)).outcome
    exact fun alike => runTally_agree (uniform demos) alike .command
  rw [agree]
  unfold named
  cases all.find? (·.name == name) with
  | none => rfl
  | some d => cases d <;> rfl

end Demo

/-! ## Requests -/

theorem CommandLine.Request.demo_of_words {options words : List String} {request : Request}
    (first : words.head? = some "demo") (asks : Request.ofWords options words = .ok request) :
    ∃ name flags, request = .demo name flags := by
  obtain ⟨rest, rfl⟩ := List.head?_eq_some_iff.mp first
  have own : Request.ofWords options ("demo" :: rest)
      = readDemo [] ((options ++ rest).takeWhile (· != "--"))
        (((options ++ rest).dropWhile (· != "--")).drop 1) := rfl
  rw [own, readDemo] at asks
  cases read : readCommand .demo ((options ++ rest).takeWhile (· != "--")) with
  | error stop =>
    rw [read] at asks
    cases asks
  | ok reading =>
    rw [read] at asks
    simp only [Except.bind, refuseRest] at asks
    split at asks
    · cases asks
      exact ⟨_, _, rfl⟩
    · cases asks

/-! ## Commands -/

/-- The endings that a caller is told of: a code that says what came out, or the end of the program
for help and for words that are refused. -/
def Ending.Documented : Ending → Prop
  | .returned code => code = .int 0 ∨ code = .int 1 ∨ code = .int 2
  | .exited code => code = 0 ∨ code = 2
  | .failed _ => False

namespace Workplace

/-- Faults that leave a command: the root of the project is out of reach, files cannot be read, the
name of the reporter is not supported, or a complaint's own markup is wrong, be it when it is read
or when it is put into rows. -/
inductive Slips (w : Workplace) (words : List String) : Fault → Prop where
  | root {cause : SystemFault} (lost : w.files.findRoot w.place = .error cause) :
      Slips w words (.system cause)
  | files {root : Place} {f : Fault} (rooted : w.files.findRoot w.place = .ok root)
      (unreadable : Settings.Unreadable w.files root f) : Slips w words f
  | reporter {settings : Settings} {request : Request} {flags : Flags} {f : Fault}
      (loads : (Settings.load w.files w.place w.environment w.environment).value = .ok settings)
      (asks : Request.ofWords settings.addopts words = .ok request)
      (flagged : request.flags? = some flags)
      (unsupported : Catalog.Unsupported (Plan.make settings flags).reporterName f) :
      Slips w words f
  | markup {message : String} {f : MarkupFault} (complains : w.Complains words message)
      (misread : render w.screen.lexicon (reddened message) = .error f) :
      Slips w words (.markup f)
  | rows {message : String} {gs : List Glyph} {f : MarkupFault}
      (complains : w.Complains words message)
      (rendered : render w.screen.lexicon (reddened message) = .ok gs)
      (clashes : w.screen.lexicon.clash w.screen.width (reddened message) = some f) :
      Slips w words (.markup f)

theorem giveUp_of_other (w : Workplace) {f : Fault} (other : ∀ cause, f ≠ .settings cause) :
    (w.giveUp f).ending = .failed (.alone f) := by
  cases f with
  | settings cause => exact absurd rfl (other cause)
  | _ => rfl

/-- What slips through leaves the command. -/
theorem run_of_slips {w : Workplace} (own : w.catalog = .standard) {words : List String} {f : Fault}
    (slips : w.Slips words f) : (w.run words).ending = .failed (.alone f) := by
  cases slips with
  | root lost => rw [run_of_refused (Settings.load_unrooted lost _ _)]; rfl
  | files rooted unreadable =>
    rw [run_of_refused (Settings.load_unreadable rooted unreadable _ _)]
    refine giveUp_of_other w fun cause => ?_
    cases unreadable <;> nofun
  | @reporter settings request flags _ loads asks flagged unsupported =>
    have refused := Catalog.resolve_unsupported unsupported w.screen
      (Plan.make settings flags).verbosity
    rw [← own] at refused
    rw [run_of_unresolved loads asks flagged refused]
    refine giveUp_of_other w fun cause => ?_
    cases unsupported <;> nofun
  | @markup message f complains misread =>
    have fails : w.screen.print ("[red]" ++ message ++ "[/red]") = .error (.markup f) := by
      rw [Screen.print, toList_complaint, misread]
    rw [run_of_complains complains, complain_of_fault fails]
    rfl
  | @rows message gs f complains rendered clashes =>
    have fails : w.screen.print ("[red]" ++ message ++ "[/red]") = .error (.markup f) := by
      rw [Screen.print, toList_complaint, rendered, clashes]
    rw [run_of_complains complains, complain_of_fault fails]
    rfl

/-- A complaint whose markup can be read and shown returns two. -/
theorem run_of_complains_told {w : Workplace} {words : List String} {message : String}
    (complains : w.Complains words message) (none : ∀ f, ¬ w.Slips words f) :
    (w.run words).ending = .returned (.int 2) := by
  cases rendered : render w.screen.lexicon (reddened message) with
  | error f => exact absurd (.markup complains rendered) (none _)
  | ok gs =>
    cases clashes : w.screen.lexicon.clash w.screen.width (reddened message) with
    | some f => exact absurd (.rows complains rendered clashes) (none _)
    | none =>
      have prints : ∃ text, w.screen.print ("[red]" ++ message ++ "[/red]") = .ok text := by
        rw [Screen.print, toList_complaint, rendered, clashes]
        exact ⟨_, rfl⟩
      obtain ⟨text, prints⟩ := prints
      rw [run_of_complains complains, complain_of_print (congrArg Except.toOption prints)]
      rfl

theorem runDemos_documented {r : Reporter} (steady : r.Steady) (w : Workplace) (plan : Plan)
    (name : String) : (w.runDemos plan r (Demo.named name)).ending.Documented := by
  have ends := Demo.counted_ok (w.setting plan []) name steady
  unfold runDemos
  dsimp only
  rcases ran : counted r (Demo.inTurn ((Demo.named name).map (Demo.run (w.setting plan [])))) with
    ⟨outcome, s⟩
  rw [ran] at ends
  cases (ends : outcome = .ok ())
  simp only [conclude_of_steady plan steady, Option.getD_none, Ending.Documented, Tally.exitCode]
  split
  · exact .inl rfl
  · exact .inr (.inl rfl)

/-- When nothing slips through, a demonstration ends as documented. -/
theorem demo_documented {w : Workplace} (own : w.catalog = .standard) {words : List String}
    (first : words.head? = some "demo") (none : ∀ f, ¬ w.Slips words f) :
    (w.run words).ending.Documented := by
  have told {message : String} (complains : w.Complains words message) :
      (w.run words).ending.Documented := by
    rw [run_of_complains_told complains none]
    exact .inr (.inr rfl)
  cases loads : (Settings.load w.files w.place w.environment w.environment).value with
  | error f =>
    rcases Settings.load_error loads with
      ⟨cause, rfl⟩ | ⟨cause, lost, rfl⟩ | ⟨root, rooted, unreadable⟩
    · exact told (.settings loads)
    · exact absurd (.root lost) (none _)
    · exact absurd (.files rooted unreadable) (none f)
  | ok settings =>
    cases asks : Request.ofWords settings.addopts words with
    | error stop =>
      rw [run_of_stop loads asks]
      cases stop with
      | help form => exact .inl rfl
      | refused form fault => exact .inr rfl
    | ok request =>
      obtain ⟨name, flags, rfl⟩ := Request.demo_of_words first asks
      cases resolved : w.catalog.resolve w.screen (Plan.make settings flags).reporterName
          (Plan.make settings flags).verbosity with
      | error f =>
        rcases Catalog.resolve_error (own ▸ resolved) with ⟨cause, rfl⟩ | unsupported
        · exact told (.reporter loads asks rfl resolved)
        · exact absurd (.reporter loads asks rfl unsupported) (none f)
      | ok r =>
        rw [run_of_request loads asks, carryOut,
          withReporter_of_resolved w (Plan.make settings flags) resolved]
        exact runDemos_documented (Catalog.steady_of_resolved (own ▸ resolved)) w _ name

end Workplace

namespace Invocation

/-- Faults that leave a command, also before it begins: sizes of the screen cannot be read. -/
inductive Slips (i : Invocation) (words : List String) : Fault → Prop where
  | sizes {cause : Number.WholeFault} (unread : i.readSizes = .error cause) :
      Slips i words (.number cause)
  | later {w : Workplace} {f : Fault} (same : w.toInvocation = i) (slips : w.Slips words f) :
      Slips i words f

theorem run_of_readable {i : Invocation} {w : Workplace} (same : w.toInvocation = i)
    (words : List String) : i.run words = w.run words := by
  subst same
  unfold run
  split
  next cause unread =>
    rw [w.readable] at unread
    cases unread
  next => rfl

theorem run_of_unread {i : Invocation} {cause : Number.WholeFault}
    (unread : i.readSizes = .error cause) (words : List String) :
    (i.run words).ending = .failed (.alone (.number cause)) := by
  unfold run
  split
  next cause' same =>
    cases same.symm.trans unread
    rfl
  next readable =>
    cases readable.symm.trans unread

theorem run_of_slips {i : Invocation} (own : i.catalog = .standard) {words : List String}
    {f : Fault} (slips : i.Slips words f) : (i.run words).ending = .failed (.alone f) := by
  cases slips with
  | sizes unread => exact run_of_unread unread words
  | later same slips =>
    rw [run_of_readable same]
    subst same
    exact Workplace.run_of_slips own slips

end Invocation

end InlineCheck
