import InlineCheck.Proofs.Settings.Effective

/-! # What loading depends on

Loading reads a project table and an environment file, and validates what they and the environment
make together. Two loads can be told apart only by what they validate.

* `environmentText` and `load_value` — loading in one line, with the environment file as a text.
* `load_congr` — loads of one project agree when the variables of every field do.
* `complaints` — everything that validation finds wrong, which equal outcomes share.
* `environmentText_ofTexts` — every text of an environment file is that of a project of two files.
-/

namespace InlineCheck

open Validation

/-! ## Variables over others -/

namespace EnvFile.Variables

theorem update_append (vs ws us : EnvFile.Variables) :
    update vs (ws ++ us) = update (update vs ws) us :=
  List.foldl_append

theorem find?_update_of_missing {ws : EnvFile.Variables} {name : String}
    (missing : find? ws name = none) (vs : EnvFile.Variables) :
    find? (update vs ws) name = find? vs name := by
  induction ws generalizing vs with
  | nil => rfl
  | cons e ws ih =>
    obtain ⟨n, value⟩ := e
    have other : n ≠ name := by
      rintro rfl
      simp [find?] at missing
    have later : find? ws name = none := by simpa [find?, other] using missing
    have step : update vs ((n, value) :: ws) = update (set n value vs) ws := rfl
    rw [step, ih later, find?_set, if_neg (Ne.symm other)]

/-- What is put over variables hides them where it has an entry, and shows them elsewhere. -/
theorem find?_update_congr {vs vs' ws : EnvFile.Variables} {name : String}
    (same : find? ws name = none → find? vs name = find? vs' name) :
    find? (update vs ws) name = find? (update vs' ws) name := by
  induction ws generalizing vs vs' with
  | nil => exact same rfl
  | cons e ws ih =>
    obtain ⟨n, value⟩ := e
    apply ih
    intro later
    show find? (set n value vs) name = find? (set n value vs') name
    rw [find?_set, find?_set]
    by_cases here : name = n
    · simp [here]
    · have shown : find? vs name = find? vs' name := by
        apply same
        simpa [find?, Ne.symm here] using later
      simp [here, shown]

end EnvFile.Variables

namespace Settings

open EnvFile.Variables (find?_update_of_missing)

theorem variableName_inj {f g : Field} : variableName f.name = variableName g.name ↔ f = g := by
  cases f <;> cases g <;> decide

/-! ## Loading in one line -/

/-- The text of the environment file of a directory; one that is missing or refused is empty. -/
def textFrom (t : FileTree) (root : Place) : Except Fault (List Char) :=
  match (t.openAt? (root ++ [".env"])).toOption.join with
  | none => .ok []
  | some file =>
    match file.read with
    | .error f => .error (.undecodable f)
    | .ok text => .ok (Text.unifyNewlines text.toList)

/-- The text of the environment file for a place. -/
def environmentText (t : FileTree) (place : Place) : Except Fault (List Char) :=
  ((t.findRoot place).mapError .system).bind (textFrom t)

/-- The program's table for a place. -/
def tableFor (t : FileTree) (place : Place) : Except Fault Toml.Entries :=
  ((t.findRoot place).mapError .system).bind (projectTable t)

theorem environmentFile_eq (t : FileTree) (root : Place) (process : EnvFile.Variables) :
    environmentFile t root process = (textFrom t root).map (EnvFile.read process) := by
  unfold environmentFile textFrom
  cases (t.openAt? (root ++ [".env"])).toOption.join with
  | none => rfl
  | some file =>
    dsimp only
    cases file.read <;> rfl

/-- The variables of an environment file with those of the environment put over them. -/
def overlaid (process environ : EnvFile.Variables) (cs : List Char) : EnvFile.Variables :=
  (EnvFile.read process cs).value.update environ

/-- A variable that the environment lacks is that of the environment file. -/
theorem variableText?_overlaid {environ : EnvFile.Variables} {f : Field}
    (lacking : environ.find? (variableName f.name) = none) (process : EnvFile.Variables)
    (cs : List Char) :
    variableText? (overlaid process environ cs) f.name
      = variableText? (EnvFile.read process cs).value f.name := by
  unfold variableText? overlaid
  rw [find?_update_of_missing lacking]

theorem load_value (t : FileTree) (place : Place) (process environ : EnvFile.Variables) :
    (load t place process environ).value
      = (tableFor t place).bind fun table =>
          (environmentText t place).bind fun cs =>
            (validate (merged table (overlaid process environ cs))).mapError
              (.settings ∘ .invalid) := by
  unfold load tableFor environmentText
  cases t.findRoot place with
  | error cause => rfl
  | ok root =>
    simp only [Except.mapError, Except.bind, loadFrom, environmentFile_eq]
    cases projectTable t root with
    | error f => rfl
    | ok table =>
      cases textFrom t root with
      | error f => rfl
      | ok cs =>
        simp only [Except.map, overlaid]
        cases validate (merged table ((EnvFile.read process cs).value.update environ)) <;> rfl

theorem validate_merged_congr {table : Toml.Entries} {env env' : EnvFile.Variables}
    (same : ∀ f : Field, variableText? env f.name = variableText? env' f.name) :
    validate (merged table env) = validate (merged table env') := by
  apply validate_congr
  · rw [unexpected_merged, unexpected_merged]
  · intro f
    rw [lookup_merged, lookup_merged, rawValue_eq_or, rawValue_eq_or, same f]

/-- Of the variables, only those of the fields count, and of those only texts that are not empty. -/
theorem load_congr {t : FileTree} {place : Place}
    {process process' environ environ' : EnvFile.Variables}
    (same : ∀ cs, environmentText t place = .ok cs → ∀ f : Field,
      variableText? (overlaid process environ cs) f.name
        = variableText? (overlaid process' environ' cs) f.name) :
    (load t place process environ).value = (load t place process' environ').value := by
  rw [load_value, load_value]
  cases tableFor t place with
  | error f => rfl
  | ok table =>
    cases read : environmentText t place with
    | error f => rfl
    | ok cs =>
      simp only [Except.bind]
      rw [validate_merged_congr (same cs read)]

theorem validate_eq_of_load {t : FileTree} {place : Place} {table : Toml.Entries} {cs : List Char}
    (tabled : tableFor t place = .ok table)
    (read : environmentText t place = .ok cs)
    {process process' environ environ' : EnvFile.Variables}
    (same : (load t place process environ).value = (load t place process' environ').value) :
    validate (merged table (overlaid process environ cs))
      = validate (merged table (overlaid process' environ' cs)) := by
  rw [load_value, load_value, tabled, read] at same
  simp only [Except.bind] at same
  generalize validate (merged table (overlaid process environ cs)) = outcome at same ⊢
  generalize validate (merged table (overlaid process' environ' cs)) = outcome' at same ⊢
  cases outcome <;> cases outcome' <;> simp_all [Except.mapError]

/-! ## Complaints -/

/-- What is wrong with the entry of a field. -/
def Field.complaints (f : Field) (entry : Option Value) : List Finding :=
  findings (readField f.name (f.value {}) f.read entry)

theorem Field.complaints_of_reads {f : Field} {entry : Option Value} {x : f.type}
    (reads : f.Reads x entry) : f.complaints entry = [] := by
  rw [complaints, (readField_eq_ok_iff f entry x).mpr reads]
  rfl

/-- Everything that is wrong with entries, in the order of the fields. -/
def complaints (es : List (Value × Value)) : List Finding :=
  [Field.reporter, .summary, .verbosity, .addopts].flatMap
    (fun f => f.complaints (Value.lookup (.text f.name) es)) ++ unexpected es

theorem complaints_of_validate {es : List (Value × Value)} :
    complaints es = findings ((validate es).mapError Report.findings) := by
  cases valid : validate es with
  | ok s =>
    obtain ⟨known, reads⟩ := (validate_eq_ok_iff es s).mp valid
    simp [complaints, fun f => Field.complaints_of_reads (reads f),
      unexpected_eq_nil_iff.mpr known, Except.mapError, findings]
  | error report =>
    unfold validate at valid
    dsimp only at valid
    split at valid
    · cases valid
    · cases valid
      simp [complaints, Field.complaints, Field.name, Field.value, Field.read, Except.mapError,
        findings]

theorem complaints_eq_of_validate {es es' : List (Value × Value)}
    (same : validate es = validate es') : complaints es = complaints es' := by
  rw [complaints_of_validate, complaints_of_validate, same]

theorem mem_complaints_iff {es : List (Value × Value)} {x : Finding} :
    x ∈ complaints es ↔ (∃ f : Field, x ∈ f.complaints (Value.lookup (.text f.name) es))
      ∨ x ∈ unexpected es := by
  have fields : (∃ f ∈ [Field.reporter, .summary, .verbosity, .addopts],
      x ∈ f.complaints (Value.lookup (.text f.name) es))
      ↔ ∃ f : Field, x ∈ f.complaints (Value.lookup (.text f.name) es) := by
    constructor
    · rintro ⟨f, _, found⟩
      exact ⟨f, found⟩
    · rintro ⟨f, found⟩
      exact ⟨f, by cases f <;> simp, found⟩
  rw [complaints, List.mem_append, List.mem_flatMap, fields]

theorem readItems_texts (i : Nat) (ws : List String) : readItems i (ws.map .text) = (ws, []) := by
  induction ws generalizing i with
  | nil => rfl
  | cons w ws ih => simp [readItems, ih, readText]

/-- A variable can only be complained about as the text that it is. -/
theorem Field.input_of_complaint {f : Field} {text : String} {x : Finding}
    (wrong : x ∈ f.complaints (some (variableValue f.name text))) : x.input = .text text := by
  have alone {α : Type} (name : String) (default : α) (read : Value → Except Problem α)
      (wrong : x ∈ findings (readField name default (single read) (some (.text text)))) :
      x.input = .text text := by
    unfold readField single at wrong
    cases given : read (.text text) with
    | ok y => simp [given, Except.mapError, findings] at wrong
    | error p =>
      simp only [given, Except.mapError, findings, List.map_cons, List.map_nil,
        List.mem_singleton] at wrong
      rw [wrong]
  cases f with
  | reporter => exact alone _ _ _ wrong
  | summary => exact alone _ _ _ wrong
  | verbosity => exact alone _ _ _ wrong
  | addopts =>
    -- the words of a text are texts, and all of them are taken
    simp [complaints, variableValue, name, readField, read, readTexts, readItems_texts,
      Except.mapError, findings] at wrong

end Settings

/-! ## A project of two files -/

/-- A project file beside an environment file. -/
def FileTree.ofTexts (project environment : String) : FileTree where
  files := [([projectFile], .text project), ([".env"], .text environment)]

namespace Settings

/-- What an environment file says, one in a project of two files can say. -/
theorem environmentText_ofTexts {t : FileTree} {place : Place} {cs : List Char}
    (read : environmentText t place = .ok cs) :
    ∃ text, ∀ project, environmentText (.ofTexts project text) [] = .ok cs := by
  unfold environmentText at read
  cases found : t.findRoot place with
  | error cause =>
    rw [found] at read
    cases read
  | ok root =>
    rw [found] at read
    change textFrom t root = .ok cs at read
    unfold textFrom at read
    split at read
    · cases read
      exact ⟨"", fun _ => rfl⟩
    · split at read
      · cases read
      next text _ =>
        cases read
        exact ⟨text, fun _ => rfl⟩

theorem tableFor_ofTexts (project environment : String) :
    tableFor (.ofTexts project environment) [] = tableOf "/pyproject.toml" project :=
  rfl

end Settings

end InlineCheck
