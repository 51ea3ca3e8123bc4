import Mathlib.Data.Option.Basic
import InlineCheck.Settings.Load

/-! # Effective values

Settings are read from four sources that are merged into one list of entries and validated as a
whole. What comes out can be said one setting at a time:

* `rawValue` — the value that counts for a setting: that of its variable when it is set and not
  empty, else the entry of the project table.
* `lookup_merged` and `unexpected_merged` — merging leaves the raw value under the name of every
  setting, and leaves the entries alone that are no settings.
* `validate_eq_ok_iff` — validation as a whole is validation field by field.
-/

namespace InlineCheck

open Validation

/-! ## Entries -/

namespace Value

theorem same_text_iff {k : Value} {name : String} :
    k.same (.text name) = true ↔ k = .text name := by
  cases k <;> simp [same, number?]

theorem lookup_insert (name other : String) (v : Value) (es : List (Value × Value)) :
    lookup (.text other) (insert (.text name) v es)
      = if other = name then some v else lookup (.text other) es := by
  induction es with
  | nil =>
    by_cases wanted : other = name
    · simp [insert, lookup, same_text_iff, wanted]
    · simp [insert, lookup, same_text_iff, wanted, Ne.symm wanted]
  | cons e es ih =>
    obtain ⟨k, old⟩ := e
    by_cases here : k = .text name
    · subst here
      by_cases wanted : other = name
      · simp [insert, lookup, same_text_iff, wanted]
      · simp [insert, lookup, same_text_iff, wanted, Ne.symm wanted]
    · by_cases wanted : k = .text other
      · subst wanted
        have apart : other ≠ name := by
          rintro rfl
          exact here rfl
        simp [insert, lookup, same_text_iff, apart]
      · simp [insert, lookup, same_text_iff, here, wanted, ih]

/-- Of the entries that are put over others, those of a name win where there are any. -/
theorem lookup_update (value : String → Option Value) (names : List String) (name : String)
    (es : List (Value × Value)) :
    lookup (.text name) (update es (names.filterMap fun n => (value n).map (.text n, ·)))
      = if name ∈ names then (value name).or (lookup (.text name) es)
        else lookup (.text name) es := by
  induction names generalizing es with
  | nil => rfl
  | cons n names ih =>
    cases given : value n with
    | none =>
      rw [List.filterMap_cons_none (by simp [given]), ih]
      by_cases first : name = n
      · simp [first, given]
      · simp [first]
    | some v =>
      have put : update es ((n :: names).filterMap fun n => (value n).map (.text n, ·))
          = update (insert (.text n) v es)
            (names.filterMap fun n => (value n).map (.text n, ·)) := by
        rw [List.filterMap_cons_some (by simp [given]; rfl)]
        rfl
      rw [put, ih, lookup_insert]
      by_cases first : name = n
      · simp [first, given]
      · simp [first]

end Value

namespace EnvFile.Variables

theorem find?_set (name other : String) (value : Option String) (vs : EnvFile.Variables) :
    find? (set name value vs) other = if other = name then some value else find? vs other := by
  induction vs with
  | nil =>
    by_cases wanted : other = name
    · simp [set, find?, wanted]
    · simp [set, find?, wanted, Ne.symm wanted]
  | cons e vs ih =>
    by_cases here : e.1 = name
    · by_cases wanted : other = name
      · simp [set, find?, here, wanted]
      · simp [set, find?, here, wanted, Ne.symm wanted]
    · by_cases wanted : e.1 = other
      · have apart : other ≠ name := fun same => here (wanted.trans same)
        simp [set, find?, wanted, apart]
      · simpa [set, find?, here, wanted] using ih

/-- A mapping put over variables is asked first. -/
theorem find?_update {ws : EnvFile.Variables} (distinct : (ws.map Prod.fst).Nodup)
    (vs : EnvFile.Variables) (name : String) :
    find? (update vs ws) name = (find? ws name).or (find? vs name) := by
  induction ws generalizing vs with
  | nil => rfl
  | cons e ws ih =>
    obtain ⟨n, value⟩ := e
    obtain ⟨fresh, later⟩ := List.nodup_cons.mp distinct
    have step : update vs ((n, value) :: ws) = update (set n value vs) ws := rfl
    rw [step, ih later, find?_set]
    by_cases wanted : name = n
    · have missing : List.find? (·.1 == n) ws = none := by
        refine List.find?_eq_none.mpr fun e member => ?_
        have apart : e.1 ≠ n := by
          rintro rfl
          exact fresh (List.mem_map.mpr ⟨e, member, rfl⟩)
        simpa using apart
      simp [wanted, find?, missing]
    · simp [wanted, Ne.symm wanted, find?]

end EnvFile.Variables

namespace Settings

/-! ## Fields -/

/-- The settings, as fields of a record. -/
inductive Field where
  | reporter
  | summary
  | verbosity
  | addopts
  deriving DecidableEq, Repr

namespace Field

def name : Field → String
  | .reporter => "reporter"
  | .summary => "summary"
  | .verbosity => "verbosity"
  | .addopts => "addopts"

abbrev type : Field → Type
  | .reporter => String
  | .summary => Bool
  | .verbosity => Int
  | .addopts => List String

def value (s : Settings) : (f : Field) → f.type
  | .reporter => s.reporter
  | .summary => s.summary
  | .verbosity => s.verbosity
  | .addopts => s.addopts

/-- How a field is validated. -/
def read : (f : Field) → Value → Except (List Finding) f.type
  | .reporter => single readText
  | .summary => single readBool
  | .verbosity => single readInt
  | .addopts => readTexts

/-- A field has the value that its raw value is read as, and its default when there is none. -/
def Reads (f : Field) (x : f.type) : Option Value → Prop
  | none => x = f.value {}
  | some v => f.read v = .ok x

/-- The record with the given values. -/
def record (values : (f : Field) → f.type) : Settings where
  reporter := values .reporter
  summary := values .summary
  verbosity := values .verbosity
  addopts := values .addopts

instance (f : Field) : DecidableEq f.type :=
  match f with
  | .reporter => inferInstanceAs (DecidableEq String)
  | .summary => inferInstanceAs (DecidableEq Bool)
  | .verbosity => inferInstanceAs (DecidableEq Int)
  | .addopts => inferInstanceAs (DecidableEq (List String))

theorem reads_iff (f : Field) (x : f.type) (v : Value) :
    f.Reads x (some v) ↔ (f.read v).toOption = some x := by
  cases read : f.read v <;> simp [Reads, read, Except.toOption]

instance (f : Field) (x : f.type) (raw : Option Value) : Decidable (f.Reads x raw) :=
  match raw with
  | none => inferInstanceAs (Decidable (x = f.value {}))
  | some v => decidable_of_iff _ (f.reads_iff x v).symm

theorem forall_iff {P : Field → Prop} :
    (∀ f, P f) ↔ P .reporter ∧ P .summary ∧ P .verbosity ∧ P .addopts := by
  refine ⟨fun all => ⟨all _, all _, all _, all _⟩, fun ⟨r, s, v, a⟩ f => ?_⟩
  cases f with
  | reporter => exact r
  | summary => exact s
  | verbosity => exact v
  | addopts => exact a

instance {P : Field → Prop} [DecidablePred P] : Decidable (∀ f, P f) :=
  decidable_of_iff _ forall_iff.symm

theorem value_record (values : (f : Field) → f.type) (f : Field) :
    f.value (record values) = values f := by
  cases f <;> rfl

theorem mem_names_iff {n : String} : n ∈ names ↔ ∃ f : Field, n = f.name := by
  constructor
  · intro member
    simp only [names, List.mem_cons, List.not_mem_nil, or_false] at member
    rcases member with rfl | rfl | rfl | rfl
    · exact ⟨.reporter, rfl⟩
    · exact ⟨.summary, rfl⟩
    · exact ⟨.verbosity, rfl⟩
    · exact ⟨.addopts, rfl⟩
  · rintro ⟨f, rfl⟩
    cases f <;> decide

end Field

/-! ## Merging -/

/-- The value that counts for a setting, before it is read. -/
def rawValue (table : Toml.Entries) (env : EnvFile.Variables) (name : String) : Option Value :=
  match env.find? (variableName name) with
  | some (some text) =>
    if text = "" then Value.lookup (.text name) table
    else if name = "addopts" then some (.list ((Text.words text).map .text))
    else some (.text text)
  | _ => Value.lookup (.text name) table

theorem rawValue_eq_or (table : Toml.Entries) (env : EnvFile.Variables) (name : String) :
    rawValue table env name
      = ((variableText? env name).map (variableValue name)).or
        (Value.lookup (.text name) table) := by
  unfold rawValue variableText? variableValue
  cases env.find? (variableName name) with
  | none => rfl
  | some value =>
    cases value with
    | none => rfl
    | some text =>
      by_cases empty : text = ""
      · simp [empty]
      · by_cases options : name = "addopts"
        · simp [empty, options]
        · simp [empty, options]

theorem lookup_merged (table : Toml.Entries) (env : EnvFile.Variables) (f : Field) :
    Value.lookup (.text f.name) (merged table env) = rawValue table env f.name := by
  have put := Value.lookup_update (fun n => (variableText? env n).map (variableValue n))
    names f.name table
  rw [if_pos (Field.mem_names_iff.mpr ⟨f, rfl⟩), ← rawValue_eq_or] at put
  rw [← put, merged, overrides]
  simp [Function.comp_def]

theorem isName_iff {k : Value} : isName k = true ↔ ∃ f : Field, k = .text f.name := by
  cases k with
  | text n => simp [isName, Field.mem_names_iff]
  | _ => simp [isName]

theorem unexpected_insert {k : Value} (known : isName k = true) (v : Value)
    (es : List (Value × Value)) : unexpected (Value.insert k v es) = unexpected es := by
  obtain ⟨f, rfl⟩ := isName_iff.mp known
  induction es with
  | nil => simp [Value.insert, unexpected, known]
  | cons e es ih =>
    obtain ⟨k, old⟩ := e
    by_cases here : k = .text f.name
    · simp [Value.insert, unexpected, Value.same_text_iff, here, known]
    · -- an entry of another key stays, whatever it is
      have split (rest : List (Value × Value)) :
          unexpected ((k, old) :: rest) = unexpected [(k, old)] ++ unexpected rest := by
        rw [← List.singleton_append, unexpected, List.filterMap_append]
        rfl
      rw [Value.insert, if_neg (by simpa [Value.same_text_iff] using here), split, ih, ← split]

theorem unexpected_update {others : List (Value × Value)}
    (known : ∀ e ∈ others, isName e.1 = true) (es : List (Value × Value)) :
    unexpected (Value.update es others) = unexpected es := by
  induction others generalizing es with
  | nil => rfl
  | cons e others ih =>
    obtain ⟨own, later⟩ := List.forall_mem_cons.mp known
    have step : Value.update es (e :: others) = Value.update (Value.insert e.1 e.2 es) others := rfl
    rw [step, ih later, unexpected_insert own]

theorem unexpected_merged (table : Toml.Entries) (env : EnvFile.Variables) :
    unexpected (merged table env) = unexpected table := by
  refine unexpected_update (fun e member => ?_) table
  obtain ⟨n, named, made⟩ := List.mem_filterMap.mp member
  obtain ⟨text, _, rfl⟩ := Option.map_eq_some_iff.mp made
  exact isName_iff.mpr ((Field.mem_names_iff.mp named).imp fun f same => by rw [same])

theorem unexpected_eq_nil_iff {es : List (Value × Value)} :
    unexpected es = [] ↔ ∀ e ∈ es, ∃ f : Field, e.1 = .text f.name := by
  simp only [unexpected, List.filterMap_eq_nil_iff, ← isName_iff]
  refine forall₂_congr fun e _ => ?_
  cases isName e.1 <;> simp

/-! ## Validation -/

theorem readField_eq_ok_iff (f : Field) (entry : Option Value) (x : f.type) :
    readField f.name (f.value {}) f.read entry = .ok x ↔ f.Reads x entry := by
  cases entry with
  | none => simp [readField, Field.Reads, eq_comm]
  | some v => cases read : f.read v <;> simp [readField, Field.Reads, read, Except.mapError]

/-- Validation as a whole is validation field by field, and of the keys. -/
theorem validate_eq_ok_iff (es : List (Value × Value)) (s : Settings) :
    validate es = .ok s ↔ (∀ e ∈ es, ∃ f : Field, e.1 = .text f.name)
      ∧ ∀ f : Field, f.Reads (f.value s) (Value.lookup (.text f.name) es) := by
  rw [← unexpected_eq_nil_iff]
  simp only [← readField_eq_ok_iff]
  constructor
  · intro valid
    unfold validate at valid
    dsimp only at valid
    split at valid
    next reporter summary verbosity addopts known =>
      cases valid
      refine ⟨known, fun f => ?_⟩
      cases f with
      | reporter => exact reporter
      | summary => exact summary
      | verbosity => exact verbosity
      | addopts => exact addopts
    next => cases valid
  · rintro ⟨known, reads⟩
    have reporter := reads .reporter
    have summary := reads .summary
    have verbosity := reads .verbosity
    have addopts := reads .addopts
    simp only [Field.name, Field.value, Field.read] at reporter summary verbosity addopts
    simp only [validate, reporter, summary, verbosity, addopts, known]

/-- The outcome, also a report of what is wrong, depends on the entries of the settings and on those
that are none, and on nothing else. -/
theorem validate_congr {es es' : List (Value × Value)} (known : unexpected es = unexpected es')
    (fields : ∀ f : Field, Value.lookup (.text f.name) es = Value.lookup (.text f.name) es') :
    validate es = validate es' := by
  have reporter := fields .reporter
  have summary := fields .summary
  have verbosity := fields .verbosity
  have addopts := fields .addopts
  simp only [Field.name] at reporter summary verbosity addopts
  simp only [validate, reporter, summary, verbosity, addopts, known]

/-! ## Loading -/

/-- What settings are loaded from: a project that is found and whose table and environment file can
be read, and the environment. -/
structure Sources where
  files : FileTree
  place : Place
  process : EnvFile.Variables
  environ : EnvFile.Variables
  root : Place
  table : Toml.Entries
  file : Logged EnvFile.Variables
  found : files.findRoot place = .ok root
  tabled : projectTable files root = .ok table
  read : environmentFile files root process = .ok file

namespace Sources

/-- The sources of a place, when its files can be read. -/
def at? (files : FileTree) (place : Place) (process environ : EnvFile.Variables) : Option Sources :=
  match found : files.findRoot place with
  | .error _ => none
  | .ok root =>
    match tabled : projectTable files root, read : environmentFile files root process with
    | .ok table, .ok file =>
      some { files, place, process, environ, root, table, file, found, tabled, read }
    | _, _ => none

/-- The variables of the environment file, overridden by those of the environment. -/
def overlay (p : Sources) : EnvFile.Variables :=
  p.file.value.update p.environ

/-- The value that counts for a field. -/
def raw (p : Sources) (f : Field) : Option Value :=
  rawValue p.table p.overlay f.name

def outcome (p : Sources) : Except Fault Settings :=
  (load p.files p.place p.process p.environ).value

theorem outcome_eq (p : Sources) :
    p.outcome = (validate (merged p.table p.overlay)).mapError (.settings ∘ .invalid) := by
  simp only [outcome, load, loadFrom, p.found, p.tabled, p.read, overlay]
  cases validate (merged p.table (p.file.value.update p.environ)) <;> rfl

theorem outcome_eq_ok_iff (p : Sources) (s : Settings) :
    p.outcome = .ok s ↔ (∀ e ∈ p.table, ∃ f : Field, e.1 = .text f.name)
      ∧ ∀ f : Field, f.Reads (f.value s) (p.raw f) := by
  have passed : p.outcome = .ok s ↔ validate (merged p.table p.overlay) = .ok s := by
    rw [outcome_eq]
    cases validate (merged p.table p.overlay) <;> simp [Except.mapError]
  rw [passed, validate_eq_ok_iff, ← unexpected_eq_nil_iff, unexpected_merged, unexpected_eq_nil_iff]
  simp only [lookup_merged, raw]

/-- Settings are loaded when every key is known and every raw value can be read. -/
theorem loads_iff (p : Sources) :
    (∃ s, p.outcome = .ok s) ↔ (∀ e ∈ p.table, ∃ f : Field, e.1 = .text f.name)
      ∧ ∀ f : Field, ∀ v, p.raw f = some v → ∃ x, f.read v = .ok x := by
  simp only [outcome_eq_ok_iff]
  constructor
  · rintro ⟨s, known, reads⟩
    refine ⟨known, fun f v counts => ⟨f.value s, ?_⟩⟩
    have own := reads f
    rw [counts] at own
    exact own
  · rintro ⟨known, valid⟩
    -- each field takes what its own value is read as, or its default
    have chosen (f : Field) : ∃ x, f.Reads x (p.raw f) := by
      cases counts : p.raw f with
      | none => exact ⟨f.value {}, rfl⟩
      | some v => exact valid f v counts
    refine ⟨Field.record fun f => (chosen f).choose, known, fun f => ?_⟩
    rw [Field.value_record]
    exact (chosen f).choose_spec

theorem outcome_congr {p q : Sources} (known : unexpected q.table = unexpected p.table)
    (same : ∀ f : Field, q.raw f = p.raw f) : q.outcome = p.outcome := by
  have valid : validate (merged q.table q.overlay) = validate (merged p.table p.overlay) := by
    refine validate_congr ?_ fun f => ?_
    · rw [unexpected_merged, unexpected_merged, known]
    · rw [lookup_merged, lookup_merged]
      exact same f
  rw [outcome_eq, outcome_eq, valid]

/-- A variable decides about a field. -/
def Overridden (p : Sources) (f : Field) : Prop :=
  ∃ text, p.overlay.find? (variableName f.name) = some (some text) ∧ text ≠ ""

theorem raw_congr {p q : Sources} {f : Field}
    (overlaid : q.overlay.find? (variableName f.name) = p.overlay.find? (variableName f.name))
    (entry : p.Overridden f
      ∨ Value.lookup (.text f.name) q.table = Value.lookup (.text f.name) p.table) :
    q.raw f = p.raw f := by
  unfold raw rawValue
  rw [overlaid]
  obtain ⟨text, set, some⟩ | same := entry
  · simp [set, some]
  · rw [same]

end Sources

end Settings

/-- The settings that a project and an environment make. They are loaded exactly when every key of
the project table is that of a field and the raw value of every field can be read, and each field is
then what its own raw value is read as; all other projects are refused as invalid. Neither variables
that are none of the fields' nor entries that a variable overrides make a difference. -/
theorem load_is_effective (p : Settings.Sources) :
    (∀ s, p.outcome = .ok s ↔ (∀ e ∈ p.table, ∃ f : Settings.Field, e.1 = .text f.name)
      ∧ ∀ f : Settings.Field, f.Reads (f.value s) (p.raw f))
    ∧ ((∃ s, p.outcome = .ok s) ↔ (∀ e ∈ p.table, ∃ f : Settings.Field, e.1 = .text f.name)
      ∧ ∀ f : Settings.Field, ∀ v, p.raw f = some v → ∃ x, f.read v = .ok x)
    ∧ (∀ fault, p.outcome = .error fault → ∃ report, fault = .settings (.invalid report))
    ∧ ((p.environ.map Prod.fst).Nodup → ∀ name,
      p.overlay.find? name = (p.environ.find? name).or (p.file.value.find? name))
    ∧ ∀ q : Settings.Sources, Settings.unexpected q.table = Settings.unexpected p.table →
      (∀ f : Settings.Field, q.overlay.find? (Settings.variableName f.name)
        = p.overlay.find? (Settings.variableName f.name)) →
      (∀ f : Settings.Field, p.Overridden f
        ∨ Value.lookup (.text f.name) q.table = Value.lookup (.text f.name) p.table) →
      q.outcome = p.outcome := by
  refine ⟨p.outcome_eq_ok_iff, p.loads_iff, fun fault refused => ?_, fun distinct name => ?_,
    fun q known overlaid entries => ?_⟩
  · rw [p.outcome_eq] at refused
    cases valid : Settings.validate (Settings.merged p.table p.overlay) with
    | ok s => simp [valid, Except.mapError] at refused
    | error report =>
      simp only [valid, Except.mapError, Except.error.injEq] at refused
      exact ⟨report, refused.symm⟩
  · exact EnvFile.Variables.find?_update distinct p.file.value name
  · exact Settings.Sources.outcome_congr known fun f =>
      Settings.Sources.raw_congr (overlaid f) (entries f)

/-- A project whose table and environment file have a verbosity that is no number. -/
def misnumbered : FileTree where
  files := [
    (["pyproject.toml"], .text "[tool.tally]\nverbosity = \"many\"\nsummary = false\n"),
    ([".env"], .text "TALLY_VERBOSITY=often\nTALLY_COLOR=red\n")]

/-- The environment overrides the verbosity, and nothing else of the project. -/
theorem misnumbered_loads :
    ∃ p, Settings.Sources.at? misnumbered [] []
        [("TALLY_VERBOSITY", some " 2 "), ("TALLY_SUMMARY", some ""), ("TALLY_REPORTER", none),
          ("TALLY_ADDOPTS", some "-v  --no-summary")] = some p
      ∧ p.outcome
        = .ok { summary := false, verbosity := 2, addopts := ["-v", "--no-summary"] } := by
  have checked : (Settings.Sources.at? misnumbered [] []
      [("TALLY_VERBOSITY", some " 2 "), ("TALLY_SUMMARY", some ""), ("TALLY_REPORTER", none),
        ("TALLY_ADDOPTS", some "-v  --no-summary")]).any (fun p =>
      (Settings.unexpected p.table).isEmpty && decide (∀ f : Settings.Field,
        f.Reads (f.value { summary := false, verbosity := 2, addopts := ["-v", "--no-summary"] })
          (p.raw f))) = true := by decide +kernel
  obtain ⟨p, found, sound⟩ := (Option.any_eq_true ..).mp checked
  obtain ⟨known, reads⟩ := Bool.and_eq_true_iff.mp sound
  refine ⟨p, found, ((load_is_effective p).1 _).mpr ⟨?_, of_decide_eq_true reads⟩⟩
  exact Settings.unexpected_eq_nil_iff.mp (List.isEmpty_iff.mp known)

end InlineCheck
