import InlineCheck.Project.EnvFile
import InlineCheck.Validation.Field

/-! # Settings

The four settings of the program and where each comes from.

* `Settings` — reporter, summary, verbosity and added options.
* `overrides` — the entries that variables make; a variable that is null or empty makes none.
* `merged` — the entries of the project table with those of the variables put over them.
* `validate` — the settings that entries make, or everything that is wrong with them.
-/

namespace InlineCheck

open Validation

/-- The settings of the program. -/
structure Settings where
  reporter : String := "TraceReporter"
  summary : Bool := true
  verbosity : Int := 0
  addopts : List String := []
  deriving DecidableEq, Repr

namespace Settings

def names : List String := ["reporter", "summary", "verbosity", "addopts"]

def variableName (name : String) : String :=
  "TALLY_" ++ String.ofList (name.toList.map Char.toUpper)

def text (s : Settings) : String :=
  "reporter=" ++ Text.quoted s.reporter ++ " summary=" ++ (Value.bool s.summary).shown
    ++ s!" verbosity={s.verbosity} addopts=" ++ (Value.list (s.addopts.map .text)).shown

/-! ## Sources -/

/-- The value of a variable, unless it is missing, null or empty. -/
def variableText? (env : EnvFile.Variables) (name : String) : Option String :=
  match env.find? (variableName name) with
  | some (some s) => if s = "" then none else some s
  | _ => none

/-- A variable's text as a value of a setting: added options are its words. -/
def variableValue (name text : String) : Value :=
  if name = "addopts" then .list ((Text.words text).map .text) else .text text

def overrides (env : EnvFile.Variables) : List (Value × Value) :=
  names.filterMap fun name =>
    (variableText? env name).map fun text => (.text name, variableValue name text)

/-- The entries of the project table, with those of the variables put over them. -/
def merged (table : List (Value × Value)) (env : EnvFile.Variables) : List (Value × Value) :=
  Value.update table (overrides env)

/-! ## Validation -/

def readField {α : Type} (name : String) (default : α) (read : Value → Except (List Finding) α) :
    Option Value → Except (List Finding) α
  | none => .ok default
  | some v => (read v).mapError fun fs => fs.map fun f => { f with place := name ++ f.place }

def single {α : Type} (read : Value → Except Problem α) (v : Value) : Except (List Finding) α :=
  (read v).mapError fun p => [⟨"", p, v⟩]

/-- The texts of a list from an index on, with everything that is wrong with them. -/
def readItems (i : Nat) : List Value → List String × List Finding
  | [] => ([], [])
  | v :: vs =>
    let (ss, fs) := readItems (i + 1) vs
    match readText v with
    | .ok s => (s :: ss, fs)
    | .error p => (ss, ⟨s!".{i}", p, v⟩ :: fs)

def readTexts : Value → Except (List Finding) (List String)
  | .list vs | .tuple vs | .set vs =>
    match readItems 0 vs with
    | (ss, []) => .ok ss
    | (_, fs) => .error fs
  | v => .error [⟨"", .notList, v⟩]

def isName : Value → Bool
  | .text s => names.contains s
  | _ => false

def unexpected (entries : List (Value × Value)) : List Finding :=
  entries.filterMap fun (k, v) =>
    if isName k then none else some ⟨k.display?.getD "", .unexpected, v⟩

def findings {α : Type} : Except (List Finding) α → List Finding
  | .ok _ => []
  | .error fs => fs

/-- The settings that entries make. -/
def validate (entries : List (Value × Value)) : Except Report Settings :=
  let value (name : String) := Value.lookup (.text name) entries
  let defaults : Settings := {}
  let reporter := readField "reporter" defaults.reporter (single readText) (value "reporter")
  let summary := readField "summary" defaults.summary (single readBool) (value "summary")
  let verbosity := readField "verbosity" defaults.verbosity (single readInt) (value "verbosity")
  let addopts := readField "addopts" defaults.addopts readTexts (value "addopts")
  match reporter, summary, verbosity, addopts, unexpected entries with
  | .ok reporter, .ok summary, .ok verbosity, .ok addopts, [] =>
    .ok { reporter, summary, verbosity, addopts }
  -- everything wrong is told, in the order of the fields
  | _, _, _, _, extra =>
    .error ⟨"TallyConfig",
      findings reporter ++ findings summary ++ findings verbosity ++ findings addopts ++ extra⟩

end Settings

end InlineCheck
