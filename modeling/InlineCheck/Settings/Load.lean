import InlineCheck.Project.FileTree
import InlineCheck.Settings.Basic
import InlineCheck.Toml.Document

/-! # Loading settings

The settings of the project that a place belongs to: the table of its project file, overridden by
its environment file, overridden by the environment.
-/

namespace InlineCheck.Settings

/-- A table inside a table; it may be missing, and must be a table otherwise. -/
def subtable (part path key : String) (es : Toml.Entries) : Except Fault Toml.Entries :=
  match Value.lookup (.text key) es with
  | none => .ok []
  | some (.dict inner) => .ok inner
  | some _ => .error (.settings (.notTable part path))

def tableOf (path text : String) : Except Fault Toml.Entries :=
  match Toml.parse text with
  | .error (.bad message) => .error (.settings (.badToml path message))
  | .error (.integerTooLong digits) => .error (.number (.tooLong digits))
  | .ok document => do
    let tool ← subtable "tool" path "tool" document
    subtable "tool.tally" path "tally" tool

def projectTable (t : FileTree) (root : Place) : Except Fault Toml.Entries :=
  let place := root ++ [FileTree.projectFile]
  match t.openAt? place with
  | .error cause => .error (.system cause)
  | .ok none => .ok []
  | .ok (some file) =>
    match file.read with
    | .error f => .error (.undecodable f)
    | .ok text =>
      if t.tooDeep text then .error (.system .tooDeep) else tableOf (t.text place) text

/-- The variables of the environment file of a directory; one that is refused counts as missing. -/
def environmentFile (t : FileTree) (root : Place) (process : EnvFile.Variables) :
    Except Fault (Logged EnvFile.Variables) :=
  -- looking for the file asks whether it is there, and a refusal counts as no
  match (t.openAt? (root ++ [".env"])).toOption.join with
  | none => .ok { value := [] }
  | some file =>
    match file.read with
    | .error f => .error (.undecodable f)
    | .ok text => .ok (EnvFile.read process (Text.unifyNewlines text.toList))

/-- What is logged when settings were loaded; a number that cannot be written out leaves no
record. -/
def loadedRecords (t : FileTree) (root : Place) (s : Settings) : List LogRecord :=
  if Number.isWritable s.verbosity then
    [⟨"tally.config", .debug, s!"Loaded config from {t.text root}: " ++ s.text⟩]
  else []

def loadFrom (t : FileTree) (root : Place) (process environ : EnvFile.Variables) :
    Logged (Except Fault Settings) :=
  match projectTable t root with
  | .error f => { value := .error f }
  | .ok table =>
    match environmentFile t root process with
    | .error f => { value := .error f }
    | .ok file =>
      match validate (merged table (file.value.update environ)) with
      | .error report => { value := .error (.settings (.invalid report)), log := file.log }
      | .ok s => { value := .ok s, log := file.log ++ loadedRecords t root s }

/-- The settings for a place. `process` is the environment of the program, to which references in
the environment file turn; `environ` is the one that overrides settings. -/
def load (t : FileTree) (place : Place) (process environ : EnvFile.Variables) :
    Logged (Except Fault Settings) :=
  match t.findRoot place with
  | .error cause => { value := .error (.system cause) }
  | .ok root => loadFrom t root process environ

end InlineCheck.Settings
