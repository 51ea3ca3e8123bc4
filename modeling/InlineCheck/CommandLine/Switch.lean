import InlineCheck.Text.Quoted
import InlineCheck.Value.Show

/-! # Switches

The words that a command line may hold, and what can be wrong with it.

* `Switch` — the switches, with their spellings and what they are for.
* `Form` — the program and its two commands, each with its switches and its operand.
* `UsageFault` — why a command line is refused.
-/

namespace InlineCheck.CommandLine

inductive Switch where
  | help
  | reporter
  | noSummary
  | quiet
  | verbose
  deriving DecidableEq, Repr

namespace Switch

def names : Switch → List String
  | .help => ["-h", "--help"]
  | .reporter => ["--reporter"]
  | .noSummary => ["--no-summary"]
  | .quiet => ["-q", "--quiet"]
  | .verbose => ["-v", "--verbose"]

/-- What stands for the value of a switch that has one. No switch with a short spelling has. -/
def placeholder : Switch → Option String
  | .reporter => some "REPORTER"
  | _ => none

def about : Switch → String
  | .help => "show this help message and exit"
  | .reporter => "Reporter name or import string (module:Class)"
  | .noSummary => "Do not print the closing summary line"
  | .quiet => "Reduce output"
  | .verbose => "Increase output"

def title (s : Switch) : String :=
  joinWith "/" s.names

end Switch

/-! ## Forms -/

/-- What a command line is read as: the program as a whole, or one of its commands. -/
inductive Form where
  | program
  | demo
  | run
  deriving DecidableEq, Repr

def demoChoices : List String := ["inline-testing", "slices-ranges", "all"]

def commandChoices : List String := ["demo", "run"]

namespace Form

def title : Form → String
  | .program => "tally"
  | .demo => "tally demo"
  | .run => "tally run"

def switches : Form → List Switch
  | .program => [.help]
  | .demo | .run => [.help, .reporter, .noSummary, .quiet, .verbose]

def spellings (f : Form) : List (String × Switch) :=
  f.switches.flatMap fun s => s.names.map (·, s)

def find? (f : Form) (spelling : String) : Option Switch :=
  (f.spellings.find? (·.1 == spelling)).map (·.2)

def operandName : Form → String
  | .program => "command"
  | .demo => "name"
  | .run => "script"

/-- The words that a form's operand is one of, unless any will do. -/
def choices : Form → Option (List String)
  | .program => some commandChoices
  | .demo => some demoChoices
  | .run => none

end Form

/-! ## Faults -/

inductive UsageFault where
  /-- A long switch is cut so short that several fit. -/
  | ambiguous (word : String) (candidates : List String)
  /-- A switch without a value was given one. -/
  | unwantedValue (s : Switch) (value : String)
  /-- A switch with a value was given none. -/
  | missingValue (s : Switch)
  /-- An operand is none of the words it must be one of. -/
  | notChoice (operand value : String) (choices : List String)
  | missingOperand (operand : String)
  | unrecognized (words : List String)
  deriving DecidableEq, Repr

def UsageFault.message : UsageFault → String
  | .ambiguous word candidates =>
    s!"ambiguous option: {word} could match " ++ joinWith ", " candidates
  | .unwantedValue s value =>
    s!"argument {s.title}: ignored explicit argument " ++ Text.quoted value
  | .missingValue s => s!"argument {s.title}: expected one argument"
  | .notChoice operand value choices =>
    s!"argument {operand}: invalid choice: " ++ Text.quoted value ++ " (choose from "
      ++ joinWith ", " (choices.map Text.quoted) ++ ")"
  | .missingOperand operand => s!"the following arguments are required: {operand}"
  | .unrecognized words => "unrecognized arguments: " ++ joinWith " " words

end InlineCheck.CommandLine
