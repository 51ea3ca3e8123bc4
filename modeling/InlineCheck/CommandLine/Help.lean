import InlineCheck.CommandLine.Request
import InlineCheck.Text.Blank

/-! # Help

The texts that explain a command line, laid out for a width.

* `usage` — how a form is called; long lines are broken between its parts.
* `help` — usage, description, operands and switches, in columns.
* `refusal` — what is shown when a command line is not carried out.

Widths are integers: the room for text may be less than nothing.
-/

namespace InlineCheck.CommandLine

def blanks (n : Nat) : String :=
  String.ofList (List.replicate n ' ')

def helpWidth (columns : Nat) : Int :=
  (columns : Int) - 2

/-! ## Words in lines -/

/-- Lines being filled: those that are full and the one at work. -/
structure Filling where
  done : List (List Char) := []
  line : List Char := []

namespace Filling

def finish (f : Filling) : Filling :=
  let line := if f.line.getLast? = some ' ' then f.line.dropLast else f.line
  { done := f.done ++ [line], line := [] }

def addChar (width : Nat) (f : Filling) (c : Char) : Filling :=
  if width ≤ f.line.length then { done := f.done ++ [f.line], line := [c] }
  else { f with line := f.line ++ [c] }

/-- Adds a word, with a blank before it unless it begins a line. A word wider than a line goes on
in the next one. -/
def addWord (width : Nat) (f : Filling) (word : List Char) : Filling :=
  let f :=
    if f.line.isEmpty then f
    else if f.line.length + 1 ≤ width then { f with line := f.line ++ [' '] }
    else f.finish
  if f.line.length + word.length ≤ width then { f with line := f.line ++ word }
  else if width < word.length then word.foldl (addChar width) f
  else { f.finish with line := word }

end Filling

def fill (width : Nat) (text : String) : List String :=
  let f := (Text.words text).foldl (fun f w => f.addWord width w.toList) ({} : Filling)
  ((if f.line.isEmpty then f else f.finish).done).map String.ofList

/-! ## Usage -/

def switchPart (s : Switch) : String :=
  let name := s.names.headD ""
  match s.placeholder with
  | none => s!"[{name}]"
  | some value => s!"[{name} {value}]"

def choiceText (choices : List String) : String :=
  "\x7b" ++ joinWith "," choices ++ "\x7d"

def operandParts : Form → List String
  | .program => [choiceText commandChoices, "..."]
  | .demo => ["[" ++ choiceText demoChoices ++ "]"]
  | .run => [Form.run.operandName]

/-- Breaks parts into lines. `used` is what is taken of the line so far, and `indent` what every
later line begins with. -/
def breakParts (room : Int) (indent : Nat) (used : Int) (line : List String) :
    List String → List (List String)
  | [] => if line.isEmpty then [] else [line]
  | part :: parts =>
    let size : Int := part.length
    if room < used + 1 + size && !line.isEmpty then
      line :: breakParts room indent ((indent : Int) + size) [part] parts
    else breakParts room indent (used + size + 1) (line ++ [part]) parts

def usageHead : String := "usage: "

/-- The usage of a form, broken where it is too long: behind the name of the program if that is
short, and below it otherwise. -/
def usageText (room : Int) (f : Form) : String :=
  let switches := f.switches.map switchPart
  let operands := operandParts f
  let whole := joinWith " " (f.title :: (switches ++ operands))
  let taken := usageHead.length + f.title.length
  let lines (indent : Nat) (parts : List String) : List String :=
    (breakParts room indent ((indent : Int) - 1) [] parts).map (blanks indent ++ joinWith " " ·)
  if (usageHead.length + whole.length : Int) ≤ room then whole
  -- the name leaves a quarter of the room at least
  else if 4 * (taken : Int) ≤ 3 * room then
    let indent := taken + 1
    let first := breakParts room indent ((usageHead.length : Int) - 1) [] (f.title :: switches)
    let first := match first with
      | [] => []
      | l :: ls => joinWith " " l :: ls.map (blanks indent ++ joinWith " " ·)
    joinWith "\n" (first ++ lines indent operands)
  else
    let indent := usageHead.length
    let together := lines indent (switches ++ operands)
    let body := if together.length ≤ 1 then together
      else lines indent switches ++ lines indent operands
    joinWith "\n" (f.title :: body)

def usage (columns : Nat) (f : Form) : String :=
  usageHead ++ usageText (helpWidth columns) f ++ "\n"

/-! ## Entries -/

structure Entry where
  indent : Nat := 2
  title : String
  about : Option String := none

def Form.description : Form → Option String
  | .program => some "Inline checks with a pass/fail trace"
  | .demo => none
  | .run => some "Unrecognized options and anything after '--' are passed to the script."

def operandEntries : Form → List Entry
  | .program =>
    [{ title := choiceText commandChoices },
      { indent := 4, title := "demo", about := some "Run the bundled demonstration programs" },
      { indent := 4, title := "run",
        about := some "Run a Python script and fail on failed checks" }]
  | .demo => [{ title := choiceText demoChoices, about := some "Demo to run" }]
  | .run => [{ title := Form.run.operandName, about := some "Path to the script" }]

def switchEntry (s : Switch) : Entry :=
  let names := match s.placeholder with
    | none => s.names
    | some value => s.names.map (· ++ " " ++ value)
  { title := joinWith ", " names, about := some s.about }

/-- The column that explanations begin in. Entries of the same list count with the indent of the
list, also those that stand further in. -/
def aboutColumn (width : Int) (entries : List Entry) : Nat :=
  let longest := (entries.map (·.title.length + 2)).foldl max 0
  -- explanations keep twenty columns as long as four are left for the titles
  min (longest + 2) (min 24 (max (width - 20) 4).toNat)

/-- An entry in lines; a long title has a line of its own. -/
def entryLines (width : Int) (column : Nat) (e : Entry) : List String :=
  match e.about with
  | none => [blanks e.indent ++ e.title]
  | some about =>
    let texts := fill (max (width - column) 11).toNat about
    let titleRoom : Int := (column : Int) - e.indent - 2
    if (e.title.length : Int) ≤ titleRoom then
      match texts with
      | [] => []
      | t :: ts =>
        (blanks e.indent ++ e.title ++ blanks (column - e.indent - e.title.length) ++ t)
          :: ts.map (blanks column ++ ·)
    else (blanks e.indent ++ e.title) :: texts.map (blanks column ++ ·)

def help (columns : Nat) (f : Form) : String :=
  let width := helpWidth columns
  let operands := operandEntries f
  let switches := f.switches.map switchEntry
  let column := aboutColumn width (operands ++ switches)
  let lines (es : List Entry) := es.flatMap (entryLines width column)
  let description := match f.description with
    | none => []
    | some text => "" :: fill (max width 11).toNat text
  joinWith "\n" (
    [usageHead ++ usageText width f] ++ description
      ++ ["", "positional arguments:"] ++ lines operands
      ++ ["", "options:"] ++ lines switches) ++ "\n"

/-! ## Command lines that are not carried out -/

def refusal (columns : Nat) (f : Form) (fault : UsageFault) : String :=
  usage columns f ++ s!"{f.title}: error: {fault.message}\n"

end InlineCheck.CommandLine
