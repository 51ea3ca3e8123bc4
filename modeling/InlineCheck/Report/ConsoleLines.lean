import InlineCheck.Console.Screen
import InlineCheck.Report.Event

/-! # Console lines

The marked-up lines by which a console tells what happened. Descriptions and labels are escaped,
so only the line's own tag is styled.
-/

namespace InlineCheck.ConsoleLines

/-- A text with no tag of its own. -/
def literal (s : String) : String :=
  String.ofList (Console.escape s.toList)

/-- A description with no tag of its own; only a text can be one. -/
def literalValue : Value → Except Fault String
  | .text s => .ok (literal s)
  | .bytes _ => .error .bytesForText
  | v => .error (.textExpected v.typeName)

def statusColor : Status → String
  | .passed => "green"
  | .failed => "red"
  | .error => "yellow"

def start (description : Value) : Except Fault String := do
  return "[bold]Running test:[/bold] " ++ (← literalValue description)

def held (label : String) : String :=
  "  [green]Assertion passed:[/green] " ++ literal label

def broken (label : String) : String :=
  "  [red]Assertion failed:[/red] " ++ literal label

def complete (b : Block) : Except Fault String := do
  let color := statusColor b.status
  let name := String.ofList (b.status.name.toList.map Char.toUpper)
  return s!"  [{color}]{name}[/{color}] " ++ (← literalValue b.description)
    ++ s!" ({b.milliseconds.fixed 1} ms)"

def summary (t : Tally) : String :=
  let color := if t.ok then "green" else "red"
  s!"[{color}]{t.passed} passed, {t.failed} failed, {t.errors} errors[/{color}] in "
    ++ s!"{t.blocks.length} test blocks"

end InlineCheck.ConsoleLines
