import InlineCheck.Log
import InlineCheck.Source.Program
import InlineCheck.Text.Blank

/-! # Labels of checks

A check is labelled by the text of the expression it checks.

* `conditionOf` — the argument of a call that a check takes as its condition.
* `labelAt` — the text of that argument for the call with a given span.
* `checkLabel` — the label of a check: the given one, that text, or the value as it is shown.
-/

namespace InlineCheck.Source

def namedCondition : List Node → Option Node
  | [] => none
  | a :: as =>
    match a.kind, a.parts with
    | .keyword (some "condition"), [n] => some n
    | _, _ => namedCondition as

def placedArguments (args : List Node) : List Node :=
  args.filter fun a =>
    match a.kind with
    | .keyword _ => false
    | _ => true

/-- The argument that a check takes as its condition: the first one without a name unless it is
starred, and else the one named so. -/
def conditionOf (args : List Node) : Option Node :=
  match placedArguments args with
  | first :: _ => if first.kind = .starred then namedCondition args else some first
  | [] => namedCondition args

def callAt (tree : Node) (s : Span) : Option Node :=
  tree.all.find? fun n => n.kind = .call && n.span = s

def labelAt (text : String) (s : Span) : Option String := do
  let tree ← parse text
  let call ← callAt tree s
  let condition ← conditionOf (call.parts.drop 1)
  return Text.strip (segment text condition.span)

def fallbackRecord : LogRecord :=
  ⟨"tally.assertions.base", .warning, "Source for check() call unavailable, labelling by value"⟩

/-- The label of a check. `text` is the text of the program and `site` where the call stands in it,
as far as they are known; `given` is the label that the call gives, and `shown` the value of the
condition as it is shown. -/
def checkLabel (text : Option String) (site : Option Span) (given : Option String)
    (shown : String) : Logged String :=
  match given with
  | some label => { value := label }
  | none =>
    match text.bind fun t => site.bind (labelAt t) with
    | some label => { value := label }
    | none => { value := shown, log := [fallbackRecord] }

end InlineCheck.Source
