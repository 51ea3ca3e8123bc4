import InlineCheck.Source.Pattern

/-! # Programs

The tree of a whole program.

* `read` — reads a goal, with a bound on the depth.
* `parse` — the tree of a text, unless it is no program.
-/

namespace InlineCheck.Source

def lineStatement (again : Goal → Reader) : Reader := fun i => do
  let (ns, j) ← simpleLine again i
  return (i.upTo j .line ns, j)

def statement (again : Goal → Reader) : Reader := fun i =>
  if i.sees "if" then branching again i
  else if i.sees "while" then conditionLoop again i
  else if i.sees "for" then elementLoop again i
  else if i.sees "with" then holding again i
  else if i.sees "try" then guarding again i
  else if i.sees "def" then functionDefinition again i
  else if i.sees "class" then classDefinition again i
  else if i.sees "async" then asynchronous again i
  else if i.sees "@" then decorated again i
  else
    match matching again i with
    | some r => some r
    | none => lineStatement again i

/-- Reads a goal whose parts are read by `again`. -/
def readGoal (again : Goal → Reader) : Goal → Reader
  | .atom => atom again
  | .primary => primary again
  | .factor => factor again
  | .bitwiseOr => bitwiseOr again
  | .inversion => inversion again
  | .disjunction => disjunction again
  | .expression => expression again
  | .named => named again
  | .starNamed => starNamed again
  | .starExpressions => starExpressions again
  | .yielded => yielded again
  | .pattern => pattern again
  | .statement => statement again

def read : Nat → Goal → Reader
  | 0, _, _ => none
  | depth + 1, goal, i => readGoal (read depth) goal i

/-- The tree of a program. No part lies deeper than there are characters. -/
def parse (text : String) : Option Node := do
  let ts ← scan text
  let i : Input := { rest := ts }
  let (ns, j) := i.many (read (text.length + 1) .statement)
  if j.seesKind .finish then return i.upTo j .part ns else none

end InlineCheck.Source
