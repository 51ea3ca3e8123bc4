import InlineCheck.Text.Bytes

/-! # Positions in program text

Where the characters of a text stand.

* `Position` — a line, from one, and a column in bytes, from zero.
* `Span` — the positions that something begins at and ends before.
* `place` — the characters of a text with their positions. A line ends with a line feed, a carriage
  return, or both in this order.
* `segment` — the part of a text that a span covers.
-/

namespace InlineCheck.Source

structure Position where
  line : Nat
  column : Nat
  deriving DecidableEq, Repr, Inhabited

namespace Position

def first : Position := ⟨1, 0⟩

def before (p q : Position) : Bool :=
  p.line < q.line || (p.line == q.line && p.column < q.column)

/-- The place behind a character that ends no line. -/
def behind (p : Position) (c : Char) : Position :=
  ⟨p.line, p.column + c.utf8Size⟩

def nextLine (p : Position) : Position :=
  ⟨p.line + 1, 0⟩

end Position

structure Span where
  start : Position
  stop : Position
  deriving DecidableEq, Repr, Inhabited

structure Placed where
  char : Char
  position : Position
  deriving DecidableEq, Repr, Inhabited

def place (p : Position) : List Char → List Placed
  | [] => []
  | ['\r'] => [⟨'\r', p⟩]
  | '\r' :: c :: cs => ⟨'\r', p⟩ :: place (if c = '\n' then p.behind '\r' else p.nextLine) (c :: cs)
  | '\n' :: cs => ⟨'\n', p⟩ :: place p.nextLine cs
  | c :: cs => ⟨c, p⟩ :: place (p.behind c) cs

/-- Every end of a line as one line feed. -/
def plainLines : List Placed → List Placed
  | [] => []
  | ⟨'\r', p⟩ :: ⟨'\n', _⟩ :: cs => ⟨'\n', p⟩ :: plainLines cs
  | ⟨'\r', p⟩ :: cs => ⟨'\n', p⟩ :: plainLines cs
  | c :: cs => c :: plainLines cs

def segment (text : String) (s : Span) : String :=
  let inside (c : Placed) := !c.position.before s.start && c.position.before s.stop
  String.ofList (((place .first text.toList).filter inside).map (·.char))

end InlineCheck.Source
