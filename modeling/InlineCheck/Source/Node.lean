import InlineCheck.Source.Token

/-! # Nodes

Program text as a tree.

* `Node` — an expression, a statement or a part of one, with its span and its parts.
* `Node.all` — a node and all nodes below it.
* `Input` — tokens not yet read, and a reader's tools.
-/

namespace InlineCheck.Source

/-- What a node is. Kinds that nothing depends on are told as `other` and `part`. -/
inductive Kind where
  | name (text : String)
  | number (text : String)
  | text
  | member
  | subscript
  /-- A call: what is called, and then the arguments. -/
  | call
  | starred
  /-- An argument given by name, or by a mapping when there is no name. -/
  | keyword (name : Option String)
  | tuple
  | list
  | comparison (signs : List String)
  /-- Any other expression. -/
  | other
  /-- A statement that assigns the value of its last part to the others. -/
  | assignment
  /-- A statement that is an expression. -/
  | evaluation
  /-- The statements of one line. -/
  | line
  /-- Any other statement, or a part of one. -/
  | part
  deriving DecidableEq, Repr, Inhabited

/-- A node of program text. Redundant parentheses around an expression belong to no node. -/
inductive Node where
  | node (kind : Kind) (span : Span) (parts : List Node)
  deriving Repr, Inhabited

namespace Node

def kind : Node → Kind
  | .node k _ _ => k

def span : Node → Span
  | .node _ s _ => s

def parts : Node → List Node
  | .node _ _ ps => ps

mutual
def all : Node → List Node
  | .node k s ps => .node k s ps :: allOf ps

def allOf : List Node → List Node
  | [] => []
  | n :: ns => n.all ++ allOf ns
end

def isSingleTarget (n : Node) : Bool :=
  match n.kind with
  | .name _ | .member | .subscript => true
  | _ => false

mutual
def isTarget : Node → Bool
  | .node k _ ps =>
    match k with
    | .name _ | .member | .subscript => true
    | .tuple | .list | .starred => areTargets ps
    | _ => false

def areTargets : List Node → Bool
  | [] => true
  | n :: ns => n.isTarget && areTargets ns
end

mutual
def isDeletable : Node → Bool
  | .node k _ ps =>
    match k with
    | .name _ | .member | .subscript => true
    | .tuple | .list => areDeletable ps
    | _ => false

def areDeletable : List Node → Bool
  | [] => true
  | n :: ns => n.isDeletable && areDeletable ns
end

end Node

/-! ## Input -/

/-- Tokens not yet read, and where the last one that was read ended. -/
structure Input where
  rest : List Token
  last : Position := .first
  deriving Repr

namespace Input

def start (i : Input) : Position :=
  match i.rest with
  | t :: _ => t.span.start
  | [] => i.last

def next? (i : Input) : Option (Token × Input) :=
  match i.rest with
  | t :: ts => some (t, { rest := ts, last := t.span.stop })
  | [] => none

def sees (i : Input) (word : String) : Bool :=
  match i.rest with
  | t :: _ => (t.kind == .keyword || t.kind == .sign) && t.text == word
  | [] => false

def seesThen (i : Input) (word : String) : Bool :=
  match i.rest with
  | _ :: t :: _ => (t.kind == .keyword || t.kind == .sign) && t.text == word
  | _ => false

def seesKind (i : Input) (kind : TokenKind) : Bool :=
  match i.rest with
  | t :: _ => t.kind == kind
  | [] => false

def take? (i : Input) (word : String) : Option Input :=
  if i.sees word then i.next?.map (·.2) else none

def takeKind? (i : Input) (kind : TokenKind) : Option (Token × Input) :=
  if i.seesKind kind then i.next? else none

def takeAny? (i : Input) (words : List String) : Option (String × Input) :=
  match words.find? i.sees with
  | some w => i.next?.map fun (_, i) => (w, i)
  | none => none

def upTo (i stop : Input) (kind : Kind) (parts : List Node) : Node :=
  .node kind ⟨i.start, stop.last⟩ parts

end Input

abbrev Reader := Input → Option (Node × Input)

/-- Reads items with commas between them, at least one. The flag tells whether there was a comma
behind the last. -/
def readItems (item : Reader) : Nat → Input → Option (List Node × Bool × Input)
  | 0, _ => none
  | fuel + 1, i => do
    let (n, i) ← item i
    match i.take? "," with
    | none => return ([n], false, i)
    | some behind =>
      -- a comma with no item behind it ends the list
      match readItems item fuel behind with
      | none => return ([n], true, behind)
      | some (ns, comma, i) => return (n :: ns, comma, i)

def readMany (item : Reader) : Nat → Input → List Node × Input
  | 0, i => ([], i)
  | fuel + 1, i =>
    match item i with
    | none => ([], i)
    | some (n, i) =>
      let (ns, i) := readMany item fuel i
      (n :: ns, i)

def Input.items (i : Input) (item : Reader) : Option (List Node × Bool × Input) := do
  let (n, j) ← item i
  match j.take? "," with
  | none => return ([n], false, j)
  | some behind =>
    match readItems item behind.rest.length behind with
    | none => return ([n], true, behind)
    | some (ns, comma, j) => return (n :: ns, comma, j)

def Input.many (i : Input) (item : Reader) : List Node × Input :=
  match item i with
  | none => ([], i)
  | some (n, j) =>
    let (ns, k) := readMany item j.rest.length j
    (n :: ns, k)

def Input.some? (i : Input) (item : Reader) : Option (List Node × Input) :=
  match i.many item with
  | ([], _) => none
  | r => some r

end InlineCheck.Source
