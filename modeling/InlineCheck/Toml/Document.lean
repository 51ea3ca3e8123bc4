import InlineCheck.Toml.Scalar
import InlineCheck.Toml.Table

/-! # TOML documents

Values with arrays and inline tables, and the statements that build the tables of a document.

* `readValue` — a value of any kind.
* `parse` — the tables of a document, or what is wrong with it and where.
-/

namespace InlineCheck.Toml

/-! ## Keys -/

def isBare (c : Char) : Bool :=
  c.isAlphanum || c == '-' || c == '_'

def readKeyPart : Reader String
  | '\'' :: cs => (readLiteral cs).map fun (k, rest) => (String.ofList k, rest)
  | '"' :: cs => (readQuoted cs).map fun (k, rest) => (String.ofList k, rest)
  | cs =>
    let bare := cs.takeWhile isBare
    if bare.isEmpty then .error (.bad .invalidKeyStart cs)
    else .ok (String.ofList bare, cs.drop bare.length)

def readKeyParts : Nat → Reader (List String)
  | 0, cs => .error (.bad .invalidKeyStart cs)
  | fuel + 1, cs => do
    let (part, rest) ← readKeyPart cs
    match skipBlanks rest with
    | '.' :: rest =>
      let (parts, rest) ← readKeyParts fuel (skipBlanks rest)
      return (part :: parts, rest)
    | rest => return ([part], rest)

def readKey : Reader (List String) := fun cs =>
  readKeyParts (cs.length + 1) cs

/-! ## Values -/

def readPlain : Reader Value := fun cs =>
  let text (r : Except Fault (List Char × List Char)) : Except Fault (Value × List Char) :=
    r.map fun (s, rest) => (.text (String.ofList s), rest)
  let word (w : String) := Text.dropPrefix? w.toList cs
  match cs with
  | '"' :: '"' :: '"' :: rest => text (readLines '"' rest)
  | '"' :: rest => text (readQuoted rest)
  | '\'' :: '\'' :: '\'' :: rest => text (readLines '\'' rest)
  | '\'' :: rest => text (readLiteral rest)
  | cs =>
    match word "true", word "false" with
    | some rest, _ => .ok (.bool true, rest)
    | none, some rest => .ok (.bool false, rest)
    | none, none =>
      match moment? cs with
      | some (m, rest) => if exists? m then .ok (.moment m, rest) else .error (.bad .invalidDate cs)
      | none =>
        match clock? cs with
        | some (c, rest) => .ok (.moment (.clock c), rest)
        | none =>
          match basedInteger? cs with
          | some r => .ok r
          | none =>
            match decimal? cs with
            | some (v, rest) => v.map (·, rest)
            | none => special cs
where
  /-- An infinity or a NaN. -/
  special (cs : List Char) : Except Fault (Value × List Char) :=
    let (sign, body) := match cs with
      | '+' :: t => (false, t)
      | '-' :: t => (true, t)
      | t => (false, t)
    match Text.dropPrefix? "inf".toList body, Text.dropPrefix? "nan".toList body with
    | some rest, _ => .ok (.float (.infinity sign), rest)
    | none, some rest => .ok (.float .nan, rest)
    | none, none => .error (.bad .invalidValue cs)

def isNested : Value → Bool
  | .dict _ | .list _ => true
  | _ => false

mutual
def readValue : Nat → Reader Value
  | 0, cs => .error (.bad .invalidValue cs)
  | fuel + 1, cs =>
    match cs with
    | '[' :: rest => do
      let rest ← skipLayout (rest.length + 1) rest
      match rest with
      | ']' :: rest => return (.list [], rest)
      | rest => readItems fuel [] rest
    | '\x7b' :: rest =>
      match skipBlanks rest with
      | '\x7d' :: rest => .ok (.dict [], rest)
      | rest => readFields fuel {} [] rest
    | cs => readPlain cs

/-- The elements of an array up to its end; `acc` holds those read, in reverse. -/
def readItems : Nat → List Value → Reader Value
  | 0, _, cs => .error (.bad .unclosedArray cs)
  | fuel + 1, acc, cs => do
    let (v, rest) ← readValue fuel cs
    let rest ← skipLayout (rest.length + 1) rest
    match rest with
    | ']' :: rest => return (.list (v :: acc).reverse, rest)
    | ',' :: rest =>
      let rest ← skipLayout (rest.length + 1) rest
      match rest with
      | ']' :: rest => return (.list (v :: acc).reverse, rest)
      | rest => readItems fuel (v :: acc) rest
    | rest => throw (.bad .unclosedArray rest)

def readPair : Nat → Reader (List String × Value)
  | 0, cs => .error (.bad .expectedEquals cs)
  | fuel + 1, cs => do
    let (key, rest) ← readKey cs
    match rest with
    | '=' :: rest =>
      let (v, rest) ← readValue fuel (skipBlanks rest)
      return ((key, v), rest)
    | rest => throw (.bad .expectedEquals rest)

/-- The pairs of an inline table up to its end, put into the entries read so far. -/
def readFields : Nat → Flags → Entries → Reader Value
  | 0, _, _, cs => .error (.bad .unclosedTable cs)
  | fuel + 1, flags, es, cs => do
    let ((key, v), rest) ← readPair fuel cs
    if flags.isFrozen key then throw (.bad (.immutable key) rest)
    let stem := key.getLast?.getD ""
    -- first the tables on the way, then the entry itself: they fail in different words
    let nest ← match modifyAt false some key.dropLast es with
      | some es => pure es
      | none => throw (.bad .overwritten rest)
    let es ← match modifyAt false (addEntry stem v) key.dropLast nest with
      | some es => pure es
      | none => throw (.bad (.duplicateKey stem) rest)
    match skipBlanks rest with
    | '\x7d' :: rest => return (.dict es, rest)
    | ',' :: rest =>
      readFields fuel (if isNested v then flags.mark key .frozen else flags) es (skipBlanks rest)
    | rest => throw (.bad .unclosedTable rest)
end

/-! ## Statements -/

structure Draft where
  entries : Entries := []
  flags : Flags := {}
  /-- The table that pairs go to. -/
  header : List String := []

def readTableHeader (d : Draft) : Reader Draft := fun cs => do
  let (key, rest) ← readKey (skipBlanks cs)
  if d.flags.isDeclared key || d.flags.isFrozen key then throw (.bad (.declaredTwice key) rest)
  match modifyAt true some key d.entries with
  | none => throw (.bad .overwritten rest)
  | some entries =>
    match rest with
    | ']' :: rest => return ({ entries, flags := d.flags.mark key .declared, header := key }, rest)
    | rest => throw (.bad .expectedBracket rest)

def readArrayHeader (d : Draft) : Reader Draft := fun cs => do
  let (key, rest) ← readKey (skipBlanks cs)
  if d.flags.isFrozen key then throw (.bad (.immutable key) rest)
  match modifyAt true (appendTable (key.getLast?.getD "")) key.dropLast d.entries with
  | none => throw (.bad .overwritten rest)
  | some entries =>
    match rest with
    | ']' :: ']' :: rest =>
      -- the new table starts afresh, whatever was said about the one before
      return ({ entries, flags := (d.flags.forget key).mark key .declared, header := key }, rest)
    | rest => throw (.bad .expectedBrackets rest)

/-- Marks the tables above a dotted key, none of which may have a header of its own. -/
def markParents (header : List String) (rest : List Char) (flags : Flags) :
    List (List String) → Except Fault Flags
  | [] => .ok flags
  | part :: parts =>
    let key := header ++ part
    if flags.isDeclared key then .error (.bad (.redefined key) rest)
    else markParents header rest (flags.markLater key) parts

def properPrefixes (key : List String) : List (List String) :=
  (List.range (key.length - 1)).map fun i => key.take (i + 1)

/-- A key with its value, as a statement. -/
def readStatementPair (d : Draft) : Reader Draft := fun cs => do
  let ((key, v), rest) ← readPair (cs.length + 2) cs
  let flags ← markParents d.header rest d.flags (properPrefixes key)
  let parent := d.header ++ key.dropLast
  if flags.isFrozen parent then throw (.bad (.immutable parent) rest)
  match modifyAt true (addEntry (key.getLast?.getD "") v) parent d.entries with
  | none => throw (.bad .overwritten rest)
  | some entries =>
    -- what is written inline is complete
    let flags := if isNested v then flags.mark (d.header ++ key) .frozen else flags
    return ({ d with entries, flags }, rest)

def readStatement (d : Draft) : Reader Draft := fun cs =>
  match cs with
  | '[' :: '[' :: rest => readArrayHeader { d with flags := d.flags.settle } rest
  | '[' :: rest => readTableHeader { d with flags := d.flags.settle } rest
  | '#' :: _ => .ok (d, cs)
  | c :: _ =>
    if isBare c || c == '"' || c == '\'' then readStatementPair d cs
    else .error (.bad .invalidStatement cs)
  | [] => .ok (d, cs)

def readStatements : Nat → Draft → List Char → Except Fault Entries
  | 0, d, _ => .ok d.entries
  | fuel + 1, d, cs =>
    match skipBlanks cs with
    | [] => .ok d.entries
    | '\n' :: rest => readStatements fuel d rest
    | cs => do
      let (d, rest) ← readStatement d cs
      let rest ← skipComment (skipBlanks rest)
      match rest with
      | [] => return d.entries
      | '\n' :: rest => readStatements fuel d rest
      | rest => throw (.bad .expectedLineEnd rest)

def joinLineEnds : List Char → List Char
  | [] => []
  | '\r' :: '\n' :: cs => '\n' :: joinLineEnds cs
  | c :: cs => c :: joinLineEnds cs

inductive ParseFault where
  | bad (message : String)
  | integerTooLong (digits : Nat)
  deriving DecidableEq, Repr

/-- The tables of a document. -/
def parse (text : String) : Except ParseFault Entries :=
  let document := joinLineEnds text.toList
  match readStatements (document.length + 1) {} document with
  | .ok es => .ok es
  | .error (.bad cause rest) =>
    .error (.bad (cause.message ++ " (at " ++ placeText document rest ++ ")"))
  | .error (.integerTooLong digits) => .error (.integerTooLong digits)

end InlineCheck.Toml
