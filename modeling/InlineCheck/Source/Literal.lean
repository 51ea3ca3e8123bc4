import InlineCheck.Source.Node

/-! # Texts in quotes

What is allowed between quotes, and the expressions inside formatted texts.

* `escapesOk` — whether every escape sequence is complete.
* `fields` — the expressions in the braces of a formatted text, as placed characters.
-/

namespace InlineCheck.Source

/-! ## Escape sequences -/

def hexValue (cs : List Char) : Nat :=
  cs.foldl (fun n c =>
    16 * n + (if c.isDigit then c.toNat - '0'.toNat else c.toLower.toNat - 'a'.toNat + 10)) 0

def startsHex (n : Nat) (cs : List Char) : Bool :=
  let ds := cs.take n
  ds.length == n && ds.all isHex && hexValue ds ≤ 0x10FFFF

def startsName (cs : List Char) : Bool :=
  match cs with
  | '\x7b' :: c :: rest => c != '\x7d' && rest.contains '\x7d'
  | _ => false

/-- Whether every escape sequence is complete. Bytes know fewer of them. -/
def escapesOk (isBytes escaped : Bool) : List Char → Bool
  | [] => true
  | c :: cs =>
    if escaped then
      (if c = 'x' then startsHex 2 cs
        else if isBytes then true
        else if c = 'u' then startsHex 4 cs
        else if c = 'U' then startsHex 8 cs
        else if c = 'N' then startsName cs
        else true) && escapesOk isBytes false cs
    else escapesOk isBytes (c == '\\') cs

def bodyOk (mark : List Char) (body : List Char) : Bool :=
  let isBytes := mark.contains 'b'
  (!isBytes || body.all (·.toNat < 128)) && (mark.contains 'r' || escapesOk isBytes false body)

/-! ## Formatted texts -/

/-- What a search for the end of an expression knows: the quotes of an open text and how many they
are, and the open brackets as the signs that close them. -/
structure FieldScan where
  quote : Option (Char × Nat) := none
  closers : List Char := []

def triple (c : Char) (cs : List Placed) : Bool :=
  match cs with
  | a :: b :: _ => a.char = c && b.char = c
  | _ => false

/-- Reads an expression in braces up to the sign that ends it. `skip` counts characters that belong
to what was already read. -/
def takeField (skip : Nat) (s : FieldScan) : List Placed → Option (List Placed × List Placed)
  | [] => none
  | p :: ps =>
    let c := p.char
    let more (skip : Nat) (s : FieldScan) :=
      (takeField skip s ps).map fun (own, rest) => (p :: own, rest)
    match skip with
    | skip + 1 => more skip s
    | 0 =>
      -- neither a backslash nor a comment can stand in braces
      if c = '\\' then none
      else
        match s.quote with
        | some (q, n) =>
          if c = q then
            if n = 1 then more 0 { s with quote := none }
            else if triple q ps then more 2 { s with quote := none }
            else more 0 s
          else more 0 s
        | none =>
          if c = '\'' || c = '"' then
            if triple c ps then more 2 { s with quote := some (c, 3) }
            else more 0 { s with quote := some (c, 1) }
          else if c = '#' then none
          else
            match closerOf (String.ofList [c]) with
            | some closer => more 0 { s with closers := closer :: s.closers }
            | none =>
              match s.closers with
              | [] =>
                let next := ps.head?.map (·.char)
                -- a comparison goes on with the expression
                if (c = '!' || c = '=' || c = '<' || c = '>') && next = some '=' then more 1 s
                else if c = '!' || c = ':' || c = '=' || c = '\x7d' then some ([], p :: ps)
                else if c = ')' || c = ']' then none
                else more 0 s
              | closer :: below =>
                if c = ')' || c = ']' || c = '\x7d' then
                  if c = closer then more 0 { s with closers := below } else none
                else more 0 s

def dropConversion (ps : List Placed) : Option (List Placed) :=
  let ps := match ps with
    | ⟨'=', _⟩ :: rest =>
      rest.dropWhile fun (p : Placed) => [' ', '\t', '\n', '\x0b', '\x0c'].contains p.char
    | _ => ps
  match ps with
  | ⟨'!', _⟩ :: c :: rest => if ['s', 'r', 'a'].contains c.char then some rest else none
  | ⟨'!', _⟩ :: [] => none
  | _ => some ps

def fieldCells (brace : Placed) (own rest : List Placed) : List Placed :=
  ⟨'(', brace.position⟩ :: (own ++ [⟨')', (rest.head?.getD brace).position⟩])

/-- The expressions of a formatted text, each as characters in parentheses, and what is left. A
format inside braces is a formatted text again, down to the second level, and ends before a
closing brace. -/
def fieldsFrom (raw : Bool) : Nat → Nat → List Placed → Option (List (List Placed) × List Placed)
  | 0, _, _ => none
  | _ + 1, _, [] => some ([], [])
  | fuel + 1, level, p :: ps =>
    let c := p.char
    let more (ps : List Placed) := fieldsFrom raw fuel level ps
    if !raw && c = '\\' then
      match ps with
      | ⟨'N', _⟩ :: ⟨'\x7b', _⟩ :: rest => more ((rest.dropWhile (·.char != '\x7d')).drop 1)
      | ⟨'\x7b', _⟩ :: _ | ⟨'\x7d', _⟩ :: _ => more ps
      | _ :: rest => more rest
      | [] => more []
    else if c = '\x7b' then
      -- a doubled brace stands for itself
      if level = 0 && ps.head?.any (·.char == '\x7b') then more (ps.drop 1)
      else if 2 ≤ level then none
      else do
        let (own, rest) ← takeField 0 {} ps
        if own.all fun (q : Placed) => [' ', '\t', '\n', '\x0c'].contains q.char then none
        let behind ← dropConversion rest
        let (inner, behind) ← match behind with
          | ⟨':', _⟩ :: format => fieldsFrom raw fuel (level + 1) format
          | _ => some ([], behind)
        match behind with
        | ⟨'\x7d', _⟩ :: others =>
          let (later, left) ← fieldsFrom raw fuel level others
          return (fieldCells p own rest :: (inner ++ later), left)
        | _ => none
    else if c = '\x7d' then
      if level = 0 then
        if ps.head?.any (·.char == '\x7d') then more (ps.drop 1) else none
      else some ([], p :: ps)
    else more ps

def fields (raw : Bool) (body : List Placed) : Option (List (List Placed)) :=
  match fieldsFrom raw (body.length + 1) 0 body with
  | some (fs, []) => some fs
  | _ => none

def fieldTokens (cells : List Placed) : Option (List Token) :=
  scanPlaced { fresh := false } cells

end InlineCheck.Source
