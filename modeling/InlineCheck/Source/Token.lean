import InlineCheck.Source.Position
import InlineCheck.Text.Letters

/-! # Tokens

The smallest parts of program text.

* `Token` — a word, number, text, sign, or the layout of lines.
* `scan` — the tokens of a text, unless one of them is malformed. Indentation is told by tokens of
  its own, and lines inside brackets run together.
-/

namespace InlineCheck.Source

inductive TokenKind where
  | name
  | keyword
  | number
  /-- A text in quotes, with its mark in small letters and what stands between the quotes. -/
  | text (mark : List Char) (body : List Placed)
  | sign
  | newline
  | indent
  | dedent
  | finish
  deriving DecidableEq, Repr, Inhabited

structure Token where
  kind : TokenKind
  text : String
  span : Span
  deriving DecidableEq, Repr, Inhabited

def keywords : List String :=
  ["False", "None", "True", "and", "as", "assert", "async", "await", "break", "class", "continue",
    "def", "del", "elif", "else", "except", "finally", "for", "from", "global", "if", "import",
    "in", "is", "lambda", "nonlocal", "not", "or", "pass", "raise", "return", "try", "while",
    "with", "yield"]

/-- The signs, longer ones before those they begin with. -/
def signs : List String :=
  ["**=", "//=", ">>=", "<<=", "...", "!=", "%=", "&=", "**", "*=", "+=", "-=", "->", "//", "/=",
    ":=", "<<", "<=", "==", ">=", ">>", "@=", "^=", "|=", "%", "&", "(", ")", "*", "+", ",", "-",
    ".", "/", ":", ";", "<", "=", ">", "@", "[", "]", "^", "\x7b", "|", "\x7d", "~"]

/-! ## Numbers -/

def continuesWord (c : Char) : Bool :=
  c.isAlphanum || c == '_' || 128 ≤ c.toNat

/-- Whether a number may end before these characters: before no letter, unless they are a word that
can follow a number. -/
def mayFollowNumber (cs : List Char) : Bool :=
  ["and", "else", "for", "if", "in", "is", "or", "not"].any (fun w => w.toList.isPrefixOf cs)
    || !(cs.head?.any continuesWord)

abbrev Taken := Nat × List Char

/-- Takes digits of a class, with single underscores between them. The first character is one. -/
def takeDigits (isDigit : Char → Bool) : List Char → Option Taken
  | [] => some (0, [])
  | '_' :: c :: cs =>
    if isDigit c then (takeDigits isDigit (c :: cs)).map fun (n, rest) => (n + 1, rest) else none
  | ['_'] => none
  | c :: cs =>
    if isDigit c then (takeDigits isDigit cs).map fun (n, rest) => (n + 1, rest)
    else some (0, c :: cs)

def takeDigitsIf (cs : List Char) : Option Taken :=
  match cs with
  | c :: _ => if c.isDigit then takeDigits Char.isDigit cs else some (0, cs)
  | [] => some (0, cs)

def takeExponent (cs : List Char) : Option Taken :=
  match cs with
  | e :: rest =>
    if e != 'e' && e != 'E' then some (0, cs)
    else
      match rest with
      | sign :: digits =>
        if sign == '+' || sign == '-' then
          if digits.head?.any Char.isDigit then
            (takeDigits Char.isDigit digits).map fun (n, rest) => (n + 2, rest)
          else none
        else if sign.isDigit then
          (takeDigits Char.isDigit rest).map fun (n, rest) => (n + 1, rest)
        -- the letter may begin a word that follows the number
        else some (0, cs)
      | [] => some (0, cs)
  | [] => some (0, cs)

def takeImaginary : List Char → Taken
  | 'j' :: cs => (1, cs)
  | 'J' :: cs => (1, cs)
  | cs => (0, cs)

/-- What may follow the whole part of a number: fraction, exponent and letter. The flag tells
whether there is any. -/
def takeTail (cs : List Char) : Option (Nat × List Char × Bool) := do
  let (f, afterFraction) ← match cs with
    | '.' :: rest => (takeDigitsIf rest).map fun (n, rest) => (n + 1, rest)
    | _ => some (0, cs)
  let (e, afterExponent) ← takeExponent afterFraction
  let (j, rest) := takeImaginary afterExponent
  return (f + e + j, rest, f + e + j != 0)

def takeBased (isDigit : Char → Bool) (cs : List Char) : Option Taken := do
  let (m, cs) := match cs with
    | '_' :: rest => (1, rest)
    | _ => (0, cs)
  if !cs.head?.any isDigit then none
  let (n, rest) ← takeDigits isDigit cs
  if rest.head?.any Char.isDigit then none
  return (m + n + 2, rest)

def isHex (c : Char) : Bool :=
  c.isDigit || ('a' ≤ c && c ≤ 'f') || ('A' ≤ c && c ≤ 'F')

/-- Takes a number in base ten. A whole number other than zero begins with no zero. -/
def takeDecimal (cs : List Char) : Option Taken := do
  let (n, rest) ← takeDigitsIf cs
  let digits := (cs.take n).filter Char.isDigit
  let (m, rest, more) ← takeTail rest
  if !more && digits.head? == some '0' && digits.any (· != '0') then none
  return (n + m, rest)

def numberLength (cs : List Char) : Option Nat := do
  let (n, rest) ← match cs with
    | '0' :: b :: rest =>
      if b == 'x' || b == 'X' then takeBased isHex rest
      else if b == 'o' || b == 'O' then takeBased (fun c => '0' ≤ c && c ≤ '7') rest
      else if b == 'b' || b == 'B' then takeBased (fun c => c == '0' || c == '1') rest
      else takeDecimal cs
    | _ => takeDecimal cs
  if mayFollowNumber rest then return n else none

/-! ## Texts in quotes -/

def isTextMark (mark : List Char) : Bool :=
  ["", "b", "u", "r", "f", "br", "rb", "fr", "rf"].contains (String.ofList mark)

def takeLine (quote : Char) (escaped : Bool) : List Placed → Option (List Placed × List Placed)
  | [] => none
  | c :: cs =>
    if escaped then (takeLine quote false cs).map fun (b, rest) => (c :: b, rest)
    else if c.char = quote then some ([], cs)
    else if c.char = '\n' then none
    else (takeLine quote (c.char == '\\') cs).map fun (b, rest) => (c :: b, rest)

def takeLines (quote : Char) (escaped : Bool) : List Placed → Option (List Placed × List Placed)
  | [] => none
  | c :: cs =>
    let closes := match cs with
      | d :: e :: rest =>
        if c.char = quote && d.char = quote && e.char = quote then some rest else none
      | _ => none
    match escaped, closes with
    | false, some rest => some ([], rest)
    | _, _ =>
      (takeLines quote (!escaped && c.char == '\\') cs).map fun (b, rest) => (c :: b, rest)

def takeText : List Placed → Option (List Placed × List Placed)
  | a :: b :: c :: cs =>
    if b.char = a.char && c.char = a.char then takeLines a.char false cs
    else takeLine a.char false (b :: c :: cs)
  | a :: cs => takeLine a.char false cs
  | [] => none

/-! ## Scanning -/

def placeBehind (start : Position) (cs : List Placed) : Position :=
  match cs.getLast? with
  | none => start
  | some c => c.position.behind c.char

def tokenOf (kind : TokenKind) (n : Nat) (cs : List Placed) : Token :=
  let own := cs.take n
  let start := (own.head?.map (·.position)).getD .first
  { kind, text := String.ofList (own.map (·.char)), span := ⟨start, placeBehind start own⟩ }

def layout (kind : TokenKind) (p : Position) : Token :=
  { kind, text := "", span := ⟨p, p⟩ }

/-- How far a line is indented: with tabs up to multiples of eight columns, and with tabs as single
columns. -/
structure Indent where
  wide : Nat := 0
  narrow : Nat := 0
  deriving DecidableEq, Repr

/-- What the scanner knows: the open indentations, the open brackets as the signs that close them,
and whether a line begins. -/
structure Scanner where
  indents : List Indent := []
  closers : List Char := []
  fresh : Bool := true
  deriving Repr

/-- The blanks at the beginning of a line. A line that goes on behind a backslash keeps its first
indentation. -/
def takeIndent (kept : Option Nat) (i : Indent) : List Placed → Option (Indent × List Placed)
  | [] => some (i, [])
  | ⟨'\\', _⟩ :: ⟨'\n', _⟩ :: c :: cs =>
    takeIndent (some ((kept.filter (· != 0)).getD i.wide)) i (c :: cs)
  | c :: cs =>
    if c.char = ' ' then takeIndent kept ⟨i.wide + 1, i.narrow + 1⟩ cs
    else if c.char = '\t' then takeIndent kept ⟨(i.wide / 8 + 1) * 8, i.narrow + 1⟩ cs
    -- a form feed begins the line anew
    else if c.char = '\x0c' then takeIndent kept ⟨0, 0⟩ cs
    else if c.char = '\\' then none
    else
      match kept.filter (· != 0) with
      | none => some (i, c :: cs)
      | some n => some (⟨n, n⟩, c :: cs)

/-- Closes indentations down to one; what is left must be the same. -/
def closeIndents (i : Indent) (p : Position) : List Indent → Option (List Token × List Indent)
  | [] => if i = {} then some ([], []) else none
  | top :: below =>
    if i.wide < top.wide then
      (closeIndents i p below).map fun (ts, rest) => (layout .dedent p :: ts, rest)
    else if i = top then some ([], top :: below)
    else none

def changeIndent (indents : List Indent) (i : Indent) (p : Position) :
    Option (List Token × List Indent) :=
  let top := indents.headD {}
  if top.wide < i.wide then
    -- deeper by one measure and not by the other, the tabs leave it open
    if top.narrow < i.narrow then some ([layout .indent p], i :: indents) else none
  else closeIndents i p indents

def closerOf : String → Option Char
  | "(" => some ')'
  | "[" => some ']'
  | "\x7b" => some '\x7d'
  | _ => none

def closersAfter (closers : List Char) (sign : String) : Option (List Char) :=
  match closerOf sign with
  | some c => some (c :: closers)
  | none =>
    match sign.toList with
    | [c] =>
      if c = ')' || c = ']' || c = '\x7d' then
        match closers with
        | top :: below => if top = c then some below else none
        | [] => none
      else some closers
    | _ => some closers

def scanFresh (s : Scanner) (cs : List Placed) : Option (List Token × Scanner × List Placed) := do
  let (i, rest) ← takeIndent none {} cs
  match rest with
  | [] => return ([], s, [])
  | c :: _ =>
    -- a line without a token leaves the indentation as it is
    if c.char = '#' || c.char = '\n' then
      return ([], s, (rest.dropWhile (·.char != '\n')).drop 1)
    else
      let (ts, indents) ← changeIndent s.indents i c.position
      return (ts, { s with indents, fresh := false }, rest)

def scanWord (s : Scanner) (cs : List Placed) : Option (List Token × Scanner × List Placed) := do
  let word := cs.takeWhile fun c => continuesWord c.char
  let rest := cs.drop word.length
  let mark := word.map (·.char.toLower)
  if isTextMark mark && rest.head?.any (fun c => c.char == '\'' || c.char == '"') then
    let (body, behind) ← takeText rest
    let size := cs.length - behind.length
    return ([tokenOf (.text mark body) size cs], s, behind)
  else
    let letters := word.map (·.char)
    if letters.head?.any Text.isNameStart && letters.all Text.isNameContinue then
      let kind := if keywords.contains (String.ofList letters) then .keyword else .name
      return ([tokenOf kind word.length cs], s, rest)
    else none

def scanSign (s : Scanner) (cs : List Placed) : Option (List Token × Scanner × List Placed) := do
  let letters := (cs.take 3).map (·.char)
  let sign ← signs.find? fun sign => sign.toList.isPrefixOf letters
  let closers ← closersAfter s.closers sign
  return ([tokenOf .sign sign.length cs], { s with closers }, cs.drop sign.length)

def scanNext (s : Scanner) (cs : List Placed) : Option (List Token × Scanner × List Placed) :=
  match cs with
  | [] => some ([], s, [])
  | c :: rest =>
    if c.char = ' ' || c.char = '\t' || c.char = '\x0c' then some ([], s, rest)
    else if c.char = '#' then some ([], s, rest.dropWhile (·.char != '\n'))
    else if c.char = '\n' then
      -- inside brackets lines run together
      if s.closers.isEmpty then some ([layout .newline c.position], { s with fresh := true }, rest)
      else some ([], s, rest)
    else if c.char = '\\' then
      match rest with
      | ⟨'\n', _⟩ :: more :: others => some ([], s, more :: others)
      | _ => none
    else if c.char.isDigit || (c.char = '.' && rest.head?.any (·.char.isDigit)) then
      (numberLength (cs.map (·.char))).map fun n => ([tokenOf .number n cs], s, cs.drop n)
    else if c.char = '\'' || c.char = '"' || continuesWord c.char then scanWord s cs
    else scanSign s cs

def scanStep (s : Scanner) (cs : List Placed) : Option (List Token × Scanner × List Placed) :=
  if s.fresh then scanFresh s cs else scanNext s cs

def scanEnd (s : Scanner) (p : Position) : Option (List Token) :=
  if !s.closers.isEmpty then none
  else
    some ((if s.fresh then [] else [layout .newline p])
      ++ s.indents.map (fun _ => layout .dedent p) ++ [layout .finish p])

/-- Reads characters to their end; each step takes one at least, or begins a line. -/
def scanAll (p : Position) : Nat → Scanner → List Placed → Option (List Token)
  | _, s, [] => scanEnd s p
  | 0, _, _ :: _ => none
  | fuel + 1, s, cs =>
    match scanStep s cs with
    | none => none
    | some (ts, s, rest) => (scanAll p fuel s rest).map (ts ++ ·)

def scanPlaced (s : Scanner) (cs : List Placed) : Option (List Token) :=
  scanAll (placeBehind .first cs) (2 * cs.length + 1) s cs

def scan (text : String) : Option (List Token) :=
  scanPlaced {} (plainLines (place .first text.toList))

end InlineCheck.Source
