import InlineCheck.Text.Blank
import InlineCheck.Toml.Fault

/-! # Scalars of TOML

Texts in four kinds of quotes, numbers, dates and times.
-/

namespace InlineCheck.Toml

open Number (Binary64)

/-! ## Blanks and comments -/

def isBlank (c : Char) : Bool := c == ' ' || c == '\t'

def isBlankOrNewline (c : Char) : Bool := isBlank c || c == '\n'

def skipBlanks (cs : List Char) : List Char := cs.dropWhile isBlank

def isIllegal (c : Char) : Bool :=
  (c.toNat < 0x20 || c.toNat = 0x7F) && c != '\t'

def isIllegalInLines (c : Char) : Bool :=
  isIllegal c && c != '\n'

def splitBefore? (delimiter : List Char) : List Char → Option (List Char × List Char)
  | [] => if delimiter.isEmpty then some ([], []) else none
  | c :: cs =>
    if Text.startsWith delimiter (c :: cs) then some ([], c :: cs)
    else (splitBefore? delimiter cs).map fun (a, b) => (c :: a, b)

/-- Refuses a text with a character of a class, at that character. -/
def refuse (bad : Char → Bool) (body rest : List Char) : Except Fault Unit :=
  match body.dropWhile (!bad ·) with
  | [] => .ok ()
  | c :: cs => .error (.bad (.invalidChar c) (c :: cs ++ rest))

def skipComment : List Char → Except Fault (List Char)
  | '#' :: cs => do
    let body := cs.takeWhile (· != '\n')
    let rest := cs.dropWhile (· != '\n')
    refuse isIllegal body rest
    return rest
  | cs => .ok cs

def skipLayout : Nat → List Char → Except Fault (List Char)
  | 0, cs => .ok cs
  | fuel + 1, cs => do
    let rest ← skipComment (cs.dropWhile isBlankOrNewline)
    if rest.length = cs.length then return cs else skipLayout fuel rest

/-! ## Texts -/

def readUntil (delimiter : String) (bad : Char → Bool) : Reader (List Char) := fun cs =>
  match splitBefore? delimiter.toList cs with
  | none => .error (.bad (.expected delimiter) [])
  | some (body, rest) => do
    refuse bad body rest
    return (body, rest.drop delimiter.length)

def hexValue (c : Char) : Nat :=
  if c.isDigit then c.toNat - '0'.toNat
  else if 'a' ≤ c && c ≤ 'f' then c.toNat - 'a'.toNat + 10
  else c.toNat - 'A'.toNat + 10

def isHex (c : Char) : Bool :=
  c.isDigit || ('a' ≤ c && c ≤ 'f') || ('A' ≤ c && c ≤ 'F')

def valueIn (base : Nat) (ds : List Char) : Nat :=
  ds.foldl (fun n c => base * n + hexValue c) 0

def readHex (size : Nat) : Reader Char := fun cs =>
  let ds := cs.take size
  if ds.length = size && ds.all isHex then
    let n := valueIn 16 ds
    if n < 0xD800 || (0xE000 ≤ n && n < 0x110000) then .ok (Char.ofNat n, cs.drop size)
    else .error (.bad .notScalar (cs.drop size))
  else .error (.bad .invalidHex cs)

/-- What an escape stands for, after the backslash. A backslash at a line end takes the blanks
after it along. -/
def readEscape (lines : Bool) : Reader (List Char)
  | [] => .error (.bad .unescaped [])
  | c :: cs =>
    if lines && c == '\n' then .ok ([], cs.dropWhile isBlankOrNewline)
    else if lines && isBlank c then
      match skipBlanks cs with
      | [] => .ok ([], [])
      | '\n' :: rest => .ok ([], rest.dropWhile isBlankOrNewline)
      | rest => .error (.bad .unescaped rest)
    else
      match c with
      | 'u' => (readHex 4 cs).map fun (x, rest) => ([x], rest)
      | 'U' => (readHex 8 cs).map fun (x, rest) => ([x], rest)
      | 'b' => .ok ([Char.ofNat 0x08], cs)
      | 't' => .ok (['\t'], cs)
      | 'n' => .ok (['\n'], cs)
      | 'f' => .ok ([Char.ofNat 0x0C], cs)
      | 'r' => .ok (['\r'], cs)
      | '"' => .ok (['"'], cs)
      | '\\' => .ok (['\\'], cs)
      | _ => .error (.bad .unescaped cs)

/-- The inside of a text in double quotes, and its end; `acc` holds what was read, in reverse. -/
def readBasic (lines : Bool) : Nat → List Char → Reader (List Char)
  | 0, _, _ => .error (.bad .unterminated [])
  | fuel + 1, acc, cs =>
    match cs with
    | [] => .error (.bad .unterminated [])
    | '"' :: rest =>
      if lines then
        match rest with
        | '"' :: '"' :: rest => .ok (acc.reverse, rest)
        -- fewer than three quotes belong to the text
        | rest => readBasic lines fuel ('"' :: acc) rest
      else .ok (acc.reverse, rest)
    | '\\' :: rest => do
      let (e, rest) ← readEscape lines rest
      readBasic lines fuel (e.reverse ++ acc) rest
    | c :: rest =>
      if (if lines then isIllegalInLines c else isIllegal c) then
        .error (.bad (.illegal c) (c :: rest))
      else readBasic lines fuel (c :: acc) rest

def readQuoted : Reader (List Char) := fun cs =>
  readBasic false (cs.length + 1) [] cs

def readLiteral : Reader (List Char) :=
  readUntil "'" isIllegal

/-- Up to two quotes that stand right before the closing three belong to the text. -/
def extraQuotes (quote : Char) (text cs : List Char) : List Char × List Char :=
  match cs with
  | a :: b :: rest =>
    if a = quote then
      if b = quote then (text ++ [quote, quote], rest) else (text ++ [quote], b :: rest)
    else (text, cs)
  | [a] => if a = quote then (text ++ [quote], []) else (text, cs)
  | [] => (text, cs)

/-- A text of several lines, after its three opening quotes; a newline right after them is
dropped. -/
def readLines (quote : Char) : Reader (List Char) := fun cs => do
  let cs := match cs with
    | '\n' :: rest => rest
    | cs => cs
  let (text, rest) ←
    if quote = '"' then readBasic true (cs.length + 1) [] cs
    else readUntil "'''" isIllegalInLines cs
  return extraQuotes quote text rest

/-! ## Numbers -/

/-- Digits of a class with single underscores between them; the underscores are dropped. -/
def digitRun (p : Char → Bool) : List Char → List Char × List Char
  | [] => ([], [])
  | c :: cs =>
    if p c then
      match cs with
      | '_' :: d :: rest =>
        if p d then
          let (ds, rest) := digitRun p (d :: rest)
          (c :: ds, rest)
        else ([c], cs)
      | cs =>
        let (ds, rest) := digitRun p cs
        (c :: ds, rest)
    else ([], c :: cs)

def basedInteger? : List Char → Option (Value × List Char)
  | '0' :: mark :: cs =>
    let base : Option (Nat × (Char → Bool)) := match mark with
      | 'x' => some (16, isHex)
      | 'b' => some (2, fun c => c == '0' || c == '1')
      | 'o' => some (8, fun c => '0' ≤ c && c ≤ '7')
      | _ => none
    match base with
    | none => none
    | some (base, p) =>
      match digitRun p cs with
      | ([], _) => none
      | (ds, rest) => some (.int (valueIn base ds), rest)
  | _ => none

def fractionPart (cs : List Char) : List Char × List Char :=
  let (fraction, rest) := match cs with
    | '.' :: tail =>
      match digitRun Char.isDigit tail with
      | ([], _) => ([], cs)
      | (ds, rest) => ('.' :: ds, rest)
    | cs => ([], cs)
  match rest with
  | e :: tail =>
    if e == 'e' || e == 'E' then
      let (sign, tail) := match tail with
        | '+' :: t => (['+'], t)
        | '-' :: t => (['-'], t)
        | t => ([], t)
      match digitRun Char.isDigit tail with
      -- a letter without digits behind it is no exponent
      | ([], _) => (fraction, rest)
      | (ds, rest) => (fraction ++ 'e' :: sign ++ ds, rest)
    else (fraction, rest)
  | [] => (fraction, rest)

def maxDigits : Nat := 4300

def decimal? (cs : List Char) : Option (Except Fault Value × List Char) :=
  let (sign, body) := match cs with
    | '+' :: t => (['+'], t)
    | '-' :: t => (['-'], t)
    | t => ([], t)
  let whole : Option (List Char × List Char) := match body with
    -- no digit may follow a leading zero
    | '0' :: rest => some (['0'], rest)
    | c :: _ => if c.isDigit then some (digitRun Char.isDigit body) else none
    | [] => none
  whole.map fun (ds, rest) =>
    match fractionPart rest with
    | ([], rest) =>
      if maxDigits < ds.length then (.error (.integerTooLong ds.length), rest)
      else
        let n : Int := valueIn 10 ds
        (.ok (.int (if sign = ['-'] then -n else n)), rest)
    | (tail, rest) => (.ok (.float ((Binary64.read? (sign ++ ds ++ tail)).getD .nan)), rest)

/-! ## Dates and times -/

/-- A number of exactly `size` digits, between two bounds. -/
def fixedNumber (size low high : Nat) (cs : List Char) : Option (Nat × List Char) :=
  let ds := cs.take size
  let n := valueIn 10 ds
  if ds.length = size && ds.all Char.isDigit && low ≤ n && n ≤ high then some (n, cs.drop size)
  else none

def drop? (c : Char) : List Char → Option (List Char)
  | d :: cs => if d = c then some cs else none
  | [] => none

def microseconds : List Char → Nat × List Char
  | '.' :: cs =>
    let ds := cs.takeWhile Char.isDigit
    if ds.isEmpty then (0, '.' :: cs)
    else (valueIn 10 (ds.take 6 ++ List.replicate (6 - ds.length) '0'), cs.drop ds.length)
  | cs => (0, cs)

def clock? (cs : List Char) : Option (Clock × List Char) := do
  let (hour, cs) ← fixedNumber 2 0 23 cs
  let cs ← drop? ':' cs
  let (minute, cs) ← fixedNumber 2 0 59 cs
  let cs ← drop? ':' cs
  let (second, cs) ← fixedNumber 2 0 59 cs
  let (micro, cs) := microseconds cs
  return ({ hour, minute, second, micro }, cs)

def offset? : List Char → Option (Int × List Char)
  | c :: cs =>
    if c == 'Z' || c == 'z' then some (0, cs)
    else if c == '+' || c == '-' then do
      let (hours, cs) ← fixedNumber 2 0 23 cs
      let cs ← drop? ':' cs
      let (minutes, cs) ← fixedNumber 2 0 59 cs
      let n : Int := hours * 60 + minutes
      return (if c == '-' then -n else n, cs)
    else none
  | [] => none

def daysIn (year month : Nat) : Nat :=
  if month = 2 then
    if year % 4 = 0 && (year % 100 != 0 || year % 400 = 0) then 29 else 28
  else if [4, 6, 9, 11].contains month then 30
  else 31

/-- A date, a date with a time, or such with an offset; the date need not exist. -/
def moment? (cs : List Char) : Option (Moment × List Char) := do
  let (year, cs) ← fixedNumber 4 0 9999 cs
  let cs ← drop? '-' cs
  let (month, cs) ← fixedNumber 2 1 12 cs
  let cs ← drop? '-' cs
  let (day, cs) ← fixedNumber 2 1 31 cs
  let d : Day := { year, month, day }
  let time : Option (Clock × List Char) := match cs with
    | c :: rest => if c == 'T' || c == 't' || c == ' ' then clock? rest else none
    | [] => none
  match time with
  | none => return (.day d, cs)
  | some (c, cs) =>
    match offset? cs with
    | some (minutes, cs) => return (.both d c (some minutes), cs)
    | none => return (.both d c none, cs)

def exists? : Moment → Bool
  | .day d | .both d _ _ => 1 ≤ d.year && d.day ≤ daysIn d.year d.month
  | .clock _ => true

end InlineCheck.Toml
