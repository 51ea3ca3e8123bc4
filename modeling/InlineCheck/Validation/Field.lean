import InlineCheck.Text.Blank
import InlineCheck.Validation.Report

/-! # Reading fields

How a value becomes a text, a truth value, an integer or a list of texts. Each reader accepts more
than the exact type and says what is wrong otherwise.
-/

namespace InlineCheck.Validation

open Number (Binary64)

/-! ## Texts -/

/-- Reads a text; bytes are decoded. -/
def readText : Value → Except Problem String
  | .text s => .ok s
  | .bytes bs =>
    match Text.decode bs with
    | .ok s => .ok s
    | .error _ => .error .textNotUnicode
  | _ => .error .notText

/-! ## Truth values -/

def boolOfText? (s : String) : Option Bool :=
  let word := String.ofList (s.toList.map Char.toLower)
  if ["1", "t", "y", "on", "yes", "true"].contains word then some true
  else if ["0", "f", "n", "no", "off", "false"].contains word then some false
  else none

def readBoolText (s : String) : Except Problem Bool :=
  match boolOfText? s with
  | some b => .ok b
  | none => .error .boolUnread

/-- The least integer that a machine word is too small for. -/
def wordLimit : Int := 9223372036854775808

/-- Reads a truth value: itself, a word, or a number equal to zero or one. -/
def readBool : Value → Except Problem Bool
  | .bool b => .ok b
  | .text s => readBoolText s
  | .bytes bs =>
    match Text.decode bs with
    | .ok s => readBoolText s
    | .error _ => .error .boolUnread
  | .int n =>
    if n = 0 then .ok false
    else if n = 1 then .ok true
    else if -wordLimit ≤ n && n < wordLimit then .error .boolUnread
    else .error .notBool
  | .float x =>
    match x.toInt? with
    | some 0 => .ok false
    | some 1 => .ok true
    | _ => .error .notBool
  | _ => .error .notBool

/-! ## Integers -/

def maxDigits : Nat := 4300

def plainInt? : List Char → Option (Bool × List Char)
  | '-' :: ds => digits? true ds
  | ds => digits? false ds
where
  /-- At least one digit, the first not zero unless it is the only one. -/
  digits? (negative : Bool) (ds : List Char) : Option (Bool × List Char) :=
    if ds.isEmpty || !ds.all Char.isDigit then none
    else if ds.length > 1 && ds.head? == some '0' then none
    else some (negative, ds)

def intOfDigits (negative : Bool) (ds : List Char) : Except Problem Int :=
  if ds.length > maxDigits then .error .intTooLong
  else
    let n : Int := Binary64.digitsValue ds
    .ok (if negative then -n else n)

/-- Drops leading zeros and the underscores among them; a zero before a point and a final zero
stay. A sign keeps the text whole. -/
def dropLeadingZeros : List Char → Option (List Char)
  | [] => none
  | c :: cs =>
    if c == '-' || ('1' ≤ c && c ≤ '9') then some (c :: cs)
    else if c == '0' then zeros c cs
    else none
where
  /-- `last` is the character before the rest. -/
  zeros (last : Char) : List Char → Option (List Char)
    | [] => some [last]
    | d :: ds =>
      if d == '0' || d == '_' then zeros d ds
      else if '1' ≤ d && d ≤ '9' then some (d :: ds)
      else if d == '.' then some (last :: d :: ds)
      else none

def dropUnderscores (cs : List Char) : Option (List Char) :=
  if !cs.contains '_' then some cs
  else if cs.head? == some '_' || cs.getLast? == some '_' || doubled cs then none
  else some (cs.filter (· != '_'))
where
  /-- Whether two underscores stand together. -/
  doubled : List Char → Bool
    | '_' :: '_' :: _ => true
    | _ :: cs => doubled cs
    | [] => false

def dropZeroFraction (cs : List Char) : List Char :=
  match Text.cutFirst? '.' cs with
  | some (whole, fraction) =>
    if !fraction.isEmpty && fraction.all (· == '0') then whole else cs
  | none => cs

/-- Reads an integer written with blanks around it, a plus sign, leading zeros, underscores or a
zero fraction. -/
def looseInt? (cs : List Char) : Option (Bool × List Char) := do
  let cs := Text.trim Text.isSpace cs
  let cs ← match cs with
    | '+' :: rest => if rest.head? == some '-' then none else some rest
    | cs => some cs
  let cs ← dropLeadingZeros cs
  let cs ← dropUnderscores cs
  plainInt? (dropZeroFraction cs)

def readIntText (s : String) : Except Problem Int :=
  match plainInt? s.toList with
  | some (negative, ds) => intOfDigits negative ds
  | none =>
    match looseInt? s.toList with
    | some (negative, ds) => intOfDigits negative ds
    | none => .error .intUnread

/-- Reads an integer: itself, a truth value, a text, or a float without a fraction. -/
def readInt : Value → Except Problem Int
  | .bool b => .ok (if b then 1 else 0)
  | .int n => .ok n
  | .text s => readIntText s
  | .bytes bs =>
    match Text.decode bs with
    | .ok s => readIntText s
    | .error _ => .error .intUnread
  | .float x =>
    match x with
    | .nan | .infinity _ => .error .notFinite
    | x =>
      match x.toInt? with
      | none => .error .intFractional
      | some n => if -wordLimit < n && n < wordLimit then .ok n else .error .intTooLong
  | _ => .error .notInt

end InlineCheck.Validation
