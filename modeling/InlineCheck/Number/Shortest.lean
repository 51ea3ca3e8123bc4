import InlineCheck.Number.Binary64

/-! # Decimal text of binary floating point

The shortest decimal that reads back as the number, the notation that writes it, and the reading
of decimal texts.

For 1, 2, … 17 digits the two neighbours of the number on that decimal grid are tried; the first
grid with a neighbour inside the rounding interval wins, and of two the nearer.
-/

namespace InlineCheck.Number

def digitCount (n : Nat) : Nat :=
  if n = 0 then 0 else (Nat.toDigits 10 n).length

def decimalExponent (num den : Nat) : Int :=
  if den ≤ num then (digitCount (num / den) : Int) - 1
  else -(digitCount ((den - 1) / num) : Int)

def overPowerOfTen (num den : Nat) (k : Int) : Nat × Nat :=
  if 0 ≤ k then (num, den * Nat.pow 10 k.toNat) else (num * Nat.pow 10 (-k).toNat, den)

/-- The interval of reals that round to a number, over a common denominator, and whether its ends
belong to it. -/
structure Interval where
  low : Nat
  value : Nat
  high : Nat
  den : Nat
  closed : Bool

/-- The rounding interval of `m * 2 ^ e`. The gap below a power of two is half the gap above. -/
def Interval.around (m : Nat) (e : Int) : Interval :=
  let narrow := m = Nat.pow 2 (Binary64.precision - 1) && Binary64.minExponent < e
  let up := if 2 ≤ e then Nat.pow 2 (e - 2).toNat else 1
  let den := if 2 ≤ e then 1 else Nat.pow 2 (2 - e).toNat
  { low := (if narrow then 4 * m - 1 else 4 * m - 2) * up
    value := 4 * m * up
    high := (4 * m + 2) * up
    den
    closed := m % 2 = 0 }

def Interval.holds (i : Interval) (c : Nat) (k : Int) : Bool :=
  let (n, d) := if 0 ≤ k then (c * Nat.pow 10 k.toNat, 1) else (c, Nat.pow 10 (-k).toNat)
  let low := i.low * d
  let high := i.high * d
  let x := n * i.den
  if i.closed then low ≤ x && x ≤ high else low < x && x < high

/-- The decimal of at most `digits` digits in the interval that is nearest to its value, as digits
and a power of ten. -/
def Interval.withDigits (i : Interval) (digits : Nat) : Option (Nat × Int) :=
  let k := decimalExponent i.value i.den - (digits : Int) + 1
  let (n, d) := overPowerOfTen i.value i.den k
  let below := n / d
  let above := below + 1
  match i.holds below k, i.holds above k with
  | true, true =>
    let r := n % d
    if 2 * r < d || (2 * r = d && below % 2 = 0) then some (below, k) else some (above, k)
  | true, false => some (below, k)
  | false, true => some (above, k)
  | false, false => none

def Interval.shortestFrom (i : Interval) (digits : Nat) : Nat → Nat × Int
  | 0 => (i.value / i.den, 0)
  | tries + 1 =>
    match i.withDigits digits with
    | some r => r
    | none => i.shortestFrom (digits + 1) tries

def shortest (m : Nat) (e : Int) : Nat × Int :=
  (Interval.around m e).shortestFrom 1 17

def dropZeros (ds : List Char) : List Char :=
  (ds.reverse.dropWhile (· == '0')).reverse

/-- Writes the digits `ds` of a decimal `d.ddd * 10 ^ k`: positional from `10 ^ -4` to below
`10 ^ 16`, with an exponent of at least two digits elsewhere. -/
def decimalText (ds : List Char) (k : Int) : List Char :=
  if -4 ≤ k && k < 16 then
    if 0 ≤ k then
      let whole := k.toNat + 1
      let body := ds.take whole ++ List.replicate (whole - ds.length) '0'
      let rest := ds.drop whole
      body ++ '.' :: (if rest.isEmpty then ['0'] else rest)
    else '0' :: '.' :: (List.replicate ((-k).toNat - 1) '0' ++ ds)
  else
    let mantissa :=
      match ds with
      | [] => ['0']
      | d :: rest => if rest.isEmpty then [d] else d :: '.' :: rest
    let size := Nat.toDigits 10 k.natAbs
    let size := if size.length < 2 then '0' :: size else size
    mantissa ++ 'e' :: (if k < 0 then '-' else '+') :: size

namespace Binary64

/-- The text of a number: the shortest decimal that reads back. -/
def text : Binary64 → String
  | .nan => "nan"
  | .infinity negative => if negative then "-inf" else "inf"
  | .finite negative m e =>
    let sign := if negative then "-" else ""
    if m = 0 then sign ++ "0.0"
    else
      let (digits, k) := shortest m e
      let ds := Nat.toDigits 10 digits
      sign ++ String.ofList (decimalText (dropZeros ds) (k + ds.length - 1))

def fixed (places : Nat) : Binary64 → String
  | .nan => "nan"
  | .infinity negative => if negative then "-inf" else "inf"
  | .finite negative m e =>
    let (n, d) := if 0 ≤ e then (m * Nat.pow 2 e.toNat, 1) else (m, Nat.pow 2 (-e).toNat)
    let ds := Nat.toDigits 10 (roundQuotient (n * Nat.pow 10 places) d)
    let ds := List.replicate (places + 1 - ds.length) '0' ++ ds
    let whole := ds.take (ds.length - places)
    let rest := ds.drop (ds.length - places)
    (if negative then "-" else "") ++ String.ofList whole
      ++ (if places = 0 then "" else "." ++ String.ofList rest)

/-! ## Reading -/

def digitsValue (ds : List Char) : Nat :=
  ds.foldl (fun n c => 10 * n + (c.toNat - '0'.toNat)) 0

def readDigits : Bool → List Char → List Char × List Char
  | _, [] => ([], [])
  | after, c :: cs =>
    if c.isDigit then
      let (ds, rest) := readDigits true cs
      (c :: ds, rest)
    else if after && c == '_' then
      match cs with
      | d :: _ => if d.isDigit then readDigits false cs else ([], c :: cs)
      | [] => ([], [c])
    else ([], c :: cs)

/-- The optional exponent that ends a decimal; `none` when something else follows. -/
def readExponent : List Char → Option Int
  | [] => some 0
  | c :: cs =>
    if c == 'e' || c == 'E' then
      let (negative, cs) :=
        match cs with
        | '-' :: r => (true, r)
        | '+' :: r => (false, r)
        | r => (false, r)
      match readDigits false cs with
      | ([], _) => none
      | (ds, []) => some (if negative then -(digitsValue ds : Int) else digitsValue ds)
      | _ => none
    else none

/-- The number `digits * 10 ^ k`. Far exponents are cut where nothing changes any more. -/
def ofDecimal (negative : Bool) (digits : Nat) (k : Int) : Binary64 :=
  if digits = 0 then .finite negative 0 0
  else if 400 < k then .infinity negative
  else if k < -(400 + digitCount digits : Int) then .finite negative 0 0
  else if 0 ≤ k then ofRatio negative (digits * Nat.pow 10 k.toNat) 1
  else ofRatio negative digits (Nat.pow 10 (-k).toNat)

def readMagnitude (negative : Bool) (cs : List Char) : Option Binary64 :=
  let name := cs.map Char.toLower
  if name = "inf".toList || name = "infinity".toList then some (.infinity negative)
  else if name = "nan".toList then some .nan
  else
    let (whole, rest) := readDigits false cs
    let (part, rest) :=
      match rest with
      | '.' :: r => readDigits false r
      | r => ([], r)
    if whole.isEmpty && part.isEmpty then none
    else
      (readExponent rest).map fun k =>
        ofDecimal negative (digitsValue (whole ++ part)) (k - part.length)

def read? : List Char → Option Binary64
  | '-' :: cs => readMagnitude true cs
  | '+' :: cs => readMagnitude false cs
  | cs => readMagnitude false cs

end Binary64

end InlineCheck.Number
