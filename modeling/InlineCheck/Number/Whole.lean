import InlineCheck.Text.Blank
import InlineCheck.Text.Decimals

/-! # Whole numbers as text

Integers are written out and read up to a number of digits.

* `isWritable` — whether an integer can be written out at all.
* `readWhole` — the number that digits of any script make, or why they make none.
* `readInt?` — the same with a sign, with blanks around it, and with underscores between digits.
-/

namespace InlineCheck.Number

/-- How many digits an integer may have to be written out or read. -/
def digitLimit : Nat := 4300

def isWritable (n : Int) : Bool :=
  (Nat.toDigits 10 n.natAbs).length ≤ digitLimit

inductive WholeFault where
  | notNumber (text : String)
  | tooLong (digits : Nat)
  deriving DecidableEq, Repr

/-- The value of a decimal digit. Every script has its digits in rows of ten. -/
def decimalValue (c : Char) : Nat :=
  match Text.digitRanges.find? fun (low, high) => low ≤ c.toNat && c.toNat ≤ high with
  | some (low, _) => (c.toNat - low) % 10
  | none => 0

def readWhole (cs : List Char) : Except WholeFault Nat :=
  let ds := cs.takeWhile Text.isDecimal
  -- digits are counted before what follows them is looked at
  if digitLimit < ds.length then .error (.tooLong ds.length)
  else if ds.isEmpty || ds.length < cs.length then .error (.notNumber (String.ofList cs))
  else .ok (ds.foldl (fun n c => 10 * n + decimalValue c) 0)

def joinDigits? : List Char → Option (List Char)
  | [] => some []
  | [c] => if c = '_' then none else some [c]
  | c :: d :: cs =>
    if c = '_' then none
    else if d = '_' then (joinDigits? cs).bind fun ds => if ds.isEmpty then none else some (c :: ds)
    else (joinDigits? (d :: cs)).map (c :: ·)

def readInt? (cs : List Char) : Option Int :=
  let cs := Text.trim Text.isSpace cs
  let (negative, cs) :=
    match cs with
    | '-' :: rest => (true, rest)
    | '+' :: rest => (false, rest)
    | rest => (false, rest)
  match (joinDigits? cs).map readWhole with
  | some (.ok n) => some (if negative then -(n : Int) else n)
  | _ => none

end InlineCheck.Number
