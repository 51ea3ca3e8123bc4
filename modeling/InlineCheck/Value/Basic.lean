import InlineCheck.Number.Shortest
import InlineCheck.Text.Bytes
import InlineCheck.Text.Quoted

/-! # Values

The dynamic values that checks, sequences and settings work on.

* `Value` — the values themselves.
* `Value.typeName` — the name a value's type has in messages.
* `Value.same` — equality as used to look up keys: numbers of all kinds compare by magnitude.
-/

namespace InlineCheck

open Number (Binary64)

structure Day where
  year : Nat
  month : Nat
  day : Nat
  deriving DecidableEq, Repr

structure Clock where
  hour : Nat
  minute : Nat
  second : Nat
  micro : Nat
  deriving DecidableEq, Repr

/-- A date, a time of day, or both; a date with a time may have an offset in minutes from universal
time. -/
inductive Moment where
  | day (d : Day)
  | clock (c : Clock)
  | both (d : Day) (c : Clock) (offset : Option Int)
  deriving DecidableEq, Repr

/-- What an object answers when asked for its truth. -/
inductive Truth where
  | holds (b : Bool)
  | ambiguous
  deriving DecidableEq, Repr

/-- A dynamic value. -/
inductive Value where
  | null
  | bool (b : Bool)
  | int (n : Int)
  | float (x : Binary64)
  | text (s : String)
  | bytes (bs : List UInt8)
  | list (xs : List Value)
  | tuple (xs : List Value)
  | set (xs : List Value)
  | dict (entries : List (Value × Value))
  | range (start stop step : Int)
  | moment (m : Moment)
  /-- An object that stands for an index; what it gives may fail to be an integer. -/
  | index (given : Value)
  /-- An object known by its truth, its text if it has one, and its shown form. -/
  | object (truth : Truth) (display : Option String) (shown : String)
  deriving Repr, Inhabited

namespace Value

def typeName : Value → String
  | .null => "NoneType"
  | .bool _ => "bool"
  | .int _ => "int"
  | .float _ => "float"
  | .text _ => "str"
  | .bytes _ => "bytes"
  | .list _ => "list"
  | .tuple _ => "tuple"
  | .set _ => "set"
  | .dict _ => "dict"
  | .range .. => "range"
  | .moment (.day _) => "date"
  | .moment (.clock _) => "time"
  | .moment (.both ..) => "datetime"
  | .index _ => "Index"
  | .object .. => "Obj"

/-! ## Equality of keys -/

def number? : Value → Option (Int ⊕ Binary64)
  | .bool b => some (.inl (if b then 1 else 0))
  | .int n => some (.inl n)
  | .float x => some (match x.toInt? with | some n => .inl n | none => .inr x)
  | _ => none

mutual
/-- Whether two values are the same key. -/
def same : Value → Value → Bool
  | .null, .null => true
  | .text s, .text t => s == t
  | .bytes s, .bytes t => s == t
  | .tuple xs, .tuple ys => sameAll xs ys
  | .range a b c, .range a' b' c' => a == a' && b == b' && c == c'
  | .moment m, .moment m' => m == m'
  | v, w =>
    match v.number?, w.number? with
    | some (.inl m), some (.inl n) => m == n
    | some (.inr x), some (.inr y) => x.same y
    | _, _ => false
def sameAll : List Value → List Value → Bool
  | [], [] => true
  | x :: xs, y :: ys => same x y && sameAll xs ys
  | _, _ => false
end

def lookup (key : Value) : List (Value × Value) → Option Value
  | [] => none
  | (k, v) :: rest => if k.same key then some v else lookup key rest

/-- The entries with one more; an entry of the same key keeps its place and its key. -/
def insert (key value : Value) : List (Value × Value) → List (Value × Value)
  | [] => [(key, value)]
  | (k, v) :: rest => if k.same key then (k, value) :: rest else (k, v) :: insert key value rest

def update (entries others : List (Value × Value)) : List (Value × Value) :=
  others.foldl (fun es (k, v) => insert k v es) entries

def ofPairs (pairs : List (Value × Value)) : Value :=
  .dict (update [] pairs)

def ofElements (xs : List Value) : Value :=
  .set (xs.foldl (fun es x => if es.any (·.same x) then es else es ++ [x]) [])

end Value

end InlineCheck
