import InlineCheck.Sequence.Progression

/-! # Slices

A piece of a sequence between two offsets. Offsets are never clamped: unless they describe a
non-empty piece inside the sequence, there is no slice.

* `Indexed` — what a value offers to a slice: a length and elements by place.
* `Indexed.slice` — the piece, or the fault that refuses it.
-/

namespace InlineCheck

open Number (isWritable)

/-- A value seen as a sequence. -/
inductive Indexed where
  /-- Elements in order. -/
  | elements (xs : List Value)
  /-- The elements of a progression, which is never written out. -/
  | progression (p : Progression)
  /-- Entries found by key: the place is looked up as a key. -/
  | entries (es : List (Value × Value))
  /-- A collection with a size and no places. -/
  | unordered (type : String) (size : Nat)
  deriving Repr

namespace Indexed

/-- What a value offers: texts give their characters and byte strings their numbers. -/
def ofValue : Value → Except Fault Indexed
  | .list xs => .ok (.elements xs)
  | .tuple xs => .ok (.elements xs)
  | .text s => .ok (.elements (s.toList.map fun c => .text c.toString))
  | .bytes bs => .ok (.elements (bs.map fun b => .int b.toNat))
  | .range start stop step =>
    let p : Progression := { start, stop, step }
    if Progression.sizeLimit ≤ p.count then .error .tooManyElements else .ok (.progression p)
  | .dict es => .ok (.entries es)
  | .set xs => .ok (.unordered "set" xs.length)
  | v => .error (.noLength v.typeName)

def length : Indexed → Nat
  | .elements xs => xs.length
  | .progression p => p.count
  | .entries es => es.length
  | .unordered _ n => n

def take (i n : Nat) : Indexed → Except Fault (List Value)
  | .elements xs => .ok ((xs.drop i).take n)
  | .progression p => .ok ((List.range n).map fun j => .int (p.get (i + j)))
  | .entries es =>
    (List.range n).mapM fun j =>
      match Value.lookup (.int (i + j : Nat)) es with
      | some v => .ok v
      | none => .error (.missingKey (i + j : Nat))
  | .unordered type _ => .error (.notSubscriptable type)

/-- Whether two offsets describe a non-empty piece of a sequence of a length. -/
def InBounds (start stop : Int) (length : Nat) : Prop :=
  0 ≤ start ∧ start < stop ∧ stop ≤ length

instance (start stop : Int) (length : Nat) : Decidable (InBounds start stop length) :=
  inferInstanceAs (Decidable (_ ∧ _ ∧ _))

/-- What offsets are refused with. The refusal tells them, so they have to be written out; a length
always can be. -/
def refusal (s : Indexed) (start stop : Int) : Fault :=
  if isWritable start && isWritable stop then .outOfRange start stop s.length else .numberTooLong

def slice (s : Indexed) (start stop : Int) : Except Fault (List Value) :=
  if InBounds start stop s.length then s.take start.toNat (stop - start).toNat
  else .error (s.refusal start stop)

def sliceLog (s : Indexed) (start stop : Int) : List LogRecord :=
  if InBounds start stop s.length || !(isWritable start && isWritable stop) then []
  else
    [⟨"tally.sequences", .debug, s!"Rejected slice [{start}:{stop}] of length {s.length}"⟩]

end Indexed

/-- Takes a slice as a caller asks for it: the offsets must stand for integers and the source must
have a length, looked at in this order. -/
def sliceFrom (source start stop : Value) : Logged (Except Fault (List Value)) :=
  match start.toIndex with
  | .error f => { value := .error f }
  | .ok start =>
    match stop.toIndex with
    | .error f => { value := .error f }
    | .ok stop =>
      match Indexed.ofValue source with
      | .error f => { value := .error f }
      | .ok s => { value := s.slice start stop, log := s.sliceLog start stop }

end InlineCheck
