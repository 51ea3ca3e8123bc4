import InlineCheck.Fault
import InlineCheck.Log

/-! # Arithmetic progressions

The integers from a start towards an exclusive stop in steps of a fixed size, of either sign.

* `Progression` — start, stop and step; `count`, `get` and `toList` describe its elements.
* `Progression.generate` — the elements as a list, refusing a zero step and sizes beyond what an
  index can count.
-/

namespace InlineCheck

open Number (isWritable)

/-- An arithmetic progression with an exclusive stop. -/
structure Progression where
  start : Int
  stop : Int
  step : Int
  deriving DecidableEq, Repr

namespace Progression

/-- How many elements there are: the distance over the step, rounded up, and none when the step
leads away from the stop or is zero. -/
def count (p : Progression) : Nat :=
  if 0 < p.step then ((p.stop - p.start + p.step - 1) / p.step).toNat
  else if p.step < 0 then ((p.start - p.stop - p.step - 1) / -p.step).toNat
  else 0

def get (p : Progression) (i : Nat) : Int :=
  p.start + i * p.step

def toList (p : Progression) : List Int :=
  (List.range p.count).map p.get

@[simp] theorem length_toList (p : Progression) : p.toList.length = p.count := by
  simp [toList]

/-- Sizes from here on cannot be counted by an index. -/
def sizeLimit : Nat := Nat.pow 2 63

/-- What a zero step is refused with. The refusal tells the bounds, so they have to be written
out. -/
def refusal (p : Progression) : Fault :=
  if isWritable p.start && isWritable p.stop then .zeroStep p.start p.stop p.step
  else .numberTooLong

def generate (p : Progression) : Except Fault (List Int) :=
  if p.step = 0 then .error p.refusal
  else if sizeLimit ≤ p.count then .error .tooManyElements
  else .ok p.toList

def log (p : Progression) : List LogRecord :=
  if p.step = 0 && isWritable p.start && isWritable p.stop then
    [⟨"tally.sequences", .debug, s!"Rejected zero-step range({p.start}, {p.stop})"⟩]
  else []

/-- The bounds of a progression as given by a caller: start and stop are needed, and the step is
one unless given. Each must stand for an integer, and the first that does not is at fault. -/
def ofArguments (start stop step : Option Value) : Except Fault Progression := do
  let missing := (if start.isNone then ["start"] else []) ++ (if stop.isNone then ["end"] else [])
  match start, stop with
  | some start, some stop =>
    let start ← start.toIndex
    let stop ← stop.toIndex
    let step ← (step.getD (.int 1)).toIndex
    return { start, stop, step }
  | _, _ => throw (.missingArguments "generate_range" missing)

def generateFrom (start stop step : Option Value) : Logged (Except Fault (List Int)) :=
  match ofArguments start stop step with
  | .ok p => { value := p.generate, log := p.log }
  | .error f => { value := .error f }

end Progression

end InlineCheck
