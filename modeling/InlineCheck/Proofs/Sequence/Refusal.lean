import InlineCheck.Sequence.Progression
import InlineCheck.Sequence.Slice
import Mathlib.Algebra.GroupWithZero.Nat

/-! # What is refused, and with what

A refusal tells the numbers that it is about, so it depends on whether they can be written out.

* `Number.isWritable_iff` — the integers that can be written out are those below a power of ten.
* `Number.refusal_of_short`, `Number.refusal_of_long` — so two numbers are told or left out.
* `Progression.refusal_of_short`, … — a step of zero; `Indexed.refusal_of_short`, … — offsets
  outside a sequence.
-/

namespace InlineCheck

namespace Number

theorem isWritable_iff {n : Int} : isWritable n = true ↔ n.natAbs < 10 ^ digitLimit := by
  rw [isWritable, decide_eq_true_eq]
  exact Nat.length_toDigits_le_iff (by decide) (by decide)

variable {α : Type} {told plain : α} {a b : Int}

theorem refusal_of_short (first : a.natAbs < 10 ^ digitLimit)
    (second : b.natAbs < 10 ^ digitLimit) :
    (if isWritable a && isWritable b then told else plain) = told := by
  rw [← isWritable_iff] at first second
  rw [first, second]
  rfl

/-- One number too many digits long is enough for a refusal that tells neither. -/
theorem refusal_of_long (long : 10 ^ digitLimit ≤ a.natAbs ∨ 10 ^ digitLimit ≤ b.natAbs) :
    (if isWritable a && isWritable b then told else plain) = plain := by
  simp only [← Nat.not_lt, ← isWritable_iff] at long
  rcases long with first | second
  · simp [first]
  · simp [second]

end Number

open Number (digitLimit)

namespace Progression

variable {p : Progression}

theorem refusal_of_short (start : p.start.natAbs < 10 ^ digitLimit)
    (stop : p.stop.natAbs < 10 ^ digitLimit) :
    p.refusal = .zeroStep p.start p.stop p.step :=
  Number.refusal_of_short start stop

theorem refusal_of_long
    (long : 10 ^ digitLimit ≤ p.start.natAbs ∨ 10 ^ digitLimit ≤ p.stop.natAbs) :
    p.refusal = .numberTooLong :=
  Number.refusal_of_long long

end Progression

namespace Indexed

variable {s : Indexed} {a b : Int}

theorem refusal_of_short (start : a.natAbs < 10 ^ digitLimit) (stop : b.natAbs < 10 ^ digitLimit) :
    s.refusal a b = .outOfRange a b s.length :=
  Number.refusal_of_short start stop

theorem refusal_of_long (long : 10 ^ digitLimit ≤ a.natAbs ∨ 10 ^ digitLimit ≤ b.natAbs) :
    s.refusal a b = .numberTooLong :=
  Number.refusal_of_long long

/-- No sequence that is shorter than the limit reaches as far as a number with too many digits. -/
theorem slice_far (a : Int) (few : s.length < digitLimit) :
    s.slice a (10 ^ digitLimit : Nat) = .error .numberTooLong := by
  have far : digitLimit < 10 ^ digitLimit := Nat.lt_pow_self (by decide)
  have outside : ¬InBounds a (10 ^ digitLimit : Nat) s.length := by
    unfold InBounds
    omega
  rw [slice, if_neg outside, refusal_of_long (.inr (Nat.le_of_eq (Int.natAbs_natCast _).symm))]

end Indexed

end InlineCheck
