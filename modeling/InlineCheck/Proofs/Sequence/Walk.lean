import InlineCheck.Proofs.Sequence.Refusal
import Mathlib.Algebra.Order.Floor.Ring
import Mathlib.Data.Rat.Floor

/-! # Walking along a progression

A progression can be walked: a value sets out from the start, is emitted and moved on by the step,
for as long as it has not reached the stop. The elements of a progression are given by their number
and their places instead, and both ways give the same list.

* `Ahead` — whether a value lies before the stop, seen along the step.
* `walk` — the values emitted on the way.
* `ahead_get_iff` — the element at a place lies before the stop exactly when the place is below the
  number of elements. What is known about that number follows from this.
* `extent` — the number of elements as a rounded quotient.
* `generated_as_walked` — what generating a progression gives or refuses, for all integers.
-/

namespace InlineCheck

namespace Progression

variable (p : Progression)

/-- Whether a value lies strictly before the stop in the direction of the step. -/
def Ahead (value : Int) : Prop :=
  0 < p.step ∧ value < p.stop ∨ p.step < 0 ∧ p.stop < value

instance (value : Int) : Decidable (p.Ahead value) :=
  inferInstanceAs (Decidable (_ ∨ _))

/-! ## The number of elements -/

theorem lt_roundedUp_iff {size : Int} (positive : 0 < size) (distance : Int) (i : Nat) :
    i < ((distance + size - 1) / size).toNat ↔ i * size < distance := by
  have next : ((i : Int) + 1) * size = i * size + size := by rw [Int.add_mul, Int.one_mul]
  rw [Int.lt_toNat, ← Int.add_one_le_iff, Int.le_ediv_iff_mul_le positive, next]
  omega

theorem ahead_get_iff (i : Nat) : p.Ahead (p.get i) ↔ i < p.count := by
  unfold Ahead get count
  rcases Int.lt_trichotomy 0 p.step with up | level | down
  · rw [if_pos up, lt_roundedUp_iff up]
    omega
  · simp [← level]
  -- Seen from the other side a descent is a climb by `-p.step`, and is rounded the same way.
  · have turned : p.start - p.stop - p.step - 1 = p.start - p.stop + -p.step - 1 := by omega
    have back : (i : Int) * -p.step = -(i * p.step) := Int.mul_neg _ _
    rw [if_neg (by omega), if_pos down, turned, lt_roundedUp_iff (by omega), back]
    omega

/-- The number of elements is the only number of which this is true. -/
theorem count_eq_of_ahead {n : Nat} (ahead : ∀ i, p.Ahead (p.get i) ↔ i < n) : p.count = n :=
  eq_of_forall_lt_iff fun i => (p.ahead_get_iff i).symm.trans (ahead i)

/-- The distance from start to stop over the step, rounded up, and not below zero. -/
def extent : Int :=
  max 0 ⌈((p.stop - p.start : Int) : ℚ) / p.step⌉

theorem ahead_get_iff_lt_quotient (i : Nat) :
    p.Ahead (p.get i) ↔ ((i : Int) : ℚ) < ((p.stop - p.start : Int) : ℚ) / p.step := by
  unfold Ahead get
  rcases Int.lt_trichotomy 0 p.step with up | level | down
  · rw [lt_div_iff₀ (by exact_mod_cast up)]
    norm_cast
    omega
  · simp [← level]
  · rw [lt_div_iff_of_neg (by exact_mod_cast down)]
    norm_cast
    omega

theorem extent_eq_count : p.extent = p.count := by
  have whole : (p.extent.toNat : Int) = p.extent := Int.toNat_of_nonneg (le_max_left _ _)
  have same : p.count = p.extent.toNat := by
    apply p.count_eq_of_ahead
    intro i
    -- No place is below a negative quotient, so the bound at zero changes nothing.
    rw [ahead_get_iff_lt_quotient, ← Int.lt_ceil, Int.lt_toNat, extent, lt_max_iff]
    omega
  rw [same, whole]

/-! ## The walk -/

/-- How far a value is from the stop, seen along the step. -/
def distance (value : Int) : Nat :=
  if 0 < p.step then (p.stop - value).toNat else (value - p.stop).toNat

theorem distance_step_lt {value : Int} (ahead : p.Ahead value) :
    p.distance (value + p.step) < p.distance value := by
  unfold distance
  rcases ahead with ⟨up, before⟩ | ⟨down, before⟩
  · rw [if_pos up, if_pos up]
    omega
  · rw [if_neg (by omega), if_neg (by omega)]
    omega

/-- Emits a value and moves on by the step, for as long as the value lies before the stop. -/
def walkFrom (value : Int) (emitted : List Int) : List Int :=
  if p.Ahead value then walkFrom (value + p.step) (emitted ++ [value]) else emitted
termination_by p.distance value
decreasing_by exact p.distance_step_lt ‹_›

/-- The values emitted from the start on. -/
def walk : List Int :=
  p.walkFrom p.start []

theorem walkFrom_get {i : Nat} (inside : i < p.count) :
    p.walkFrom (p.get i) ((List.range i).map p.get)
      = p.walkFrom (p.get (i + 1)) ((List.range (i + 1)).map p.get) := by
  have next : p.get i + p.step = p.get (i + 1) := by
    simp only [get, Int.natCast_add, Int.add_mul, Int.add_assoc, Int.cast_ofNat_Int, Int.one_mul]
  rw [walkFrom, if_pos ((p.ahead_get_iff i).mpr inside), next, List.range_succ, List.map_append]
  rfl

/-- The invariant of the walk: after `i` rounds it stands at place `i` and has emitted the elements
before it. -/
theorem walk_eq_walkFrom {i : Nat} (within : i ≤ p.count) :
    p.walk = p.walkFrom (p.get i) ((List.range i).map p.get) := by
  induction i with
  | zero => simp [walk, get]
  | succ i ih => rw [ih (by omega), p.walkFrom_get within]

theorem walk_eq_toList : p.walk = p.toList := by
  have reached : ¬p.Ahead (p.get p.count) := by simp [ahead_get_iff]
  rw [p.walk_eq_walkFrom (Nat.le_refl _), walkFrom, if_neg reached, toList]

/-! ## Elements -/

theorem getElem_toList {i : Nat} (inside : i < p.toList.length) :
    p.toList[i] = p.start + i * p.step := by
  simp [toList, get]

theorem mem_toList_iff {value : Int} :
    value ∈ p.toList ↔ (∃ i : Nat, value = p.start + i * p.step) ∧ p.Ahead value := by
  simp only [toList, List.mem_map, List.mem_range]
  constructor
  · rintro ⟨i, inside, rfl⟩
    exact ⟨⟨i, rfl⟩, (p.ahead_get_iff i).mpr inside⟩
  · rintro ⟨⟨i, rfl⟩, ahead⟩
    exact ⟨i, (p.ahead_get_iff i).mp ahead, rfl⟩

/-! ## Generating -/

/-- What a caller gets who asks for the progression with these bounds. -/
def asked : Except Fault (List Int) :=
  (generateFrom (some (.int p.start)) (some (.int p.stop)) (some (.int p.step))).value

theorem asked_eq_generate : p.asked = p.generate := rfl

theorem sizeLimit_le_count_iff : sizeLimit ≤ p.count ↔ 2 ^ 63 ≤ p.extent := by
  have limit : (sizeLimit : Int) = 2 ^ 63 := rfl
  rw [extent_eq_count, ← limit, Int.ofNat_le]

variable {p}

theorem asked_of_countable (moves : p.step ≠ 0) (countable : p.extent < 2 ^ 63) :
    p.asked = .ok p.toList := by
  rw [asked_eq_generate, generate, if_neg moves, if_neg]
  rw [sizeLimit_le_count_iff]
  exact Int.not_le.mpr countable

theorem asked_of_uncountable (moves : p.step ≠ 0) (uncountable : 2 ^ 63 ≤ p.extent) :
    p.asked = .error .tooManyElements := by
  rw [asked_eq_generate, generate, if_neg moves, if_pos]
  exact p.sizeLimit_le_count_iff.mpr uncountable

theorem asked_of_still (still : p.step = 0) : p.asked = .error p.refusal :=
  if_pos still

end Progression

/-- Asking for a progression gives the values of the walk along it: as many as the distance over the
step, rounded up, each at its place, and all values on the way that lie before the stop. Too many
elements and a zero step are refused. The refusal of a zero step carries all three numbers, but only
if its bounds can be written out; otherwise it is a plain one. -/
theorem generated_as_walked (p : Progression) :
    (p.step ≠ 0 → p.extent < 2 ^ 63 →
      ∃ xs, p.asked = .ok xs ∧ xs = p.walk
        ∧ (xs.length : Int) = max 0 ⌈((p.stop - p.start : Int) : ℚ) / p.step⌉
        ∧ (∀ i (inside : i < xs.length), xs[i] = p.start + i * p.step)
        ∧ ∀ x, x ∈ xs ↔ (∃ i : Nat, x = p.start + i * p.step)
            ∧ (0 < p.step ∧ x < p.stop ∨ p.step < 0 ∧ p.stop < x))
    ∧ (p.step ≠ 0 → 2 ^ 63 ≤ p.extent → ∃ f, p.asked = .error f ∧ f.kind = "OverflowError")
    ∧ (p.step = 0 → p.start.natAbs < 10 ^ Number.digitLimit →
        p.stop.natAbs < 10 ^ Number.digitLimit →
        ∃ f, p.asked = .error f ∧ f.kind = "InvalidStepError"
          ∧ f.describe.data
            = [("start", .int p.start), ("end", .int p.stop), ("step", .int p.step)])
    ∧ (p.step = 0 →
        (10 ^ Number.digitLimit ≤ p.start.natAbs ∨ 10 ^ Number.digitLimit ≤ p.stop.natAbs) →
        ∃ f, p.asked = .error f ∧ f.kind = "ValueError" ∧ f.describe.data = []) := by
  refine ⟨fun moves countable => ?_, fun moves uncountable => ?_, fun still start stop => ?_,
    fun still long => ?_⟩
  · refine ⟨p.toList, Progression.asked_of_countable moves countable, p.walk_eq_toList.symm, ?_,
      fun i => p.getElem_toList, fun x => p.mem_toList_iff⟩
    rw [p.length_toList, ← p.extent_eq_count]
    rfl
  · exact ⟨_, Progression.asked_of_uncountable moves uncountable, rfl⟩
  · exact ⟨_, Progression.asked_of_still still, by
      rw [Progression.refusal_of_short start stop]
      exact ⟨rfl, rfl⟩⟩
  · exact ⟨_, Progression.asked_of_still still, by
      rw [Progression.refusal_of_long long]
      exact ⟨rfl, rfl⟩⟩

/-- A descent whose last step overshoots the stop, the least number of elements that is refused, and
a step that leads nowhere, with bounds that can be written out and with one that cannot. -/
theorem descents_as_walked :
    ((⟨7, -4, -3⟩ : Progression).extent < 2 ^ 63
      ∧ (⟨7, -4, -3⟩ : Progression).asked = .ok (⟨7, -4, -3⟩ : Progression).walk)
    ∧ (2 ^ 63 ≤ (⟨0, -(2 ^ 64), -2⟩ : Progression).extent
      ∧ ∃ f, (⟨0, -(2 ^ 64), -2⟩ : Progression).asked = .error f ∧ f.kind = "OverflowError")
    ∧ (∃ f, (⟨7, -4, 0⟩ : Progression).asked = .error f ∧ f.kind = "InvalidStepError")
    ∧ ∃ f, (⟨(10 ^ Number.digitLimit : Nat), -4, 0⟩ : Progression).asked = .error f
      ∧ f.kind = "ValueError" := by
  have few : (⟨7, -4, -3⟩ : Progression).extent < 2 ^ 63 := by
    rw [Progression.extent_eq_count]
    decide
  have many : 2 ^ 63 ≤ (⟨0, -(2 ^ 64), -2⟩ : Progression).extent := by
    rw [Progression.extent_eq_count]
    decide
  obtain ⟨xs, generated, walked, -⟩ := (generated_as_walked ⟨7, -4, -3⟩).1 (by decide) few
  obtain ⟨f, refused, kind, -⟩ := (generated_as_walked ⟨7, -4, 0⟩).2.2.1 rfl
    (Number.isWritable_iff.mp rfl) (Number.isWritable_iff.mp rfl)
  obtain ⟨g, refused', kind', -⟩ :=
    (generated_as_walked ⟨(10 ^ Number.digitLimit : Nat), -4, 0⟩).2.2.2 rfl
      (.inl (Nat.le_of_eq (Int.natAbs_natCast _).symm))
  refine ⟨⟨few, walked ▸ generated⟩, ⟨many, ?_⟩, ⟨f, refused, kind⟩, ⟨g, refused', kind'⟩⟩
  exact (generated_as_walked ⟨0, -(2 ^ 64), -2⟩).2.1 (by decide) many

/-- A start with one digit too many, and a step of zero: what is raised carries nothing. -/
theorem zeroStep_untold :
    ¬∃ f, (⟨(10 ^ Number.digitLimit : Nat), 0, 0⟩ : Progression).asked = .error f
      ∧ f.kind = "InvalidStepError" := by
  have plain : (⟨(10 ^ Number.digitLimit : Nat), 0, 0⟩ : Progression).asked
      = .error .numberTooLong := by
    rw [Progression.asked_of_still rfl, Progression.refusal_of_long]
    exact .inl (Nat.le_of_eq (Int.natAbs_natCast _).symm)
  rintro ⟨f, refused, kind⟩
  rw [plain] at refused
  cases refused
  exact absurd kind (by decide)

end InlineCheck
