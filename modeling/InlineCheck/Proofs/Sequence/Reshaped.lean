import InlineCheck.Proofs.Sequence.Walk

/-! # Pieces and reflections of a progression

What is cut out of a progression, its mirror image at zero and its reversal are progressions again.

* `piece`, `mirrored`, `reversed` — the three, each with the list of its elements.
* `slice_of_generated` — a slice of a generated progression is generated by its own bounds.
* `generated_symmetric` — the mirror image and the reversal are generated by theirs.
-/

namespace InlineCheck

namespace Progression

variable (p : Progression)

/-- A stop that lies a whole number of steps away is reached in that many steps. -/
theorem count_of_steps (moves : p.step ≠ 0) {n : Int} (away : p.stop = p.start + n * p.step) :
    p.count = n.toNat := by
  apply count_eq_of_ahead
  intro i
  rw [Ahead, get, away, Int.lt_toNat]
  rcases Int.lt_or_gt_of_ne moves with down | up
  -- `omega` takes the two products for unknowns, so it is told how they compare.
  · have fewer : n * p.step < i * p.step ↔ (i : Int) < n := mul_lt_mul_right_of_neg down
    omega
  · have fewer : i * p.step < n * p.step ↔ (i : Int) < n := Int.mul_lt_mul_right up
    omega

/-! ## Pieces -/

/-- The elements from place `i` to before place `j`. -/
def piece (i j : Int) : Progression where
  start := p.start + i * p.step
  stop := p.start + j * p.step
  step := p.step

theorem count_piece (moves : p.step ≠ 0) (i j : Int) : (p.piece i j).count = (j - i).toNat := by
  apply (p.piece i j).count_of_steps moves
  simp only [piece, Int.sub_mul]
  omega

theorem toList_piece (moves : p.step ≠ 0) {i j : Int} (low : 0 ≤ i) (high : j ≤ p.count) :
    (p.piece i j).toList = (p.toList.drop i.toNat).take (j - i).toNat := by
  apply List.ext_getElem
  · simp only [length_toList, count_piece _ moves, List.length_take, List.length_drop]
    omega
  · intro a _ _
    have place : ((i.toNat + a : Nat) : Int) * p.step = i * p.step + a * p.step := by
      rw [Int.natCast_add, Int.toNat_of_nonneg low, Int.add_mul]
    rw [List.getElem_take, List.getElem_drop, getElem_toList, getElem_toList, place]
    simp only [piece]
    omega

/-! ## Reflections -/

/-- The progression with all signs changed. -/
def mirrored : Progression where
  start := -p.start
  stop := -p.stop
  step := -p.step

theorem count_mirrored : p.mirrored.count = p.count := by
  apply count_eq_of_ahead
  intro i
  have place : p.mirrored.get i = -p.get i := by
    simp only [get, mirrored, Int.mul_neg]
    omega
  rw [← ahead_get_iff, place]
  simp only [Ahead, mirrored]
  omega

theorem toList_mirrored : p.mirrored.toList = p.toList.map (- ·) := by
  simp only [toList, count_mirrored, List.map_map]
  apply List.map_congr_left
  intro i _
  simp only [Function.comp, get, mirrored, Int.mul_neg]
  omega

/-- The progression from its last element back to the first. -/
def reversed : Progression where
  start := p.start + (p.extent - 1) * p.step
  stop := p.start - p.step
  step := -p.step

theorem count_reversed (moves : p.step ≠ 0) : p.reversed.count = p.count := by
  have steps : p.reversed.count = p.extent.toNat := by
    apply p.reversed.count_of_steps (Int.neg_ne_zero.mpr moves)
    simp only [reversed, Int.sub_mul, Int.mul_neg, Int.one_mul]
    omega
  rw [steps, extent_eq_count, Int.toNat_natCast]

theorem toList_reversed (moves : p.step ≠ 0) : p.reversed.toList = p.toList.reverse := by
  apply List.ext_getElem
  · simp [count_reversed _ moves]
  · intro a inside _
    rw [length_toList, count_reversed _ moves] at inside
    have place : ((p.count - 1 - a : Nat) : Int) * p.step
        = (p.count - 1) * p.step - a * p.step := by
      rw [← Int.sub_mul]
      congr 1
      omega
    rw [List.getElem_reverse, getElem_toList, getElem_toList, length_toList, place]
    simp only [reversed, extent_eq_count, Int.mul_neg]
    omega

end Progression

/-- The piece of a generated progression between two places inside it is generated by the elements
at these places; any other two places are refused. The refusal carries them and the number of
elements, but only if both can be written out; otherwise it is a plain one. -/
theorem slice_of_generated (p : Progression) (i j : Int) (moves : p.step ≠ 0)
    (countable : p.extent < 2 ^ 63) :
    ∃ xs, p.asked = .ok xs
      ∧ (0 ≤ i ∧ i < j ∧ j ≤ p.extent →
        ∃ ys, (⟨p.start + i * p.step, p.start + j * p.step, p.step⟩ : Progression).asked = .ok ys
          ∧ (sliceFrom (.list (xs.map .int)) (.int i) (.int j)).value = .ok (ys.map .int))
      ∧ (¬(0 ≤ i ∧ i < j ∧ j ≤ p.extent) →
        i.natAbs < 10 ^ Number.digitLimit → j.natAbs < 10 ^ Number.digitLimit →
        ∃ f, (sliceFrom (.list (xs.map .int)) (.int i) (.int j)).value = .error f
          ∧ f.kind = "OutOfRangeError"
          ∧ f.describe.data
            = [("start", .int i), ("end", .int j), ("length", .int p.extent)])
      ∧ (¬(0 ≤ i ∧ i < j ∧ j ≤ p.extent) →
        (10 ^ Number.digitLimit ≤ i.natAbs ∨ 10 ^ Number.digitLimit ≤ j.natAbs) →
        ∃ f, (sliceFrom (.list (xs.map .int)) (.int i) (.int j)).value = .error f
          ∧ f.kind = "ValueError" ∧ f.describe.data = []) := by
  have bounds : Indexed.InBounds i j (p.toList.map Value.int).length
      ↔ 0 ≤ i ∧ i < j ∧ j ≤ p.extent := by
    rw [List.length_map, p.length_toList, p.extent_eq_count]
    rfl
  have refused (outside : ¬(0 ≤ i ∧ i < j ∧ j ≤ p.extent)) :
      (sliceFrom (.list (p.toList.map .int)) (.int i) (.int j)).value
        = .error ((Indexed.elements (p.toList.map .int)).refusal i j) :=
    if_neg (mt bounds.mp outside)
  refine ⟨_, Progression.asked_of_countable moves countable, fun inside => ?_,
    fun outside start stop => ?_, fun outside long => ?_⟩
  · have within : (p.piece i j).extent < 2 ^ 63 := by
      rw [Progression.extent_eq_count, p.count_piece moves]
      omega
    refine ⟨_, Progression.asked_of_countable (p := p.piece i j) moves within, ?_⟩
    rw [p.toList_piece moves inside.1 (p.extent_eq_count ▸ inside.2.2), List.map_take,
      List.map_drop]
    exact if_pos (bounds.mpr inside)
  · refine ⟨_, refused outside, ?_⟩
    rw [Indexed.refusal_of_short start stop]
    simp [Fault.kind, Fault.describe, Indexed.length, p.extent_eq_count]
  · refine ⟨_, refused outside, ?_⟩
    rw [Indexed.refusal_of_long long]
    exact ⟨rfl, rfl⟩

/-- Two elements in the middle of a descent, a piece that goes one place beyond its end, and one
whose end cannot be written out. -/
theorem descent_sliced :
    (⟨10, -5, -4⟩ : Progression).extent = 4
    ∧ (⟨6, -2, -4⟩ : Progression).asked = .ok [6, 2]
    ∧ (sliceFrom (.list [.int 10, .int 6, .int 2, .int (-2)]) (.int 1) (.int 3)).value
      = .ok [.int 6, .int 2]
    ∧ (∃ f, (sliceFrom (.list [.int 10, .int 6, .int 2, .int (-2)]) (.int 3) (.int 5)).value
      = .error f ∧ f.kind = "OutOfRangeError")
    ∧ ∃ f, (sliceFrom (.list [.int 10, .int 6, .int 2, .int (-2)]) (.int 3)
        (.int (-(10 ^ Number.digitLimit : Nat)))).value = .error f ∧ f.kind = "ValueError" := by
  have four : (⟨10, -5, -4⟩ : Progression).extent = 4 := Progression.extent_eq_count _
  have few : (⟨10, -5, -4⟩ : Progression).extent < 2 ^ 63 := by
    rw [four]
    decide
  obtain ⟨xs, generated, inside, -⟩ := slice_of_generated ⟨10, -5, -4⟩ 1 3 (by decide) few
  cases generated
  obtain ⟨ys, piece, sliced⟩ := inside (by rw [four]; decide)
  cases piece
  obtain ⟨xs, generated, -, outside, -⟩ := slice_of_generated ⟨10, -5, -4⟩ 3 5 (by decide) few
  cases generated
  obtain ⟨f, refused, kind, -⟩ := outside (by rw [four]; decide) (Number.isWritable_iff.mp rfl)
    (Number.isWritable_iff.mp rfl)
  obtain ⟨xs, generated, -, -, long⟩ :=
    slice_of_generated ⟨10, -5, -4⟩ 3 (-(10 ^ Number.digitLimit : Nat)) (by decide) few
  cases generated
  have before (n : Nat) : ¬(3 : Int) < -n := by omega
  obtain ⟨g, refused', kind', -⟩ := long (fun inside => before _ inside.2.1)
    (.inr (Nat.le_of_eq ((Int.natAbs_neg _).trans (Int.natAbs_natCast _)).symm))
  exact ⟨four, rfl, sliced, ⟨f, refused, kind⟩, g, refused', kind'⟩

/-- A piece of three elements whose end has one digit too many: what is raised carries nothing. -/
theorem farEnd_untold :
    ¬∃ f, (sliceFrom (.list [.int 0, .int 1, .int 2]) (.int 0)
        (.int (10 ^ Number.digitLimit : Nat))).value = .error f ∧ f.kind = "OutOfRangeError" := by
  have asked (n : Int) : (sliceFrom (.list [.int 0, .int 1, .int 2]) (.int 0) (.int n)).value
      = (Indexed.elements [.int 0, .int 1, .int 2]).slice 0 n := rfl
  rintro ⟨f, refused, kind⟩
  rw [asked, Indexed.slice_far 0 (by decide)] at refused
  cases refused
  exact absurd kind (by decide)

/-- Changing all signs, or walking back from the last element, gives the same elements with their
signs changed, or in the opposite order. -/
theorem generated_symmetric (p : Progression) (moves : p.step ≠ 0)
    (countable : p.extent < 2 ^ 63) :
    ∃ xs, p.asked = .ok xs
      ∧ (⟨-p.start, -p.stop, -p.step⟩ : Progression).asked = .ok (xs.map (- ·))
      ∧ (⟨p.start + (p.extent - 1) * p.step, p.start - p.step, -p.step⟩ : Progression).asked
        = .ok xs.reverse := by
  have back : -p.step ≠ 0 := Int.neg_ne_zero.mpr moves
  have mirrored : p.mirrored.extent < 2 ^ 63 := by
    rwa [Progression.extent_eq_count, p.count_mirrored, ← p.extent_eq_count]
  have reversed : p.reversed.extent < 2 ^ 63 := by
    rwa [Progression.extent_eq_count, p.count_reversed moves, ← p.extent_eq_count]
  refine ⟨_, Progression.asked_of_countable moves countable, ?_, ?_⟩
  · rw [← p.toList_mirrored]
    exact Progression.asked_of_countable back mirrored
  · rw [← p.toList_reversed moves]
    exact Progression.asked_of_countable back reversed

/-- A climb that its last step would overshoot, and one that never sets out. -/
theorem climbs_symmetric :
    ((⟨1, 9, 3⟩ : Progression).asked = .ok [1, 4, 7]
      ∧ (⟨-1, -9, -3⟩ : Progression).asked = .ok [-1, -4, -7]
      ∧ (⟨7, -2, -3⟩ : Progression).asked = .ok [7, 4, 1])
    ∧ (⟨5, 5, 3⟩ : Progression).asked = .ok []
    ∧ (⟨2, 2, -3⟩ : Progression).asked = .ok [] := by
  have three : (⟨1, 9, 3⟩ : Progression).extent = 3 := Progression.extent_eq_count _
  have nothing : (⟨5, 5, 3⟩ : Progression).extent = 0 := Progression.extent_eq_count _
  obtain ⟨xs, climb, mirrored, reversed⟩ :=
    generated_symmetric ⟨1, 9, 3⟩ (by decide) (by rw [three]; decide)
  cases climb
  obtain ⟨ys, empty, -, still⟩ :=
    generated_symmetric ⟨5, 5, 3⟩ (by decide) (by rw [nothing]; decide)
  cases empty
  rw [three] at reversed
  rw [nothing] at still
  exact ⟨⟨rfl, mirrored, reversed⟩, rfl, still⟩

end InlineCheck
