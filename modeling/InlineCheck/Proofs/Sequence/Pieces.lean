import InlineCheck.Proofs.Sequence.Refusal

/-! # Pieces of a sequence

What a caller gets who asks for the piece of a list, a tuple, a text or a byte string between two
offsets, and how pieces fit together.

* `Value.elements?` — the elements of a value that is one of these.
* `between` — the piece of a list from one place to before another.
* `cut_eq_ok_iff` — asking gives that piece exactly when both offsets are valid. Adjacent pieces and
  pieces of pieces follow from this.
-/

namespace InlineCheck

namespace Value

/-- The elements of a list, a tuple, a text or a byte string. -/
def elements? : Value → Option (List Value)
  | .list xs => some xs
  | .tuple xs => some xs
  | .text s => some (s.toList.map fun c => .text (String.singleton c))
  | .bytes bs => some (bs.map fun b => .int b.toNat)
  | _ => none

/-- What a caller gets who asks for the piece between two offsets. -/
def cut (source : Value) (start stop : Int) : Except Fault (List Value) :=
  (sliceFrom source (.int start) (.int stop)).value

end Value

section

variable {α : Type}

/-- The piece of a list from one place to before another. -/
def between (xs : List α) (start stop : Int) : List α :=
  (xs.drop start.toNat).take (stop - start).toNat

variable {xs : List α} {a b c d : Int}

theorem length_between (inside : Indexed.InBounds a b xs.length) :
    ((between xs a b).length : Int) = b - a := by
  unfold Indexed.InBounds at inside
  simp only [between, List.length_take, List.length_drop]
  omega

theorem getElem?_between (low : 0 ≤ a) {i : Nat} (inside : (i : Int) < b - a) :
    (between xs a b)[i]? = xs[(a + i).toNat]? := by
  have place : a.toNat + i = (a + i).toNat := by omega
  rw [between, List.getElem?_take_of_lt (by omega), List.getElem?_drop, place]

theorem between_append (low : 0 ≤ a) (first : a ≤ b) (second : b ≤ c) :
    between xs a b ++ between xs b c = between xs a c := by
  have size : (c - a).toNat = (b - a).toNat + (c - b).toNat := by omega
  have turn : b.toNat = a.toNat + (b - a).toNat := by omega
  rw [between, between, between, size, List.take_add, List.drop_drop, turn]

theorem between_between (low : 0 ≤ a) (lower : 0 ≤ c) (upper : d ≤ b - a) :
    between (between xs a b) c d = between xs (a + c) (a + d) := by
  have start : a.toNat + c.toNat = (a + c).toNat := by omega
  have size : min (d - c).toNat ((b - a).toNat - c.toNat) = (a + d - (a + c)).toNat := by omega
  rw [between, between, between, List.drop_take, List.drop_drop, List.take_take, start, size]

end

namespace Value

variable {source : Value} {xs ys zs : List Value} {a b c d : Int}

theorem ofValue_of_elements (sequence : source.elements? = some xs) :
    Indexed.ofValue source = .ok (.elements xs) := by
  cases source <;> cases sequence <;> rfl

theorem cut_eq (sequence : source.elements? = some xs) (a b : Int) :
    source.cut a b = if Indexed.InBounds a b xs.length then .ok (between xs a b)
      else .error ((Indexed.elements xs).refusal a b) := by
  have offset (n : Int) : (Value.int n).toIndex = .ok n := rfl
  simp only [cut, sliceFrom, offset, ofValue_of_elements sequence]
  rfl

theorem cut_eq_ok_iff (sequence : source.elements? = some xs) :
    source.cut a b = .ok ys ↔ Indexed.InBounds a b xs.length ∧ between xs a b = ys := by
  rw [cut_eq sequence]
  split <;> simp_all

theorem cut_of_outside (sequence : source.elements? = some xs)
    (outside : ¬Indexed.InBounds a b xs.length) :
    source.cut a b = .error ((Indexed.elements xs).refusal a b) := by
  rw [cut_eq sequence, if_neg outside]

theorem cut_append (sequence : source.elements? = some xs) (first : a < b) (second : b < c)
    (whole : source.cut a c = .ok zs) :
    ∃ ys ys', source.cut a b = .ok ys ∧ source.cut b c = .ok ys' ∧ ys ++ ys' = zs := by
  simp only [cut_eq_ok_iff sequence, Indexed.InBounds] at whole ⊢
  obtain ⟨⟨low, -, high⟩, rfl⟩ := whole
  refine ⟨_, _, ⟨⟨low, first, by omega⟩, rfl⟩, ⟨⟨by omega, second, high⟩, rfl⟩, ?_⟩
  exact between_append low (by omega) (by omega)

theorem cut_cut (sequence : source.elements? = some xs) (outer : source.cut a b = .ok ys)
    (inner : (Value.list ys).cut c d = .ok zs) : source.cut (a + c) (a + d) = .ok zs := by
  rw [cut_eq_ok_iff sequence] at outer ⊢
  rw [cut_eq_ok_iff rfl] at inner
  obtain ⟨inside, rfl⟩ := outer
  obtain ⟨within, rfl⟩ := inner
  -- The inner offsets count from the outer start, and the outer piece bounds them.
  have size := length_between inside
  unfold Indexed.InBounds at inside within ⊢
  exact ⟨by omega, (between_between inside.1 within.1 (by omega)).symm⟩

end Value

/-- Asking for a piece of a sequence succeeds exactly for `0 ≤ a < b ≤ length`, and then gives the
elements at these places; any other offsets are refused. The refusal carries the offsets, but only
if both can be written out; otherwise it is a plain one. Adjacent pieces make one piece, and a piece
of a piece is a piece of the whole. -/
theorem pieces_of_sequence (source : Value) (xs : List Value)
    (sequence : source.elements? = some xs) (a b c d : Int) :
    ((∃ ys, source.cut a b = .ok ys) ↔ 0 ≤ a ∧ a < b ∧ b ≤ xs.length)
    ∧ (∀ ys, source.cut a b = .ok ys →
        (ys.length : Int) = b - a
        ∧ ∀ i (inside : i < ys.length), xs[(a + i).toNat]? = some ys[i])
    ∧ (¬(0 ≤ a ∧ a < b ∧ b ≤ xs.length) →
        a.natAbs < 10 ^ Number.digitLimit → b.natAbs < 10 ^ Number.digitLimit →
        ∃ f, source.cut a b = .error f ∧ f.kind = "OutOfRangeError"
          ∧ f.describe.data = [("start", .int a), ("end", .int b), ("length", .int xs.length)])
    ∧ (¬(0 ≤ a ∧ a < b ∧ b ≤ xs.length) →
        (10 ^ Number.digitLimit ≤ a.natAbs ∨ 10 ^ Number.digitLimit ≤ b.natAbs) →
        ∃ f, source.cut a b = .error f ∧ f.kind = "ValueError" ∧ f.describe.data = [])
    ∧ (a < b → b < c → ∀ zs, source.cut a c = .ok zs →
        ∃ ys ys', source.cut a b = .ok ys ∧ source.cut b c = .ok ys' ∧ ys ++ ys' = zs)
    ∧ (∀ ys zs, source.cut a b = .ok ys → (Value.list ys).cut c d = .ok zs →
        source.cut (a + c) (a + d) = .ok zs) := by
  refine ⟨?_, ?_, ?_, ?_, ?_, ?_⟩
  · simp only [Value.cut_eq_ok_iff sequence, exists_and_left, exists_eq', and_true]
    rfl
  · intro ys given
    obtain ⟨inside, rfl⟩ := (Value.cut_eq_ok_iff sequence).mp given
    have size := length_between inside
    refine ⟨size, fun i within => ?_⟩
    have place : (between xs a b)[i]? = xs[(a + i).toNat]? :=
      getElem?_between inside.1 (by omega)
    rw [← place, List.getElem?_eq_getElem within]
  · intro outside start stop
    refine ⟨_, Value.cut_of_outside sequence outside, ?_⟩
    rw [Indexed.refusal_of_short start stop]
    exact ⟨rfl, rfl⟩
  · intro outside long
    refine ⟨_, Value.cut_of_outside sequence outside, ?_⟩
    rw [Indexed.refusal_of_long long]
    exact ⟨rfl, rfl⟩
  · exact fun first second zs => Value.cut_append sequence first second
  · exact fun ys zs => Value.cut_cut sequence

/-- A text of four characters, one of them beyond the first plane: two of its pieces next to each
other, a piece of the second, a piece that goes one place too far, and one whose start cannot be
written out. -/
theorem pieces_of_text :
    (Value.text "aé😀b").elements? = some [.text "a", .text "é", .text "😀", .text "b"]
    ∧ (Value.text "aé😀b").cut 0 4 = .ok [.text "a", .text "é", .text "😀", .text "b"]
    ∧ (∃ ys ys', (Value.text "aé😀b").cut 0 1 = .ok ys ∧ (Value.text "aé😀b").cut 1 4 = .ok ys'
      ∧ ys ++ ys' = [.text "a", .text "é", .text "😀", .text "b"])
    ∧ (Value.text "aé😀b").cut (1 + 1) (1 + 3) = .ok [.text "😀", .text "b"]
    ∧ (∃ f, (Value.text "aé😀b").cut 3 5 = .error f ∧ f.kind = "OutOfRangeError")
    ∧ ∃ f, (Value.text "aé😀b").cut (-(10 ^ Number.digitLimit : Nat)) 1 = .error f
      ∧ f.kind = "ValueError" := by
  have four : (Value.text "aé😀b").elements?
      = some [.text "a", .text "é", .text "😀", .text "b"] := rfl
  have whole : (Value.text "aé😀b").cut 0 4
      = .ok [.text "a", .text "é", .text "😀", .text "b"] := rfl
  have later : (Value.text "aé😀b").cut 1 4 = .ok [.text "é", .text "😀", .text "b"] := rfl
  obtain ⟨-, -, -, -, adjacent, -⟩ := pieces_of_sequence _ _ four 0 1 4 0
  obtain ⟨-, -, -, -, -, nested⟩ := pieces_of_sequence _ _ four 1 4 1 3
  obtain ⟨-, -, outside, -⟩ := pieces_of_sequence _ _ four 3 5 0 0
  obtain ⟨f, refused, kind, -⟩ := outside (by decide) (Number.isWritable_iff.mp rfl)
    (Number.isWritable_iff.mp rfl)
  obtain ⟨-, -, -, long, -⟩ :=
    pieces_of_sequence _ _ four (-(10 ^ Number.digitLimit : Nat)) 1 0 0
  have positive : 0 < 10 ^ Number.digitLimit := Nat.pow_pos (by decide)
  have before (high : (0 : Int) ≤ -(10 ^ Number.digitLimit : Nat)) : False := by omega
  obtain ⟨g, refused', kind', -⟩ := long (fun inside => before inside.1)
    (.inl (Nat.le_of_eq ((Int.natAbs_neg _).trans (Int.natAbs_natCast _)).symm))
  exact ⟨four, whole, adjacent (by decide) (by decide) _ whole, nested _ _ later rfl,
    ⟨f, refused, kind⟩, g, refused', kind'⟩

/-- A piece of a list from its first element to a far place: what is raised carries nothing. -/
theorem farPlace_untold :
    ¬∃ f, (Value.list [.int 1, .int 2, .int 3]).cut 0 (10 ^ Number.digitLimit : Nat) = .error f
      ∧ f.kind = "OutOfRangeError" := by
  have asked (n : Int) : (Value.list [.int 1, .int 2, .int 3]).cut 0 n
      = (Indexed.elements [.int 1, .int 2, .int 3]).slice 0 n := rfl
  rintro ⟨f, refused, kind⟩
  rw [asked, Indexed.slice_far 0 (by decide)] at refused
  cases refused
  exact absurd kind (by decide)

end InlineCheck
