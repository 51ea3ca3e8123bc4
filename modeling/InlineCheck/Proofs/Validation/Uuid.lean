import InlineCheck.Proofs.Text.Cutting
import InlineCheck.Validation.Uuid
import Mathlib.Algebra.GroupWithZero.Nat

/-! # UUID texts

A UUID has one written form, and it is read as itself.

* `groupDigits` cuts digits into groups that can be put together again.
* `readUuid_text` — the written form of a UUID is read as this UUID.
-/

namespace InlineCheck

namespace Validation

/-! ## Digits -/

theorem lowerHex_written :
    ∀ n < 128, isLowerHex (Char.ofNat n) = true →
      (Char.ofNat n).toLower = Char.ofNat n ∧ Char.ofNat n ≠ '-'
        ∧ Text.byteLength (Char.ofNat n) = 1 := by
  decide +kernel

theorem isHexDigit_of_isLowerHex {c : Char} (digit : isLowerHex c = true) :
    isHexDigit c = true := by
  unfold isHexDigit
  rw [show (c.isDigit || ('a' ≤ c && c ≤ 'f')) = true from digit]
  rfl

theorem isLowerHex_spec {c : Char} (digit : isLowerHex c = true) :
    c.toLower = c ∧ c ≠ '-' ∧ Text.byteLength c = 1 := by
  have small := toNat_lt_of_isHexDigit (isHexDigit_of_isLowerHex digit)
  rw [← Char.ofNat_toNat c] at digit ⊢
  exact lowerHex_written _ small digit

theorem byteCount_eq_length {cs : List Char} (single : ∀ c ∈ cs, Text.byteLength c = 1) :
    Text.byteCount cs = cs.length := by
  have counted (n : Nat) : cs.foldl (fun n c => n + Text.byteLength c) n = n + cs.length := by
    induction cs generalizing n with
    | nil => rfl
    | cons c cs ih =>
      rw [List.foldl_cons, ih fun d member => single d (.tail c member), single c (.head cs),
        List.length_cons]
      omega
  simpa [Text.byteCount] using counted 0

/-- Digits in lower case are those of the UUID that is made from them. -/
theorem ofHex?_digits (u : Uuid) : Uuid.ofHex? u.digits = some u := by
  have lower : u.digits.map Char.toLower = u.digits :=
    (List.map_congr_left fun d member => (isLowerHex_spec (u.lower d member)).1).trans
      (List.map_id' _)
  have digits : u.digits.all isHexDigit = true :=
    List.all_eq_true.mpr fun d member => isHexDigit_of_isLowerHex (u.lower d member)
  rw [Uuid.ofHex?, dif_pos ⟨u.size, digits⟩]
  simp only [lower]

/-! ## Groups -/

theorem flatten_groupDigits {ds : List Char} {ns : List Nat} (size : ds.length = ns.sum) :
    (groupDigits ds ns).flatten = ds := by
  induction ns generalizing ds with
  | nil => simpa [groupDigits, eq_comm] using size
  | cons n ns ih =>
    rw [List.sum_cons] at size
    rw [groupDigits, List.flatten_cons, ih (by simp; omega), List.take_append_drop]

theorem length_groupDigits {ds : List Char} {ns : List Nat} (size : ds.length = ns.sum) :
    (groupDigits ds ns).map List.length = ns := by
  induction ns generalizing ds with
  | nil => rfl
  | cons n ns ih =>
    rw [List.sum_cons] at size
    rw [groupDigits, List.map_cons, ih (by simp; omega), List.length_take]
    congr
    omega

theorem mem_groupDigits {ds g : List Char} {ns : List Nat} (group : g ∈ groupDigits ds ns)
    {d : Char} (inside : d ∈ g) : d ∈ ds := by
  induction ns generalizing ds with
  | nil => cases group
  | cons n ns ih =>
    rcases List.mem_cons.mp group with rfl | later
    · exact List.mem_of_mem_take inside
    · exact List.mem_of_mem_drop (ih later)

theorem mem_intercalate {sep c : Char} {gs : List (List Char)} (member : c ∈ [sep].intercalate gs) :
    c = sep ∨ ∃ g ∈ gs, c ∈ g := by
  induction gs with
  | nil => cases member
  | cons g gs ih =>
    cases gs with
    | nil =>
      rw [List.intercalate_singleton] at member
      exact .inr ⟨g, .head _, member⟩
    | cons h gs =>
      rw [List.intercalate_cons_cons, List.append_assoc, List.mem_append, List.mem_append,
        List.mem_singleton] at member
      rcases member with here | between | later
      · exact .inr ⟨g, .head _, here⟩
      · exact .inl between
      · exact (ih later).imp id fun ⟨k, group, inside⟩ => ⟨k, .tail g group, inside⟩

/-! ## Reading -/

namespace Uuid

variable (u : Uuid)

theorem toList_text :
    u.text.toList = ['-'].intercalate (groupDigits u.digits uuidGroups) := by
  simp [text, joinWith, String.toList_intercalate, Function.comp_def]

/-- No digit is a hyphen, so that cutting at the hyphens gives the groups back. -/
theorem splitAt_text : Text.splitAt '-' u.text.toList = groupDigits u.digits uuidGroups := by
  rw [Text.splitAt_eq_splitOn, toList_text]
  apply List.splitOn_intercalate
  · intro g group inside
    exact (isLowerHex_spec (u.lower _ (mem_groupDigits group inside))).2.1 rfl
  · exact List.cons_ne_nil _ _

theorem byteCount_text : Text.byteCount u.text.toList = 36 := by
  rw [byteCount_eq_length, toList_text]
  · simp only [uuidGroups, groupDigits]
    simp [u.size, List.intercalate_cons_cons]
  · rw [toList_text]
    intro c member
    rcases mem_intercalate member with rfl | ⟨g, group, inside⟩
    · rfl
    · exact (isLowerHex_spec (u.lower c (mem_groupDigits group inside))).2.2

end Uuid

/-- The written form of a UUID is read as this UUID. -/
theorem readUuid_text (u : Uuid) : readUuid (.text u.text) = .ok u := by
  have lengths : (groupDigits u.digits uuidGroups).map List.length = uuidGroups :=
    length_groupDigits u.size
  have joined : (groupDigits u.digits uuidGroups).flatten = u.digits := flatten_groupDigits u.size
  have hyphenated : hyphenated? u.text.toList = some u := by
    simp only [hyphenated?, u.splitAt_text, lengths, if_true, joined, ofHex?_digits]
  simp [readUuid, readUuidText, u.byteCount_text, hyphenated]

end Validation

end InlineCheck
