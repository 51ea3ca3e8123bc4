import InlineCheck.Text.Blank

/-! # Cutting texts

What is kept of a text when it is trimmed, split into words or cut in two.
-/

namespace InlineCheck.Text

theorem mem_dropWhile_of_neg {p : Char → Bool} {c : Char} (kept : p c = false) {cs : List Char}
    (member : c ∈ cs) : c ∈ cs.dropWhile p := by
  induction cs with
  | nil => cases member
  | cons d cs ih =>
    rw [List.dropWhile_cons]
    split
    next dropped =>
      rcases List.mem_cons.mp member with rfl | later
      · rw [kept] at dropped
        cases dropped
      · exact ih later
    next => exact member

theorem mem_trim_of_neg {p : Char → Bool} {c : Char} (kept : p c = false) {cs : List Char}
    (member : c ∈ cs) : c ∈ trim p cs := by
  have start : c ∈ trimStart p cs := mem_dropWhile_of_neg kept member
  rw [trim, trimEnd, List.mem_reverse]
  exact mem_dropWhile_of_neg kept (List.mem_reverse.mpr start)

theorem trim_of_none {p : Char → Bool} {cs : List Char} (none : ∀ c ∈ cs, p c = false) :
    trim p cs = cs := by
  have whole {ds : List Char} (none : ∀ c ∈ ds, p c = false) : ds.dropWhile p = ds := by
    cases ds with
    | nil => rfl
    | cons d ds => simp [none d]
  have back : ∀ c ∈ cs.reverse, p c = false := fun c member => none c (List.mem_reverse.mp member)
  rw [trim, trimStart, whole none, trimEnd, whole back, List.reverse_reverse]

theorem count_wordsFrom (run cs : List Char) :
    (wordsFrom run cs).flatten.count 'a' = run.count 'a' + cs.count 'a' := by
  have letter : isBlank 'a' = false := rfl
  induction cs generalizing run with
  | nil => cases run <;> simp [wordsFrom, List.count_cons, List.count_nil]
  | cons c cs ih =>
    by_cases blank : isBlank c = true
    · have other : c ≠ 'a' := by
        rintro rfl
        rw [letter] at blank
        cases blank
      cases run with
      | nil => simp [wordsFrom, blank, ih, other]
      | cons d run =>
        simp [wordsFrom, blank, ih, other, List.count_cons]
        omega
    · simp only [wordsFrom, blank, if_false, Bool.false_eq_true, ih, List.count_cons]
      omega

theorem count_words (s : String) :
    ((words s).flatMap String.toList).count 'a' = s.toList.count 'a' := by
  have whole : (words s).flatMap String.toList = (wordsFrom [] s.toList).flatten := by
    simp [words, List.flatMap_def, Function.comp_def]
  rw [whole, count_wordsFrom]
  simp

/-! ## Cutting in two -/

theorem startsWith_iff {pat cs : List Char} : startsWith pat cs = true ↔ pat <+: cs := by
  unfold startsWith
  induction pat generalizing cs with
  | nil => simp [dropPrefix?]
  | cons p pat ih =>
    cases cs with
    | nil => simp [dropPrefix?]
    | cons c cs =>
      by_cases same : p = c
      · simp [dropPrefix?, same, ih]
      · simp [dropPrefix?, same]

theorem cutFirst?_append {sep : Char} {cs : List Char} (free : sep ∉ cs) (rest : List Char) :
    cutFirst? sep (cs ++ sep :: rest) = some (cs, rest) := by
  induction cs with
  | nil => simp [cutFirst?]
  | cons c cs ih =>
    obtain ⟨other, later⟩ : sep ≠ c ∧ sep ∉ cs := by simpa using free
    simp [cutFirst?, Ne.symm other, ih later]

theorem cutFirst?_eq_some {sep : Char} {cs before after : List Char}
    (found : cutFirst? sep cs = some (before, after)) :
    cs = before ++ sep :: after ∧ before = cs.takeWhile (· != sep) := by
  induction cs generalizing before with
  | nil => cases found
  | cons c cs ih =>
    unfold cutFirst? at found
    split at found
    next here =>
      cases found
      simp [here]
    next other =>
      obtain ⟨⟨start, rest⟩, later, made⟩ := Option.map_eq_some_iff.mp found
      cases made
      obtain ⟨whole, first⟩ := ih later
      exact ⟨by rw [whole]; rfl, by simp [other, first]⟩

theorem cutFirst?_eq_none_iff {sep : Char} {cs : List Char} :
    cutFirst? sep cs = none ↔ sep ∉ cs := by
  induction cs with
  | nil => simp [cutFirst?]
  | cons c cs ih =>
    by_cases here : c = sep
    · simp [cutFirst?, here]
    · simp [cutFirst?, here, Ne.symm here, ih]

theorem splitAt_eq_splitOn (sep : Char) (cs : List Char) :
    splitAt sep cs = cs.splitOn sep := by
  rw [List.splitOn_eq_splitOnP]
  induction cs with
  | nil => rfl
  | cons c cs ih =>
    rw [splitAt, List.splitOnP_cons_eq_if_modifyHead, ih]
    by_cases here : c = sep
    · simp [here]
    · simp only [here, if_false, beq_iff_eq]
      cases pieces : cs.splitOnP (· == sep) with
      | nil => exact absurd pieces (List.splitOnP_ne_nil _ _)
      | cons p ps => rfl

theorem not_mem_of_mem_splitAt {sep : Char} {cs piece : List Char} (cut : piece ∈ splitAt sep cs) :
    sep ∉ piece := by
  induction cs generalizing piece with
  | nil => simp_all [splitAt]
  | cons c cs ih =>
    rw [splitAt] at cut
    split at cut
    next =>
      rcases List.mem_cons.mp cut with rfl | later
      · exact List.not_mem_nil
      · exact ih later
    next other =>
      split at cut
      next =>
        rw [List.mem_singleton.mp cut]
        simp [Ne.symm other]
      next p ps pieces =>
        rcases List.mem_cons.mp cut with rfl | later
        · simp [Ne.symm other, ih (pieces ▸ List.mem_cons_self)]
        · exact ih (pieces ▸ List.mem_cons_of_mem _ later)

end InlineCheck.Text
