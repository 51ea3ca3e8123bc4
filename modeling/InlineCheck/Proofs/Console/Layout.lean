import InlineCheck.Proofs.Console.Rows

/-! # What a layout does to glyphs

* `Laid` — glyphs keep their order and their tags, and blanks stand for some of them.
* `laid_wrap` — this is all that laying out in rows does.
* `ink_wrap` — so it never adds ink.
-/

namespace InlineCheck.Console

/-- Glyphs as they are laid out: each is kept, or blanks with its tags stand for it, maybe none. -/
inductive Laid : List Glyph → List Glyph → Prop where
  | nil : Laid [] []
  | kept (g : Glyph) {gs hs : List Glyph} (later : Laid gs hs) : Laid (g :: gs) (g :: hs)
  | blanked (g : Glyph) (n : Nat) {gs hs : List Glyph} (later : Laid gs hs) :
      Laid (g :: gs) (List.replicate n ⟨' ', g.tags⟩ ++ hs)

namespace Laid

theorem refl (gs : List Glyph) : Laid gs gs := by
  induction gs with
  | nil => exact .nil
  | cons g gs ih => exact .kept g ih

theorem dropped (gs : List Glyph) : Laid gs [] := by
  induction gs with
  | nil => exact .nil
  | cons g gs ih => exact .blanked g 0 ih

theorem append {gs hs gs' hs' : List Glyph} (first : Laid gs hs) (second : Laid gs' hs') :
    Laid (gs ++ gs') (hs ++ hs') := by
  induction first with
  | nil => exact second
  | kept g _ ih => exact .kept g ih
  | blanked g n _ ih =>
    rw [List.append_assoc]
    exact .blanked g n ih

theorem split {gs gs' hs : List Glyph} (laid : Laid (gs ++ gs') hs) :
    ∃ ks ks', hs = ks ++ ks' ∧ Laid gs ks ∧ Laid gs' ks' := by
  induction gs generalizing hs with
  | nil => exact ⟨[], hs, rfl, .nil, laid⟩
  | cons g gs ih =>
    cases laid with
    | kept _ later =>
      obtain ⟨ks, ks', rfl, first, second⟩ := ih later
      exact ⟨g :: ks, ks', rfl, .kept g first, second⟩
    | blanked _ n later =>
      obtain ⟨ks, ks', rfl, first, second⟩ := ih later
      exact ⟨_, ks', (List.append_assoc ..).symm, .blanked g n first, second⟩

/-- Of blanks, only blanks remain. -/
theorem of_blanks {tags : List String} {n : Nat} {hs : List Glyph}
    (laid : Laid (List.replicate n ⟨' ', tags⟩) hs) : ∃ m, hs = List.replicate m ⟨' ', tags⟩ := by
  induction n generalizing hs with
  | zero =>
    cases laid
    exact ⟨0, rfl⟩
  | succ n ih =>
    rw [List.replicate_succ] at laid
    cases laid with
    | kept _ later =>
      obtain ⟨m, rfl⟩ := ih later
      exact ⟨m + 1, rfl⟩
    | blanked _ k later =>
      obtain ⟨m, rfl⟩ := ih later
      exact ⟨k + m, List.replicate_append_replicate⟩

theorem trans {gs hs ks : List Glyph} (first : Laid gs hs) (second : Laid hs ks) : Laid gs ks := by
  induction first generalizing ks with
  | nil => exact second
  | kept g _ ih =>
    cases second with
    | kept _ later => exact .kept g (ih later)
    | blanked _ n later => exact .blanked g n (ih later)
  | blanked g n _ ih =>
    -- what stands for the blanks is blank itself
    obtain ⟨blanks, rest, rfl, faded, later⟩ := split second
    obtain ⟨m, rfl⟩ := of_blanks faded
    exact .blanked g m (ih later)

theorem tags_eq {gs hs : List Glyph} (laid : Laid gs hs) {tags : List String}
    (same : ∀ g ∈ gs, g.tags = tags) : ∀ h ∈ hs, h.tags = tags := by
  induction laid with
  | nil => exact same
  | kept g _ ih =>
    obtain ⟨own, later⟩ := List.forall_mem_cons.mp same
    exact List.forall_mem_cons.mpr ⟨own, ih later⟩
  | blanked g n _ ih =>
    obtain ⟨own, later⟩ := List.forall_mem_cons.mp same
    intro h member
    rcases List.mem_append.mp member with blank | rest
    · rw [List.eq_of_mem_replicate blank]
      exact own
    · exact ih later h rest

theorem ink_sublist {gs hs : List Glyph} (laid : Laid gs hs) :
    (ink (plain hs)).Sublist (ink (plain gs)) := by
  have cons (g : Glyph) (gs : List Glyph) :
      ink (plain (g :: gs)) = ink [g.char] ++ ink (plain gs) :=
    ink_cons g.char (plain gs)
  induction laid with
  | nil => exact .refl _
  | kept g _ ih =>
    rw [cons, cons]
    exact ih.append_left _
  | @blanked g n gs hs _ ih =>
    have blanks : ink (List.replicate n ' ') = [] :=
      ink_spaces fun c member => List.eq_of_mem_replicate member
    have faded : ink (plain (List.replicate n ⟨' ', g.tags⟩ ++ hs)) = ink (plain hs) := by
      simp [plain, blanks]
    rw [cons, faded]
    exact ih.trans (List.sublist_append_right ..)

theorem take (n : Nat) (gs : List Glyph) : Laid gs (gs.take n) := by
  have parts := (refl (gs.take n)).append (dropped (gs.drop n))
  rwa [List.take_append_drop, List.append_nil] at parts

theorem flatten_map {f : List Glyph → List Glyph} (each : ∀ l, Laid l (f l))
    (ls : List (List Glyph)) : Laid ls.flatten (ls.map f).flatten := by
  induction ls with
  | nil => exact .nil
  | cons l ls ih => exact (each l).append ih

end Laid

/-! ## Lines, tabs and rows -/

theorem laid_glyphLines (gs : List Glyph) : Laid gs (glyphLines gs).flatten := by
  induction gs with
  | nil => exact .nil
  | cons g gs ih =>
    rw [glyphLines]
    split
    · exact .blanked g 0 ih
    · cases lines : glyphLines gs with
      | nil =>
        rw [lines] at ih
        exact .kept g ih
      | cons l ls =>
        rw [lines] at ih
        exact .kept g ih

/-- Expanding the tabs of a part leaves what stands before its last glyph as it is. -/
theorem expandParts_cons (hs : List Glyph) {p : List Glyph} (some : p ≠ []) {ps : List (List Glyph)}
    (later : ∀ column, Laid ps.flatten (expandParts column ps)) (column : Nat) :
    ∃ gs, expandParts column ((hs ++ p) :: ps) = hs ++ gs ∧ Laid (p ++ ps.flatten) gs := by
  obtain ⟨before, g, rfl⟩ := (List.eq_nil_or_concat p).resolve_left some
  have last : (hs ++ (before ++ [g])).getLast? = .some g := by simp
  rw [List.concat_eq_append, expandParts, last]
  dsimp only
  split
  · -- a tab gives way to one blank, and then to some more
    have tab (n : Nat) : Laid (before ++ [g])
        (before ++ [⟨' ', g.tags⟩] ++ List.replicate n ⟨' ', g.tags⟩) := by
      have blanks := Laid.blanked g (n + 1) .nil
      rw [List.append_nil, List.replicate_succ] at blanks
      rw [List.append_assoc]
      exact (Laid.refl before).append blanks
    rw [← List.append_assoc hs, List.dropLast_concat, List.append_assoc hs, List.append_assoc hs,
      List.append_assoc hs]
    exact ⟨_, rfl, (tab _).append (later _)⟩
  · exact ⟨_, List.append_assoc .., (Laid.refl _).append (later _)⟩

theorem laid_expandParts (column : Nat) (ps : List (List Glyph)) :
    Laid ps.flatten (expandParts column ps) := by
  induction ps generalizing column with
  | nil => exact .nil
  | cons p ps ih =>
    rw [List.flatten_cons]
    by_cases none : p = []
    · subst none
      exact ih column
    · obtain ⟨gs, expanded, laid⟩ := expandParts_cons [] none ih column
      rw [List.nil_append, List.nil_append] at expanded
      rwa [expanded]

theorem flatten_tabParts (gs : List Glyph) : (tabParts gs).flatten = gs := by
  induction gs with
  | nil => rfl
  | cons g gs ih =>
    rw [tabParts]
    split
    · simp [ih]
    · cases parts : tabParts gs with
      | nil =>
        rw [parts] at ih
        simp [← ih]
      | cons p ps =>
        rw [parts] at ih
        simp [← ih]

theorem laid_expandTabs (gs : List Glyph) : Laid gs (expandTabs gs) := by
  unfold expandTabs
  split
  · have parts := laid_expandParts 0 (tabParts gs)
    rwa [flatten_tabParts] at parts
  · exact .refl gs

/-- Cropping keeps what stands first, and may end in a blank. -/
theorem cropUnits_eq (width : Nat) (gs : List Grapheme) :
    ∃ n ending, (ending = [] ∨ ending = [' '])
      ∧ cropUnits width gs = (gs.flatMap Grapheme.chars).take n ++ ending := by
  induction gs generalizing width with
  | nil => exact ⟨0, [], .inl rfl, rfl⟩
  | cons g gs ih =>
    rw [cropUnits, List.flatMap_cons]
    split
    · exact ⟨0, [], .inl rfl, rfl⟩
    · split
      · obtain ⟨n, ending, blank, cropped⟩ := ih (width - g.width)
        refine ⟨g.chars.length + n, ending, blank, ?_⟩
        rw [List.take_length_add_append, cropped, List.append_assoc]
      · exact ⟨0, [' '], .inr rfl, rfl⟩

theorem crop_eq (width : Nat) (cs : List Char) :
    ∃ n ending, (ending = [] ∨ ending = [' ']) ∧ crop width cs = cs.take n ++ ending := by
  unfold crop
  split
  · exact ⟨cs.length, [], .inl rfl, by simp⟩
  · have cropped := cropUnits_eq width (graphemes cs)
    rwa [chars_graphemes] at cropped

/-- Glyphs with the characters that are left of them after cropping. -/
theorem laid_zip (gs : List Glyph) (n : Nat) {ending : List Char}
    (blank : ending = [] ∨ ending = [' ']) :
    Laid gs ((gs.zip ((plain gs).take n ++ ending)).map fun (g, c) => { g with char := c }) := by
  induction gs generalizing n with
  | nil => exact .nil
  | cons g gs ih =>
    cases n with
    | zero =>
      -- the rest is cut off, but for a blank in place of a unit that was cut in two
      rcases blank with rfl | rfl
      · exact .dropped _
      · have tail : gs.zip ([] : List Char) = [] := by cases gs <;> rfl
        simp only [List.take_zero, List.nil_append, List.zip_cons_cons, tail, List.map_cons,
          List.map_nil]
        exact .blanked g 1 (.dropped gs)
    | succ n => exact .kept g (ih n)

theorem laid_cropGlyphs (width : Nat) (gs : List Glyph) : Laid gs (cropGlyphs width gs) := by
  obtain ⟨n, ending, blank, cropped⟩ := crop_eq width (plain gs)
  rw [cropGlyphs, cropped]
  exact laid_zip gs n blank

theorem laid_row (width : Nat) (l : List Glyph) :
    Laid l (cropGlyphs width (dropExcess width l)) :=
  (Laid.take _ l).trans (laid_cropGlyphs width _)

theorem laid_wrapLine (width : Nat) (gs : List Glyph) : Laid gs (wrapLine width gs).flatten := by
  have rows := Laid.flatten_map (laid_row width)
    (cutAt 0 (breaks width (plain (expandTabs gs))) (expandTabs gs))
  rw [flatten_cutAt] at rows
  exact (laid_expandTabs gs).trans rows

theorem flatten_wrap (width : Nat) (gs : List Glyph) : (wrap width gs).flatten
    = ((glyphLines gs).map fun l => (wrapLine width l).flatten).flatten := by
  rw [wrap, List.flatMap_def, List.flatten_flatten, List.map_map]
  rfl

/-- Layout moves no glyph, and changes no tags. -/
theorem laid_wrap (width : Nat) (gs : List Glyph) : Laid gs (wrap width gs).flatten := by
  rw [flatten_wrap]
  exact (laid_glyphLines gs).trans (Laid.flatten_map (laid_wrapLine width) (glyphLines gs))

theorem ink_writtenLines (ls : List (List Glyph)) :
    ink (writtenLines ls) = ink (plain ls.flatten) := by
  induction ls with
  | nil => rfl
  | cons l ls ih =>
    have split : writtenLines (l :: ls) = (plain l ++ ['\n']) ++ writtenLines ls := rfl
    rw [split, ink_append, ih]
    simp [plain]

/-- A layout adds no ink. -/
theorem ink_wrap (width : Nat) (gs : List Glyph) :
    (ink (writtenLines (wrap width gs))).Sublist (ink (plain gs)) := by
  rw [ink_writtenLines]
  exact (laid_wrap width gs).ink_sublist

end InlineCheck.Console
