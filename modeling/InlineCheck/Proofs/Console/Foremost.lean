import InlineCheck.Proofs.Console.SingleRow

/-! # What stands first on a line

Narrow characters that fit on a row stay as they are, whatever stands after them and a blank.

* `le_of_mem_breaks` — no line is broken before the blank.
* `crop_foremost` — no row is cut before it.
* `wrap_foremost` — so layout only concerns the rest.
-/

namespace InlineCheck.Console

/-- Characters of one cell each, the last of which is no blank. -/
def isForemost (cs : List Char) : Bool :=
  cs.all (charWidth · == 1) && cs.getLast?.any fun c => !Text.isBlank c

theorem narrow_of_isForemost {cs : List Char} (foremost : isForemost cs = true) :
    ∀ c ∈ cs, charWidth c = 1 := by
  simp only [isForemost, Bool.and_eq_true, List.all_eq_true, beq_iff_eq] at foremost
  exact foremost.1

theorem concat_of_isForemost {cs : List Char} (foremost : isForemost cs = true) :
    ∃ front c, cs = front ++ [c] ∧ Text.isBlank c = false := by
  rcases List.eq_nil_or_concat cs with rfl | ⟨front, c, rfl⟩
  · cases foremost
  · have last := (Bool.and_eq_true_iff.mp foremost).2
    exact ⟨front, c, List.concat_eq_append, by simpa using last⟩

theorem isSingle_of_narrow {c : Char} (narrow : charWidth c = 1) : isSingle c = true := by
  have joined : charWidth joiner = 0 := by decide
  have selected : charWidth emojiSelector = 0 := by decide
  have other : c ≠ joiner ∧ c ≠ emojiSelector := by
    constructor
    · rintro rfl
      omega
    · rintro rfl
      omega
  simpa [isSingle] using other

theorem cellLength_narrow {cs : List Char} (narrow : ∀ c ∈ cs, charWidth c = 1) :
    cellLength cs = cs.length := by
  rw [cellLength_single fun c member => isSingle_of_narrow (narrow c member), cells]
  induction cs with
  | nil => rfl
  | cons c cs ih =>
    obtain ⟨one, rest⟩ := List.forall_mem_cons.mp narrow
    rw [List.map_cons, List.sum_cons, ih rest, one, List.length_cons, Nat.add_comm]

theorem cellLength_trimEnd_narrow {cs : List Char} (narrow : ∀ c ∈ cs, charWidth c = 1) :
    cellLength (Text.trimEnd Text.isBlank cs) ≤ cs.length := by
  obtain ⟨blanks, split, _⟩ := trimEnd_split cs
  have total := congrArg List.length split
  rw [List.length_append] at total
  rw [cellLength_narrow fun c member => narrow c (mem_of_mem_trimEnd member)]
  omega

theorem trimEnd_reverse_cons {c : Char} (blank : Text.isBlank c = true) (run : List Char) :
    Text.trimEnd Text.isBlank (c :: run).reverse = Text.trimEnd Text.isBlank run.reverse := by
  simp [Text.trimEnd, blank]

/-! ## Breaks -/

theorem le_of_mem_foldBreaks {start b : Nat} {parts : List (List Char)}
    (member : b ∈ (foldBreaks start parts).1) : start ≤ b := by
  fun_induction foldBreaks start parts with
  | case1 => cases member
  | case2 start =>
    split at member
    · cases member
    · exact Nat.le_of_eq (List.mem_singleton.mp member).symm
  | case3 start part parts _ breaks size later ih =>
    rw [later] at ih
    rcases List.mem_append.mp member with here | further
    · split at here
      · cases here
      · exact Nat.le_of_eq (List.mem_singleton.mp here).symm
    · have := ih further
      omega

/-- A line is not broken before the next word. -/
theorem le_of_mem_breaksFrom {width offset start b : Nat} {ws : List (List Char)}
    (member : b ∈ breaksFrom width offset start ws) : start ≤ b := by
  induction ws generalizing offset start with
  | nil => cases member
  | cons w ws ih =>
    rw [breaksFrom] at member
    dsimp only at member
    split at member
    · exact Nat.le_trans (Nat.le_add_right ..) (ih member)
    · split at member
      · rcases List.mem_append.mp member with folded | later
        · exact le_of_mem_foldBreaks folded
        · exact Nat.le_trans (Nat.le_add_right ..) (ih later)
      · split at member
        · rcases List.mem_cons.mp member with rfl | later
          · exact Nat.le_refl _
          · exact Nat.le_trans (Nat.le_add_right ..) (ih later)
        · exact Nat.le_trans (Nat.le_add_right ..) (ih member)

theorem le_of_mem_breaksFrom_cons {width offset start b : Nat} {w : List Char}
    {ws : List (List Char)} (fits : offset + cellLength (Text.trimEnd Text.isBlank w) ≤ width)
    (member : b ∈ breaksFrom width offset start (w :: ws)) : start + w.length ≤ b := by
  rw [breaksFrom, if_pos fits] at member
  exact le_of_mem_breaksFrom member

/-- A word that fits takes all the blanks behind it along. -/
theorem le_of_mem_breaksFrom_trail {width offset start b : Nat} {run cs : List Char}
    (fits : offset + cellLength (Text.trimEnd Text.isBlank run.reverse) ≤ width)
    (member : b ∈ breaksFrom width offset start (lineWordsFrom .trail run cs)) :
    start + run.length ≤ b := by
  induction cs generalizing run with
  | nil => simpa using le_of_mem_breaksFrom_cons fits member
  | cons c cs ih =>
    rw [lineWordsFrom] at member
    split at member
    next blank =>
      have later := ih (by rwa [trimEnd_reverse_cons blank]) member
      rw [List.length_cons] at later
      omega
    next => simpa using le_of_mem_breaksFrom_cons fits member

/-- A line is not broken within narrow text that fits, and not before the blank after it. -/
theorem le_of_mem_breaksFrom_narrow {width offset start b : Nat} {part : WordPart}
    {run cs rest : List Char}
    (member : b ∈ breaksFrom width offset start (lineWordsFrom part run (cs ++ ' ' :: rest)))
    (read : ∀ c ∈ run.reverse, charWidth c = 1) (narrow : ∀ c ∈ cs, charWidth c = 1)
    (fits : offset + (run.length + cs.length) ≤ width) (unread : part = .lead → ink cs ≠ []) :
    start + (run.length + (cs.length + 1)) ≤ b := by
  induction cs generalizing part run offset start with
  | nil =>
    -- some ink has been read, so the blank ends a word, and this word fits
    have trail : (if part = .body then WordPart.trail else part) = .trail := by
      cases part with
      | lead => exact absurd rfl (unread rfl)
      | body | trail => rfl
    have space : Text.isBlank ' ' = true := by decide
    rw [List.nil_append, lineWordsFrom, if_pos space, trail] at member
    have trimmed := cellLength_trimEnd_narrow read
    rw [List.length_reverse] at trimmed
    rw [List.length_nil] at fits ⊢
    have later := le_of_mem_breaksFrom_trail (by rw [trimEnd_reverse_cons space]; omega) member
    rw [List.length_cons] at later
    omega
  | cons c cs ih =>
    obtain ⟨one, narrow⟩ := List.forall_mem_cons.mp narrow
    have further : ∀ d ∈ (c :: run).reverse, charWidth d = 1 := by
      simpa [or_imp, forall_and, one] using read
    rw [List.length_cons] at fits ⊢
    rw [List.cons_append, lineWordsFrom] at member
    split at member
    next blank =>
      have pale : ink (c :: cs) = ink cs := by simp [ink, blank]
      have later := ih member further narrow (by rw [List.length_cons]; omega) (fun lead => ?_)
      · rw [List.length_cons] at later
        omega
      · rw [pale] at unread
        refine unread ?_
        split at lead
        · cases lead
        · exact lead
    next =>
      split at member
      next =>
        -- a word ends here; it fits, and the text goes on in the same row
        have trimmed := cellLength_trimEnd_narrow read
        have taken := cellLength_narrow read
        rw [List.length_reverse] at trimmed taken
        rw [breaksFrom, if_pos (by omega), taken, List.length_reverse] at member
        have later := ih member (by simpa using one) narrow
          (by rw [List.length_singleton]; omega) fun lead => by cases lead
        rw [List.length_singleton] at later
        omega
      next =>
        have later := ih member further narrow (by rw [List.length_cons]; omega)
          fun lead => by cases lead
        rw [List.length_cons] at later
        omega

theorem le_of_mem_breaks {width b : Nat} {cs rest : List Char} (foremost : isForemost cs = true)
    (fits : cs.length ≤ width) (member : b ∈ breaks width (cs ++ ' ' :: rest)) :
    cs.length + 1 ≤ b := by
  have inked : ink cs ≠ [] := by
    obtain ⟨front, c, rfl, dark⟩ := concat_of_isForemost foremost
    simp [ink, dark]
  have later := le_of_mem_breaksFrom_narrow member (List.forall_mem_nil _)
    (narrow_of_isForemost foremost) (by rw [List.length_nil]; omega) fun _ => inked
  rw [List.length_nil] at later
  omega

/-! ## Rows -/

/-- What stands before the first break stays together. -/
theorem cutAt_foremost {α : Type} {hs : List α} {bs : List Nat} (later : ∀ b ∈ bs, hs.length ≤ b)
    (xs : List α) : ∃ row rows, cutAt 0 bs (hs ++ xs) = (hs ++ row) :: rows
      ∧ row ++ rows.flatten = xs := by
  cases bs with
  | nil => exact ⟨xs, [], rfl, by simp⟩
  | cons b bs =>
    have first : hs.length ≤ b := later b List.mem_cons_self
    refine ⟨xs.take (b - hs.length), cutAt b bs (xs.drop (b - hs.length)), ?_, ?_⟩
    · rw [cutAt, Nat.sub_zero, List.take_append, List.drop_append, List.take_of_length_le first,
        List.drop_of_length_le first, List.nil_append]
    · rw [flatten_cutAt, List.take_append_drop]

/-- Units that are complete stay as they are. -/
theorem graphemesFrom_append {last : Option Char} {acc : List Grapheme} (some : acc ≠ [])
    (done : List Grapheme) (cs : List Char) :
    graphemesFrom last (acc ++ done) cs = done.reverse ++ graphemesFrom last acc cs := by
  fun_induction graphemesFrom last acc cs with
  | case1 => simp [graphemesFrom]
  | case2 => exact absurd rfl some
  | _ =>
    rw [graphemesFrom.eq_def]
    simp_all +zetaDelta

theorem graphemesFrom_narrow {c : Char} (narrow : charWidth c = 1) (last : Option Char)
    (acc : List Grapheme) (cs : List Char) :
    graphemesFrom last acc (c :: cs) = graphemesFrom (some c) (⟨[c], 1⟩ :: acc) cs := by
  obtain ⟨notJoiner, notSelector⟩ := ne_of_isSingle (isSingle_of_narrow narrow)
  rw [graphemesFrom.eq_def]
  cases acc <;> simp [notJoiner, notSelector, narrow]

theorem graphemes_foremost {hs : List Char} (narrow : ∀ c ∈ hs, charWidth c = 1)
    (rest : List Char) : ∃ us, graphemes (hs ++ ' ' :: rest) = hs.map (⟨[·], 1⟩) ++ us
      ∧ us.flatMap Grapheme.chars = ' ' :: rest := by
  have space : charWidth ' ' = 1 := by decide
  refine ⟨graphemesFrom (some ' ') [⟨[' '], 1⟩] rest, ?_, chars_graphemesFrom ..⟩
  have units (last : Option Char) (acc : List Grapheme) :
      graphemesFrom last acc (hs ++ ' ' :: rest) = acc.reverse
        ++ (hs.map (⟨[·], 1⟩) ++ graphemesFrom (some ' ') [⟨[' '], 1⟩] rest) := by
    induction hs generalizing last acc with
    | nil =>
      rw [List.nil_append, graphemesFrom_narrow space]
      exact graphemesFrom_append (List.cons_ne_nil _ []) acc rest
    | cons c hs ih =>
      obtain ⟨one, narrow⟩ := List.forall_mem_cons.mp narrow
      rw [List.cons_append, graphemesFrom_narrow one, ih narrow]
      simp
  exact units none []

theorem cropUnits_narrow {hs : List Char} {width : Nat} (fits : hs.length ≤ width)
    (us : List Grapheme) :
    cropUnits width (hs.map (⟨[·], 1⟩) ++ us) = hs ++ cropUnits (width - hs.length) us := by
  induction hs generalizing width with
  | nil => rfl
  | cons c hs ih =>
    rw [List.length_cons] at fits ⊢
    rw [List.map_cons, List.cons_append, cropUnits, if_neg (by omega), if_pos (by simp only; omega),
      ih (by simp only; omega)]
    simp [Nat.sub_sub, Nat.add_comm]

theorem crop_foremost {hs : List Char} {width : Nat} (narrow : ∀ c ∈ hs, charWidth c = 1)
    (fits : hs.length ≤ width) {rest : List Char} (spaced : rest = [] ∨ ∃ cs, rest = ' ' :: cs) :
    ∃ n ending, (ending = [] ∨ ending = [' '])
      ∧ crop width (hs ++ rest) = hs ++ (rest.take n ++ ending) := by
  unfold crop
  split
  · exact ⟨rest.length, [], .inl rfl, by simp⟩
  next long =>
    rcases spaced with rfl | ⟨cs, rfl⟩
    · rw [List.append_nil, cellLength_narrow narrow] at long
      exact absurd fits long
    · obtain ⟨us, units, chars⟩ := graphemes_foremost narrow cs
      obtain ⟨n, ending, blank, cropped⟩ := cropUnits_eq (width - hs.length) us
      rw [chars] at cropped
      exact ⟨n, ending, blank, by rw [units, cropUnits_narrow fits, cropped]⟩

/-! ## Glyphs -/

theorem zip_plain (gs : List Glyph) :
    ((gs.zip (plain gs)).map fun (g, c) => { g with char := c }) = gs := by
  induction gs with
  | nil => rfl
  | cons g gs ih => exact congrArg (g :: ·) ih

section

variable {width : Nat} {hs rs : List Glyph} (foremost : isForemost (plain hs) = true)

include foremost

theorem char_ne_of_isForemost {c : Char} (other : charWidth c ≠ 1) : ∀ g ∈ hs, g.char ≠ c := by
  intro g member same
  refine other ?_
  rw [← same]
  exact narrow_of_isForemost foremost _ (List.mem_map_of_mem member)

/-- Blanks at the end are dropped only behind what stands first. -/
theorem dropExcess_foremost : ∃ n, dropExcess width (hs ++ rs) = hs ++ rs.take n := by
  have blanks : ((hs ++ rs).reverse.takeWhile fun g => Text.isBlank g.char).length
      ≤ rs.length := by
    obtain ⟨front, c, last, dark⟩ := concat_of_isForemost foremost
    obtain ⟨front, ends, rfl, -, chars⟩ := List.map_eq_append_iff.mp last
    obtain ⟨g, rfl, rfl⟩ := List.map_eq_singleton_iff.mp chars
    rw [List.reverse_append, List.takeWhile_append]
    split
    · simp [dark]
    · exact Nat.le_trans (List.takeWhile_sublist _).length_le (by simp)
  have kept : hs.length ≤ (hs ++ rs).length
      - min ((hs ++ rs).reverse.takeWhile fun g => Text.isBlank g.char).length
        ((hs ++ rs).length - width) := by
    rw [List.length_append]
    omega
  rw [dropExcess, List.take_append, List.take_of_length_le kept]
  exact ⟨_, rfl⟩

theorem cropGlyphs_foremost (fits : hs.length ≤ width)
    (spaced : plain rs = [] ∨ ∃ cs, plain rs = ' ' :: cs) :
    ∃ row, cropGlyphs width (hs ++ rs) = hs ++ row ∧ Laid rs row := by
  have parts : plain (hs ++ rs) = plain hs ++ plain rs := List.map_append
  obtain ⟨n, ending, blank, cropped⟩ := crop_foremost (narrow_of_isForemost foremost)
    (by simpa [plain] using fits) spaced
  refine ⟨_, ?_, laid_zip rs n blank⟩
  rw [cropGlyphs, parts, cropped, List.zip_append (by simp [plain]), List.map_append, zip_plain]

theorem row_foremost (fits : hs.length ≤ width) {g : Glyph} (space : g.char = ' ') :
    ∃ row, cropGlyphs width (dropExcess width (hs ++ g :: rs)) = hs ++ row
      ∧ Laid (g :: rs) row := by
  obtain ⟨n, dropped⟩ := @dropExcess_foremost width hs (g :: rs) foremost
  have spaced : plain ((g :: rs).take n) = [] ∨ ∃ cs, plain ((g :: rs).take n) = ' ' :: cs := by
    cases n with
    | zero => exact .inl rfl
    | succ n => exact .inr ⟨plain (rs.take n), by rw [← space]; rfl⟩
  obtain ⟨row, cropped, laid⟩ := cropGlyphs_foremost foremost fits spaced
  exact ⟨row, by rw [dropped, cropped], (Laid.take n _).trans laid⟩

end

theorem exists_glyphLines (gs : List Glyph) : ∃ l ls, glyphLines gs = l :: ls := by
  cases gs with
  | nil => exact ⟨[], [], rfl⟩
  | cons g gs =>
    rw [glyphLines]
    split
    · exact ⟨_, _, rfl⟩
    · split
      · exact ⟨_, _, rfl⟩
      · exact ⟨_, _, rfl⟩

theorem glyphLines_append {hs : List Glyph} (unbroken : ∀ g ∈ hs, g.char ≠ '\n')
    (rs : List Glyph) :
    ∃ l ls, glyphLines rs = l :: ls ∧ glyphLines (hs ++ rs) = (hs ++ l) :: ls := by
  obtain ⟨l, ls, lines⟩ := exists_glyphLines rs
  refine ⟨l, ls, lines, ?_⟩
  induction hs with
  | nil => exact lines
  | cons h hs ih =>
    obtain ⟨here, later⟩ := List.forall_mem_cons.mp unbroken
    rw [List.cons_append, glyphLines, if_neg here, ih later]
    rfl

theorem exists_tabParts (g : Glyph) (gs : List Glyph) :
    ∃ p ps, tabParts (g :: gs) = (g :: p) :: ps := by
  rw [tabParts]
  split
  · exact ⟨_, _, rfl⟩
  · split
    · exact ⟨_, _, rfl⟩
    · exact ⟨_, _, rfl⟩

theorem tabParts_append {hs : List Glyph} (untabbed : ∀ g ∈ hs, g.char ≠ '\t') (g : Glyph)
    (gs : List Glyph) : ∃ p ps, tabParts (g :: gs) = (g :: p) :: ps
      ∧ tabParts (hs ++ g :: gs) = (hs ++ g :: p) :: ps := by
  obtain ⟨p, ps, parts⟩ := exists_tabParts g gs
  refine ⟨p, ps, parts, ?_⟩
  induction hs with
  | nil => exact parts
  | cons h hs ih =>
    obtain ⟨here, later⟩ := List.forall_mem_cons.mp untabbed
    rw [List.cons_append, tabParts, if_neg here, ih later]
    rfl

theorem expandTabs_append {hs : List Glyph} (untabbed : ∀ g ∈ hs, g.char ≠ '\t')
    (rs : List Glyph) : ∃ gs, expandTabs (hs ++ rs) = hs ++ gs ∧ Laid rs gs := by
  unfold expandTabs
  split
  next tabbed =>
    cases rs with
    | nil =>
      obtain ⟨h, member, tab⟩ : ∃ h ∈ hs, h.char = '\t' := by simpa using tabbed
      exact absurd tab (untabbed h member)
    | cons g gs =>
      obtain ⟨p, ps, own, whole⟩ := tabParts_append untabbed g gs
      have joined := flatten_tabParts (g :: gs)
      rw [own, List.flatten_cons] at joined
      rw [whole, ← joined]
      exact expandParts_cons hs (List.cons_ne_nil g p) (fun column => laid_expandParts column ps) 0
  next => exact ⟨rs, rfl, .refl rs⟩

section

variable {width : Nat} {hs : List Glyph} (foremost : isForemost (plain hs) = true)
  (fits : hs.length ≤ width) {g : Glyph} (space : g.char = ' ') (gs : List Glyph)

include foremost fits space

theorem wrapLine_foremost : ∃ rest, (wrapLine width (hs ++ g :: gs)).flatten = hs ++ rest
    ∧ Laid (g :: gs) rest := by
  have untabbed : ∀ h ∈ hs ++ [g], h.char ≠ '\t' := by
    refine List.forall_mem_append.mpr ⟨char_ne_of_isForemost foremost (by decide), ?_⟩
    simp [space]
  obtain ⟨es, expanded, laid⟩ := expandTabs_append untabbed gs
  rw [List.append_assoc, List.append_assoc, List.singleton_append, List.singleton_append]
    at expanded
  -- the first break comes after the space, so the first row begins with all that stands before it
  have later : ∀ b ∈ breaks width (plain (hs ++ g :: es)), (hs ++ [g]).length ≤ b := by
    have chars : plain (hs ++ g :: es) = plain hs ++ ' ' :: plain es := by
      simp [plain, space]
    intro b member
    rw [chars] at member
    have le := le_of_mem_breaks foremost (by simpa [plain] using fits) member
    simpa [plain] using le
  obtain ⟨row, rows, cut, whole⟩ := cutAt_foremost later es
  rw [List.append_assoc, List.append_assoc, List.singleton_append, List.singleton_append] at cut
  obtain ⟨first, cropped, own⟩ := @row_foremost width hs row foremost fits g space
  refine ⟨first ++ (rows.map fun l => cropGlyphs width (dropExcess width l)).flatten, ?_, ?_⟩
  · rw [wrapLine, expanded, cut, List.map_cons, List.flatten_cons, cropped, List.append_assoc]
  · have after := own.append (Laid.flatten_map (laid_row width) rows)
    rw [List.cons_append, whole] at after
    exact (Laid.kept g laid).trans after

/-- What stands first on a line is laid out as it is. -/
theorem wrap_foremost : ∃ rest, (wrap width (hs ++ g :: gs)).flatten = hs ++ rest
    ∧ Laid (g :: gs) rest := by
  have unbroken : ∀ h ∈ hs ++ [g], h.char ≠ '\n' := by
    refine List.forall_mem_append.mpr ⟨char_ne_of_isForemost foremost (by decide), ?_⟩
    simp [space]
  obtain ⟨l, ls, own, lines⟩ := glyphLines_append unbroken gs
  rw [List.append_assoc, List.append_assoc, List.singleton_append, List.singleton_append] at lines
  obtain ⟨first, wrapped, laid⟩ := wrapLine_foremost foremost fits space l
  refine ⟨first ++ (ls.map fun l => (wrapLine width l).flatten).flatten, ?_, ?_⟩
  · rw [flatten_wrap, lines, List.map_cons, List.flatten_cons, wrapped, List.append_assoc]
  · have cut := laid_glyphLines gs
    rw [own, List.flatten_cons] at cut
    have rows := laid.append (Laid.flatten_map (laid_wrapLine width) ls)
    exact (Laid.kept g cut).trans rows

end

end InlineCheck.Console
