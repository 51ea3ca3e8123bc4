import InlineCheck.Proofs.Console.Layout

/-! # Lines of one row

When a console writes a line as it is.

* `Tame` — lines of which the words take their cells independently of each other.
* `cellLength_lineWords` — the cells of such a line are those of its words.
* `writes_iff` — a line that fits is written as it is, but for spaces at its end.
* `eq_of_writes` — a line that is written in one row and does not end in a blank is written as it
  is, so that it must have fitted.
-/

namespace InlineCheck.Console

/-! ## Tame lines -/

/-- A character that swallows no other one and is no blank but the space. -/
def isTame (c : Char) : Bool :=
  c != joiner && (!Text.isBlank c || c == ' ')

def Tame (cs : List Char) : Prop :=
  ∀ c ∈ cs, isTame c = true

instance (cs : List Char) : Decidable (Tame cs) :=
  decidable_of_iff (cs.all isTame = true) List.all_eq_true

theorem ne_joiner_of_isTame {c : Char} (tame : isTame c = true) : c ≠ joiner := by
  rintro rfl
  simp [isTame] at tame

theorem eq_space_of_isTame {c : Char} (tame : isTame c = true) (blank : Text.isBlank c = true) :
    c = ' ' := by
  simp only [isTame, blank, Bool.and_eq_true] at tame
  simpa using tame.2

namespace Tame

variable {cs ds : List Char}

theorem append_iff : Tame (cs ++ ds) ↔ Tame cs ∧ Tame ds :=
  List.forall_mem_append

theorem cons_iff {c : Char} : Tame (c :: cs) ↔ isTame c = true ∧ Tame cs :=
  List.forall_mem_cons

theorem spaced (tame : Tame cs) : ∀ c ∈ cs, Text.isBlank c = true → c = ' ' :=
  fun c member => eq_space_of_isTame (tame c member)

end Tame

/-! ## Cells -/

/-- The cells that a character adds after `last`, and what the next one comes after. -/
def cellStep (last : Option Char) (c : Char) : Nat × Option Char :=
  if c = emojiSelector then (if last.any isWidened then 1 else 0, none)
  else (charWidth c, if charWidth c = 0 then last else some c)

theorem cellLengthFrom_cons {c : Char} (single : c ≠ joiner) (last : Option Char)
    (cs : List Char) : cellLengthFrom last (c :: cs)
      = (cellStep last c).1 + cellLengthFrom (cellStep last c).2 cs := by
  rw [cellLengthFrom.eq_def, cellStep]
  by_cases selector : c = emojiSelector
  · have apart : emojiSelector ≠ joiner := by decide
    cases last <;> simp [selector, apart]
  · simp [single, selector]

/-- Only whether the last character can be widened matters. -/
theorem cellLengthFrom_congr {last last' : Option Char}
    (same : last.any isWidened = last'.any isWidened) {cs : List Char} (tame : Tame cs) :
    cellLengthFrom last cs = cellLengthFrom last' cs := by
  induction cs generalizing last last' with
  | nil => rfl
  | cons c cs ih =>
    obtain ⟨head, tail⟩ := Tame.cons_iff.mp tame
    have single := ne_joiner_of_isTame head
    rw [cellLengthFrom_cons single, cellLengthFrom_cons single, cellStep, cellStep]
    by_cases selector : c = emojiSelector
    · simp [selector, same]
    · by_cases zero : charWidth c = 0
      · simp [selector, zero, ih same tail]
      · simp [selector, zero]

theorem cellLengthFrom_append {cs : List Char} (tame : Tame cs) (last : Option Char)
    (ds : List Char) : cellLengthFrom last (cs ++ ds)
      = cellLengthFrom last cs
        + cellLengthFrom (cs.foldl (fun last c => (cellStep last c).2) last) ds := by
  induction cs generalizing last with
  | nil => simp [cellLengthFrom]
  | cons c cs ih =>
    obtain ⟨head, tail⟩ := Tame.cons_iff.mp tame
    have single := ne_joiner_of_isTame head
    rw [List.cons_append, cellLengthFrom_cons single, cellLengthFrom_cons single, ih tail,
      List.foldl_cons, Nat.add_assoc]

theorem cellLength_le_append {cs : List Char} (tame : Tame cs) (ds : List Char) :
    cellLength cs ≤ cellLength (cs ++ ds) := by
  rw [cellLength, cellLength, cellLengthFrom_append tame]
  exact Nat.le_add_right _ _

/-- What follows a space takes its own cells. -/
theorem cellLength_after_space {cs ds : List Char} (before : Tame (cs ++ [' '])) (after : Tame ds) :
    cellLength (cs ++ [' '] ++ ds) = cellLength (cs ++ [' ']) + cellLength ds := by
  have space (last : Option Char) : (cellStep last ' ').2 = some ' ' := rfl
  rw [cellLength, cellLengthFrom_append before, List.foldl_append, List.foldl_cons, space,
    List.foldl_nil]
  exact congrArg _ (cellLengthFrom_congr (by decide) after)

theorem cellLength_pos_of_space {cs : List Char} (tame : Tame cs) :
    0 < cellLength (cs ++ [' ']) := by
  have space (last : Option Char) : cellLengthFrom last [' '] = 1 :=
    cellLengthFrom_cons (by decide) last []
  rw [cellLength, cellLengthFrom_append tame, space]
  omega

theorem cellLength_trimEnd_le {cs : List Char} (tame : Tame cs) :
    cellLength (Text.trimEnd Text.isBlank cs) ≤ cellLength cs := by
  obtain ⟨blanks, split, _⟩ := trimEnd_split cs
  have core : Tame (Text.trimEnd Text.isBlank cs) :=
    fun c member => tame c (mem_of_mem_trimEnd member)
  have bound := cellLength_le_append core blanks
  rwa [← split] at bound

/-! ## Words -/

theorem cellLength_lineWordsFrom {part : WordPart} {run cs : List Char}
    (tame : Tame (run.reverse ++ cs)) (unread : part = .lead → ink cs ≠ [])
    (trailing : part = .trail → ∃ front, run = ' ' :: front) :
    ((lineWordsFrom part run cs).map cellLength).sum = cellLength (run.reverse ++ cs) := by
  induction cs generalizing part run with
  | nil =>
    by_cases lead : part = .lead
    · exact absurd rfl (unread lead)
    · simp [lineWordsFrom, lead]
  | cons c cs ih =>
    have moved : run.reverse ++ c :: cs = (c :: run).reverse ++ cs := by simp
    rw [lineWordsFrom]
    split
    next blank =>
      have space : c = ' ' := tame.spaced c (by simp) blank
      rw [moved] at tame ⊢
      refine ih tame (fun lead => ?_) (fun _ => ⟨run, by rw [space]⟩)
      have pale : ink [c] = [] := by simp [ink, blank]
      rw [ink_cons, pale] at unread
      refine unread ?_
      split at lead
      · cases lead
      · exact lead
    next dark =>
      split
      next trail =>
        -- the word before ends in a space, and a new one begins
        obtain ⟨front, rfl⟩ := trailing trail
        rw [List.reverse_cons] at tame ⊢
        obtain ⟨before, after⟩ := Tame.append_iff.mp tame
        rw [List.map_cons, List.sum_cons, cellLength_after_space before after]
        congr 1
        exact @ih .body [c] after (fun lead => by cases lead) fun trail => by cases trail
      next =>
        rw [moved] at tame ⊢
        exact ih tame (fun lead => by cases lead) fun trail => by cases trail

/-- The cells of a line are those of its words. -/
theorem cellLength_lineWords {cs : List Char} (tame : Tame cs) (inked : ink cs ≠ []) :
    ((lineWords cs).map cellLength).sum = cellLength cs :=
  @cellLength_lineWordsFrom .lead [] cs tame (fun _ => inked) nofun

/-! ## Lines that fit -/

theorem breaksFrom_of_fits {width offset start : Nat} {ws : List (List Char)}
    (tame : ∀ w ∈ ws, Tame w) (fits : offset + (ws.map cellLength).sum ≤ width) :
    breaksFrom width offset start ws = [] := by
  induction ws generalizing offset start with
  | nil => rfl
  | cons w ws ih =>
    obtain ⟨own, others⟩ := List.forall_mem_cons.mp tame
    have bound := cellLength_trimEnd_le own
    rw [List.map_cons, List.sum_cons] at fits
    rw [breaksFrom]
    dsimp only
    rw [if_pos (by omega)]
    exact ih others (by omega)

theorem lineWords_spec {cs : List Char} (inked : ink cs ≠ []) :
    (lineWords cs).flatten = cs ∧ ∀ w ∈ lineWords cs, ink w ≠ [] :=
  lineWordsFrom_spec (fun _ => inked) (fun other => absurd rfl other)

theorem tame_lineWords {cs : List Char} (tame : Tame cs) (inked : ink cs ≠ []) :
    ∀ w ∈ lineWords cs, Tame w :=
  fun _ member c inside =>
    tame c ((lineWords_spec inked).1 ▸ List.mem_flatten_of_mem member inside)

theorem breaks_of_fits {width : Nat} {cs : List Char} (tame : Tame cs) (inked : ink cs ≠ [])
    (fits : cellLength cs ≤ width) : breaks width cs = [] := by
  refine breaksFrom_of_fits (tame_lineWords tame inked) ?_
  rw [Nat.zero_add, cellLength_lineWords tame inked]
  exact fits

/-! ## Folded words -/

/-- The units of a text take its cells. -/
theorem sum_width_graphemesFrom {last : Option Char} {acc : List Grapheme} {cs : List Char}
    (tame : Tame cs) (fresh : acc = [] → last = none) :
    ((graphemesFrom last acc cs).map Grapheme.width).sum
      = (acc.map Grapheme.width).sum + cellLengthFrom last cs := by
  -- a character of no width joins the unit before it, or begins one when there is none
  induction cs generalizing last acc with
  | nil => simp [graphemesFrom, cellLengthFrom]
  | cons c cs ih =>
    obtain ⟨head, tail⟩ := Tame.cons_iff.mp tame
    have single := ne_joiner_of_isTame head
    rw [cellLengthFrom_cons single, cellStep]
    cases acc with
    | nil =>
      obtain rfl := fresh rfl
      by_cases selector : c = emojiSelector
      · rw [graphemesFrom.eq_2]
        simp [selector, ih tail]
      · rw [graphemesFrom.eq_2]
        simp [single, selector, ih tail]
    | cons g gs =>
      rw [graphemesFrom.eq_def]
      by_cases selector : c = emojiSelector
      · have apart : emojiSelector ≠ joiner := by decide
        cases last with
        | none => simp [selector, apart, ih tail]
        | some l =>
          by_cases widened : isWidened l = true
          · simp [selector, apart, widened, ih tail]
            omega
          · -- a character that cannot be widened counts no more than none
            have alike := @cellLengthFrom_congr (some l) none (by simp [widened]) cs tail
            simp [selector, apart, widened, ih tail, alike]
      · by_cases zero : charWidth c = 0
        · simp [single, selector, zero, ih tail]
        · simp [single, selector, zero, ih tail]
          omega

theorem sum_width_graphemes {cs : List Char} (tame : Tame cs) :
    ((graphemes cs).map Grapheme.width).sum = cellLength cs :=
  (sum_width_graphemesFrom tame fun _ => rfl).trans (Nat.zero_add _)

theorem chopFrom_eq_nil {width size : Nat} {line : List Char} {gs : List Grapheme}
    (lineless : chopFrom width size line gs = []) : size + (gs.map Grapheme.width).sum = 0 := by
  induction gs generalizing size line with
  | nil => simpa [chopFrom] using lineless
  | cons g gs ih =>
    rw [chopFrom] at lineless
    split at lineless
    · cases lineless
    · rw [List.map_cons, List.sum_cons, ← Nat.add_assoc]
      exact ih lineless

/-- A text with cells is put on some line. -/
theorem chop_ne_nil {width : Nat} {cs : List Char} (tame : Tame cs) (filled : 0 < cellLength cs) :
    chop width cs ≠ [] := by
  intro lineless
  have empty := chopFrom_eq_nil lineless
  rw [sum_width_graphemes tame] at empty
  omega

/-! ## Lines without a break -/

theorem foldBreaks_ne_nil {start : Nat} (later : start ≠ 0) {parts : List (List Char)}
    (folded : parts ≠ []) : (foldBreaks start parts).1 ≠ [] := by
  cases parts with
  | nil => exact absurd rfl folded
  | cons part parts => cases parts <;> simp [foldBreaks, later]

/-- Words that no break comes before fit on the row, up to the blanks after the last one. -/
theorem fits_of_unbroken {width offset start : Nat} {ws : List (List Char)} (wordy : ws ≠ [])
    (tame : ∀ w ∈ ws, Tame w) (filled : offset ≠ 0) (later : start ≠ 0)
    (ended : ∀ w, ws.getLast? = some w → Text.trimEnd Text.isBlank w = w)
    (unbroken : breaksFrom width offset start ws = []) :
    offset + (ws.map cellLength).sum ≤ width := by
  -- `offset` counts the cells of the row that the words before have taken
  induction ws generalizing offset start with
  | nil => exact absurd rfl wordy
  | cons w ws ih =>
    obtain ⟨own, others⟩ := List.forall_mem_cons.mp tame
    rw [breaksFrom] at unbroken
    dsimp only at unbroken
    split at unbroken
    next roomy =>
      rw [List.map_cons, List.sum_cons]
      by_cases last : ws = []
      · subst last
        rw [ended w rfl] at roomy
        simpa using roomy
      · rw [← Nat.add_assoc]
        refine ih last others (by omega) (by omega) (fun v found => ended v ?_) unbroken
        rw [List.getLast?_cons_of_ne_nil last, found]
    next tight =>
      split at unbroken
      next long =>
        -- a word that is folded begins a row of its own
        have bound := cellLength_trimEnd_le own
        have parts := @chop_ne_nil width w own (by omega)
        exact absurd (List.append_eq_nil_iff.mp unbroken).1 (foldBreaks_ne_nil later parts)
      next =>
        split at unbroken
        next => cases unbroken
        next here => simp [filled, later] at here

/-- A line does not end in a blank. -/
def EndsDark (cs : List Char) : Prop :=
  ∀ c, cs.getLast? = some c → Text.isBlank c = false

theorem trimEnd_eq_self {cs : List Char} (dark : EndsDark cs) :
    Text.trimEnd Text.isBlank cs = cs := by
  rcases List.eq_nil_or_concat cs with rfl | ⟨front, c, rfl⟩
  · rfl
  · have last : Text.isBlank c = false := dark c (by simp)
    simp [Text.trimEnd, last]

theorem ink_ne_nil {cs : List Char} (nonempty : cs ≠ []) (dark : EndsDark cs) : ink cs ≠ [] := by
  obtain ⟨front, c, rfl⟩ := (List.eq_nil_or_concat cs).resolve_left nonempty
  have last : Text.isBlank c = false := dark c (by simp)
  simp [ink, last]

theorem endsDark_last_word {cs w : List Char} (dark : EndsDark cs) (inked : ink cs ≠ [])
    (last : (lineWords cs).getLast? = some w) : EndsDark w := by
  obtain ⟨all, words⟩ := lineWords_spec inked
  obtain ⟨front, split⟩ := List.getLast?_eq_some_iff.mp last
  have own : w ≠ [] := by
    rintro rfl
    exact words [] (by simp [split]) rfl
  intro c found
  refine dark c ?_
  rw [← all, split, List.flatten_append, List.getLast?_append]
  simp [found]

/-- A line that is not broken fits, if its first word does and it does not end in a blank. -/
theorem fits_of_breaks {width : Nat} {cs w : List Char} {ws : List (List Char)} (tame : Tame cs)
    (dark : EndsDark cs) (words : lineWords cs = w :: ws) (more : ws ≠ [])
    (filled : 0 < cellLength w) (roomy : cellLength (Text.trimEnd Text.isBlank w) ≤ width)
    (unbroken : breaks width cs = []) : cellLength cs ≤ width := by
  have nonempty : cs ≠ [] := by
    rintro rfl
    cases words
  have inked := ink_ne_nil nonempty dark
  have tames := tame_lineWords tame inked
  have ended := fun v => trimEnd_eq_self ∘ @endsDark_last_word cs v dark inked
  rw [← cellLength_lineWords tame inked]
  rw [words] at tames ended ⊢
  rw [breaks, words, breaksFrom] at unbroken
  dsimp only at unbroken
  rw [if_pos (by omega)] at unbroken
  have begun : 0 + w.length ≠ 0 := by
    intro zero
    rw [List.length_eq_zero_iff.mp (by omega : w.length = 0)] at filled
    exact absurd filled (by decide)
  have fits := fits_of_unbroken more (fun v member => tames v (List.mem_cons_of_mem _ member))
    (by omega) begun (fun v found => ended v ?_) unbroken
  · simpa using fits
  · rw [List.getLast?_cons_of_ne_nil more, found]

/-! ## Rows of glyphs -/

section

variable {width : Nat} {gs : List Glyph}

theorem glyphLines_of_tame (tame : Tame (plain gs)) : glyphLines gs = [gs] := by
  induction gs with
  | nil => rfl
  | cons g gs ih =>
    obtain ⟨head, tail⟩ := Tame.cons_iff.mp tame
    have other : g.char ≠ '\n' := by
      intro newline
      rw [newline] at head
      cases head
    simp [glyphLines, other, ih tail]

theorem length_cutAt {α : Type} (pos : Nat) (bs : List Nat) (xs : List α) :
    (cutAt pos bs xs).length = bs.length + 1 := by
  induction bs generalizing pos xs with
  | nil => rfl
  | cons b bs ih => simp [cutAt, ih]

theorem wrap_of_tame (tame : Tame (plain gs)) : wrap width gs
    = (cutAt 0 (breaks width (plain gs)) gs).map fun l =>
      cropGlyphs width (dropExcess width l) := by
  rw [wrap, glyphLines_of_tame tame, List.flatMap_singleton, wrapLine,
    expandTabs_of_spaced tame.spaced]

theorem plain_cropGlyphs_of_fits (fits : cellLength (plain gs) ≤ width) :
    plain (cropGlyphs width gs) = plain gs := by
  rw [plain_cropGlyphs, crop, if_pos fits]
  exact List.take_of_length_le (by simp [plain])

theorem length_blanks_eq_zero_iff :
    (gs.reverse.takeWhile fun g => Text.isBlank g.char).length = 0 ↔ EndsDark (plain gs) := by
  rcases List.eq_nil_or_concat gs with rfl | ⟨front, g, rfl⟩
  · simp [plain, EndsDark]
  · cases last : Text.isBlank g.char with
    | true => simp [plain, EndsDark, last]
    | false => simp [plain, EndsDark, last]

theorem dropExcess_append : ∃ rest, dropExcess width gs ++ rest = gs :=
  List.take_prefix _ gs

/-- Blanks at the end are dropped only from a row that has more characters than there are cells. -/
theorem plain_dropExcess_eq_iff :
    plain (dropExcess width gs) = plain gs ↔ gs.length ≤ width ∨ EndsDark (plain gs) := by
  have length : (dropExcess width gs).length = gs.length
      - min (gs.reverse.takeWhile fun g => Text.isBlank g.char).length (gs.length - width) := by
    rw [dropExcess, List.length_take]
    omega
  rw [← length_blanks_eq_zero_iff]
  constructor
  · intro same
    have kept : (dropExcess width gs).length = gs.length := by
      simpa [plain] using congrArg List.length same
    omega
  · intro whole
    rw [List.IsPrefix.eq_of_length (@dropExcess_append width gs) (by omega)]

theorem cellLength_dropExcess_le (tame : Tame (plain gs)) :
    cellLength (plain (dropExcess width gs)) ≤ cellLength (plain gs) := by
  obtain ⟨rest, split⟩ := @dropExcess_append width gs
  have whole : plain (dropExcess width gs) ++ plain rest = plain gs := by
    rw [plain, plain, ← List.map_append, split, plain]
  rw [← whole] at tame ⊢
  exact cellLength_le_append (Tame.append_iff.mp tame).1 _

/-- A line that fits is written as it is, unless it ends in blanks and has more characters than
there are cells. -/
theorem writes_iff (tame : Tame (plain gs)) (inked : ink (plain gs) ≠ [])
    (fits : cellLength (plain gs) ≤ width) :
    writtenLines (wrap width gs) = plain gs ++ ['\n']
      ↔ gs.length ≤ width ∨ EndsDark (plain gs) := by
  have row : plain (cropGlyphs width (dropExcess width gs)) = plain (dropExcess width gs) :=
    plain_cropGlyphs_of_fits (Nat.le_trans (cellLength_dropExcess_le tame) fits)
  rw [wrap_of_tame tame, breaks_of_fits tame inked fits, ← plain_dropExcess_eq_iff]
  simp [cutAt, writtenLines, row]

theorem length_le_count (ls : List (List Glyph)) : ls.length ≤ (writtenLines ls).count '\n' := by
  induction ls with
  | nil => exact Nat.le_refl _
  | cons l ls ih =>
    have split : writtenLines (l :: ls) = (plain l ++ ['\n']) ++ writtenLines ls := rfl
    rw [split, List.count_append, List.count_append, List.length_cons, List.count_singleton_self]
    omega

/-- A line that is written in one row, and does not end in a blank, is written as it is. -/
theorem eq_of_writes {w line : List Char} {ws : List (List Char)} (tame : Tame (plain gs))
    (dark : EndsDark (plain gs)) (words : lineWords (plain gs) = w :: ws) (more : ws ≠ [])
    (filled : 0 < cellLength w) (roomy : cellLength (Text.trimEnd Text.isBlank w) ≤ width)
    (clean : '\n' ∉ line) (written : writtenLines (wrap width gs) = line ++ ['\n']) :
    plain gs = line := by
  -- each row ends in a newline, so that there is one row and no break
  have rows := length_le_count (wrap width gs)
  rw [written, List.count_append, List.count_eq_zero_of_not_mem clean, List.count_singleton_self,
    wrap_of_tame tame, List.length_map, length_cutAt] at rows
  have unbroken : breaks width (plain gs) = [] := List.length_eq_zero_iff.mp (by omega)
  have fits := fits_of_breaks tame dark words more filled roomy unbroken
  have nonempty : plain gs ≠ [] := by
    intro empty
    rw [empty] at words
    cases words
  have own := (writes_iff tame (ink_ne_nil nonempty dark) fits).mpr (.inr dark)
  exact List.append_cancel_right (own.symm.trans written)

end

end InlineCheck.Console
