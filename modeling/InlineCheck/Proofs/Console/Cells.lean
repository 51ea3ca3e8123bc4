import Mathlib.Algebra.GroupWithZero.Nat
import InlineCheck.Proofs.Console.Verbatim

/-! # Cells of single characters

Text without joiners and selectors takes the cells of its characters one by one.

* `cellLength_single` — so its cells add up.
* `chop_parts` — the lines that a text is folded into hold all of it, and each fits.
* `crop_padded` — cropping cuts off only spaces at the end when what stands before them fits.
-/

namespace InlineCheck.Console

/-! ## Units -/

theorem chars_graphemesFrom (last : Option Char) (acc : List Grapheme) (cs : List Char) :
    (graphemesFrom last acc cs).flatMap Grapheme.chars
      = acc.reverse.flatMap Grapheme.chars ++ cs := by
  fun_induction graphemesFrom last acc cs <;> simp_all

theorem chars_graphemes (cs : List Char) : (graphemes cs).flatMap Grapheme.chars = cs :=
  chars_graphemesFrom none [] cs

/-- A character that takes its own cells, whatever stands beside it. -/
def isSingle (c : Char) : Bool :=
  c != joiner && c != emojiSelector

theorem ne_of_isSingle {c : Char} (single : isSingle c = true) :
    c ≠ joiner ∧ c ≠ emojiSelector := by
  simpa [isSingle] using single

/-- The cells of single characters. -/
def cells (cs : List Char) : Nat :=
  (cs.map charWidth).sum

@[simp] theorem cells_nil : cells [] = 0 := rfl

@[simp] theorem cells_append (cs ds : List Char) : cells (cs ++ ds) = cells cs + cells ds := by
  simp [cells]

theorem cells_cons (c : Char) (cs : List Char) : cells (c :: cs) = charWidth c + cells cs := by
  simp [cells]

@[simp] theorem cells_singleton (c : Char) : cells [c] = charWidth c := by
  simp [cells]

@[simp] theorem cells_spaces (n : Nat) : cells (List.replicate n ' ') = n := by
  have one : charWidth ' ' = 1 := rfl
  simp [cells, one]

theorem charWidth_le_two (c : Char) : charWidth c ≤ 2 := by
  unfold charWidth
  dsimp only
  split
  · decide
  · split
    · decide
    · split
      · decide
      · split <;> decide

theorem cellLength_single {cs : List Char} (single : ∀ c ∈ cs, isSingle c = true) :
    cellLength cs = cells cs := by
  have taken (last : Option Char) : cellLengthFrom last cs = cells cs := by
    induction cs generalizing last with
    | nil => rfl
    | cons c cs ih =>
      obtain ⟨head, tail⟩ := List.forall_mem_cons.mp single
      obtain ⟨notJoiner, notSelector⟩ := ne_of_isSingle head
      rw [cellLengthFrom.eq_def]
      simp [notJoiner, notSelector, ih tail, cells]
  exact taken none

/-- The units of single characters after a unit: a character without cells joins the unit before it,
every other one begins a unit. -/
def unitsFrom (g : Grapheme) : List Char → List Grapheme
  | [] => [g]
  | c :: cs =>
    if charWidth c = 0 then unitsFrom ⟨g.chars ++ [c], g.width⟩ cs
    else g :: unitsFrom ⟨[c], charWidth c⟩ cs

theorem graphemesFrom_single {cs : List Char} (single : ∀ c ∈ cs, isSingle c = true)
    (last : Option Char) (g : Grapheme) (gs : List Grapheme) :
    graphemesFrom last (g :: gs) cs = gs.reverse ++ unitsFrom g cs := by
  induction cs generalizing last g gs with
  | nil => simp [graphemesFrom, unitsFrom]
  | cons c cs ih =>
    obtain ⟨head, tail⟩ := List.forall_mem_cons.mp single
    obtain ⟨notJoiner, notSelector⟩ := ne_of_isSingle head
    rw [graphemesFrom.eq_def]
    by_cases zero : charWidth c = 0
    · simp [notJoiner, notSelector, zero, unitsFrom, ih tail]
    · simp [notJoiner, notSelector, zero, unitsFrom, ih tail]

theorem graphemes_single {c : Char} {cs : List Char} (single : ∀ d ∈ c :: cs, isSingle d = true) :
    graphemes (c :: cs) = unitsFrom ⟨[c], charWidth c⟩ cs := by
  obtain ⟨head, tail⟩ := List.forall_mem_cons.mp single
  obtain ⟨notJoiner, notSelector⟩ := ne_of_isSingle head
  simp [graphemes, graphemesFrom.eq_2, notJoiner, notSelector, graphemesFrom_single tail]

/-- A unit that takes the cells of its characters. -/
structure Grapheme.Sized (g : Grapheme) : Prop where
  width_eq : g.width = cells g.chars
  narrow : g.width ≤ 2

theorem sized_unitsFrom {g : Grapheme} (sized : g.Sized) (cs : List Char) :
    ∀ u ∈ unitsFrom g cs, u.Sized := by
  induction cs generalizing g with
  | nil => simpa [unitsFrom] using sized
  | cons c cs ih =>
    rw [unitsFrom]
    split
    next zero => exact ih ⟨by simp [sized.width_eq, zero], sized.narrow⟩
    next =>
      refine List.forall_mem_cons.mpr ⟨sized, ih ?_⟩
      exact ⟨(cells_singleton c).symm, charWidth_le_two c⟩

theorem sized_graphemes {cs : List Char} (single : ∀ c ∈ cs, isSingle c = true) :
    ∀ u ∈ graphemes cs, u.Sized := by
  cases cs with
  | nil => exact nofun
  | cons c cs =>
    rw [graphemes_single single]
    exact sized_unitsFrom ⟨(cells_singleton c).symm, charWidth_le_two c⟩ cs

/-! ## Folding -/

/-- The lines that units are put on hold them all, and none is too long. -/
theorem chopFrom_parts {width size : Nat} {line : List Char} {gs : List Grapheme}
    (sized : ∀ u ∈ gs, u.Sized) (wide : 2 ≤ width) (filled : size = cells line)
    (fits : size ≤ width) (some : 0 < size + cells (gs.flatMap Grapheme.chars)) :
    (chopFrom width size line gs).flatten = line ++ gs.flatMap Grapheme.chars
      ∧ ∀ part ∈ chopFrom width size line gs, cells part ≤ width := by
  induction gs generalizing size line with
  | nil =>
    have positive : size ≠ 0 := by simpa [Nat.pos_iff_ne_zero] using some
    simp [chopFrom, positive, ← filled, fits]
  | cons g gs ih =>
    obtain ⟨first, others⟩ := List.forall_mem_cons.mp sized
    have narrow := first.narrow
    rw [List.flatMap_cons, cells_append, ← first.width_eq] at some
    rw [chopFrom]
    split
    next full =>
      -- the unit begins a line, which has room for every unit
      obtain ⟨all, short⟩ := ih others first.width_eq (by omega) (by omega)
      refine ⟨by simp [all], List.forall_mem_cons.mpr ⟨by omega, short⟩⟩
    next =>
      have longer : size + g.width = cells (line ++ g.chars) := by
        rw [cells_append, filled, first.width_eq]
      obtain ⟨all, short⟩ := ih others longer (by omega) (by omega)
      exact ⟨by simp [all], short⟩

theorem chop_parts {width : Nat} {cs : List Char} (single : ∀ c ∈ cs, isSingle c = true)
    (wide : 2 ≤ width) (some : 0 < cells cs) :
    (chop width cs).flatten = cs ∧ ∀ part ∈ chop width cs, cells part ≤ width := by
  have parts := chopFrom_parts (sized_graphemes single) wide cells_nil.symm (Nat.zero_le width)
    (by rwa [chars_graphemes, Nat.zero_add])
  rwa [chars_graphemes, List.nil_append] at parts

/-! ## Cropping -/

theorem cropUnits_spaces (width n : Nat) :
    cropUnits width (List.replicate n ⟨[' '], 1⟩) = List.replicate (min n width) ' ' := by
  induction n generalizing width with
  | zero => simp [cropUnits]
  | succ n ih =>
    cases width with
    | zero => simp [List.replicate_succ, cropUnits]
    | succ width => simp [List.replicate_succ, cropUnits, ih]

theorem unitsFrom_spaces (g : Grapheme) (n : Nat) :
    unitsFrom g (List.replicate n ' ') = g :: List.replicate n ⟨[' '], 1⟩ := by
  have one : charWidth ' ' = 1 := rfl
  induction n generalizing g with
  | zero => rfl
  | succ n ih => simp [List.replicate_succ, unitsFrom, one, ih]

theorem cropUnits_padded {width : Nat} (positive : 0 < width) (g : Grapheme) (cs : List Char)
    (n : Nat) (fits : g.width + cells cs ≤ width) :
    cropUnits width (unitsFrom g (cs ++ List.replicate n ' '))
      = g.chars ++ (cs ++ List.replicate (min n (width - (g.width + cells cs))) ' ') := by
  induction cs generalizing width g with
  | nil =>
    have within : g.width ≤ width := fits
    simp [unitsFrom_spaces, cropUnits, cropUnits_spaces, within, Nat.pos_iff_ne_zero.mp positive]
  | cons c cs ih =>
    rw [cells_cons] at fits ⊢
    rw [List.cons_append, unitsFrom]
    split
    next zero =>
      rw [ih positive _ (by simpa [zero] using fits)]
      simp [zero]
    next nonzero =>
      have rest : width - g.width - (charWidth c + cells cs)
          = width - (g.width + (charWidth c + cells cs)) := by omega
      rw [cropUnits, if_neg (by omega), if_pos (by omega),
        ih (by omega) ⟨[c], charWidth c⟩ (by simp only; omega)]
      simp [rest]

/-- Cropping cuts off only spaces at the end when what stands before them fits. -/
theorem crop_padded {width : Nat} (positive : 0 < width) {core : List Char}
    (single : ∀ c ∈ core, isSingle c = true) (fits : cells core ≤ width) (n : Nat) :
    ∃ m ≤ n, crop width (core ++ List.replicate n ' ') = core ++ List.replicate m ' '
      ∧ cells core + m ≤ width := by
  have padded : ∀ c ∈ core ++ List.replicate n ' ', isSingle c = true := by
    intro c member
    rcases List.mem_append.mp member with inside | space
    · exact single c inside
    · rw [List.eq_of_mem_replicate space]
      decide
  have length : cellLength (core ++ List.replicate n ' ') = cells core + n := by
    rw [cellLength_single padded, cells_append, cells_spaces]
  unfold crop
  split
  next whole => exact ⟨n, Nat.le_refl n, rfl, by omega⟩
  next =>
    refine ⟨min n (width - cells core), Nat.min_le_left .., ?_, by omega⟩
    cases core with
    | nil =>
      cases n with
      | zero => simp [graphemes, graphemesFrom, cropUnits]
      | succ n =>
        have units : graphemes (List.replicate (n + 1) ' ')
            = List.replicate (n + 1) ⟨[' '], 1⟩ := by
          rw [List.nil_append, List.replicate_succ] at padded
          rw [List.replicate_succ, graphemes_single padded, unitsFrom_spaces, List.replicate_succ]
          rfl
        simp [units, cropUnits_spaces]
    | cons c core =>
      rw [cells_cons] at fits ⊢
      rw [List.cons_append] at padded
      rw [List.cons_append, graphemes_single padded, cropUnits_padded positive _ _ _ fits]
      simp

end InlineCheck.Console
