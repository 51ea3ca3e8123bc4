import Mathlib.Data.List.TakeWhile
import InlineCheck.Proofs.Console.Cells

/-! # Text in rows

How a console lays text out in rows of its width.

* `Shows` — what is written shows a text: put together, the rows are the text again, but for spaces
  that stood where a row was broken.
* `wrap_shows` — a text that is `Wrappable` is shown: the rows that are cut fit, up to the blanks at
  their ends, and only such blanks are cut off.
-/

namespace InlineCheck.Console

/-! ## What is shown -/

/-- Rows of a width that show a line. A break stands for the spaces that it replaces. -/
inductive Rows (width : Nat) : List Char → List (List Char) → Prop where
  | last {row : List Char} (fits : cellLength row ≤ width) : Rows width row [row]
  | broken {row spaces rest : List Char} {rows : List (List Char)} (fits : cellLength row ≤ width)
      (blank : ∀ c ∈ spaces, c = ' ') (later : Rows width rest rows) :
      Rows width (row ++ (spaces ++ rest)) (row :: rows)

/-- Rows, each ended by a newline, that show lines. -/
inductive ShowsLines (width : Nat) : List (List Char) → List Char → Prop where
  | none : ShowsLines width [] []
  | line {line written : List Char} {rows lines : List (List Char)} (laid : Rows width line rows)
      (later : ShowsLines width lines written) :
      ShowsLines width (line :: lines) (rows.flatMap (· ++ ['\n']) ++ written)

/-- What is written shows a text in rows of a width. -/
def Shows (width : Nat) (text written : List Char) : Prop :=
  ShowsLines width (Text.lines text) written

@[simp] theorem ink_newline (cs : List Char) : ink ('\n' :: cs) = ink cs := rfl

theorem ink_spaces {cs : List Char} (blank : ∀ c ∈ cs, c = ' ') : ink cs = [] :=
  List.filter_eq_nil_iff.mpr fun c member => by rw [blank c member]; decide

theorem Rows.ink_eq {width : Nat} {line : List Char} {rows : List (List Char)}
    (laid : Rows width line rows) : ink (rows.flatMap (· ++ ['\n'])) = ink line := by
  induction laid with
  | last => simp
  | broken _ blank _ ih => simp [ink_spaces blank, ih]

theorem ink_lines (cs : List Char) : ink (Text.lines cs).flatten = ink cs := by
  unfold Text.lines
  induction cs with
  | nil => rfl
  | cons c cs ih =>
    rw [Text.splitAt]
    split
    next newline =>
      subst newline
      exact ih
    next =>
      rw [ink_cons c cs, ← ih]
      cases Text.splitAt '\n' cs with
      | nil => simp
      | cons p ps =>
        simp only [List.flatten_cons, List.cons_append]
        rw [ink_cons]

theorem Shows.ink_eq {width : Nat} {text written : List Char} (shown : Shows width text written) :
    ink written = ink text := by
  have lines {ls : List (List Char)} {written : List Char} (laid : ShowsLines width ls written) :
      ink written = ink ls.flatten := by
    induction laid with
    | none => rfl
    | line laid _ ih => simp [laid.ink_eq, ih]
  rw [lines shown, ink_lines]

/-! ## Words -/

theorem ink_reverse (cs : List Char) : ink cs.reverse = (ink cs).reverse :=
  List.filter_reverse

/-- The words of a line hold all of it, and each has ink. -/
theorem lineWordsFrom_spec {part : WordPart} {run cs : List Char}
    (unread : part = .lead → ink cs ≠ []) (begun : part ≠ .lead → ink run ≠ []) :
    (lineWordsFrom part run cs).flatten = run.reverse ++ cs
      ∧ ∀ w ∈ lineWordsFrom part run cs, ink w ≠ [] := by
  induction cs generalizing part run with
  | nil =>
    by_cases lead : part = .lead
    · exact absurd rfl (unread lead)
    · simpa [lineWordsFrom, lead, ink_reverse] using begun lead
  | cons c cs ih =>
    rw [lineWordsFrom]
    split
    next blank =>
      -- a blank belongs to the word, and changes nothing about its ink
      have pale : ink [c] = [] := by simp [ink, blank]
      have later := @ih (if part = .body then .trail else part) (c :: run) (fun lead => ?_)
        (fun other => ?_)
      · simpa using later
      · rw [ink_cons, pale] at unread
        refine unread ?_
        split at lead
        · cases lead
        · exact lead
      · rw [ink_cons, pale]
        refine begun fun lead => other ?_
        simp [lead]
    next dark =>
      have inked (ds : List Char) : ink (c :: ds) ≠ [] := by simp [ink, dark]
      split
      next trail =>
        obtain ⟨all, words⟩ := @ih .body [c] (fun lead => by cases lead) fun _ => inked []
        have own : ink run.reverse ≠ [] := by
          simpa [ink_reverse] using begun (by simp [trail])
        exact ⟨by simp [all], List.forall_mem_cons.mpr ⟨own, words⟩⟩
      next =>
        have later := @ih .body (c :: run) (fun lead => by cases lead) fun _ => inked run
        simpa using later

theorem trimEnd_append (row : List Char) {w : List Char} (inked : ink w ≠ []) :
    Text.trimEnd Text.isBlank (row ++ w) = row ++ Text.trimEnd Text.isBlank w := by
  have left : w.reverse.dropWhile Text.isBlank ≠ [] := by
    intro none
    refine inked (List.filter_eq_nil_iff.mpr fun c member => ?_)
    simpa using List.dropWhile_eq_nil_iff.mp none c (List.mem_reverse.mpr member)
  simp [Text.trimEnd, List.dropWhile_append, left]

theorem trimEnd_split (cs : List Char) : ∃ blanks,
    cs = Text.trimEnd Text.isBlank cs ++ blanks ∧ ∀ c ∈ blanks, Text.isBlank c = true := by
  refine ⟨(cs.reverse.takeWhile Text.isBlank).reverse, ?_, fun c member => ?_⟩
  · rw [Text.trimEnd, ← List.reverse_append, List.takeWhile_append_dropWhile, List.reverse_reverse]
  · exact List.mem_takeWhile_imp (List.mem_reverse.mp member)

/-! ## Breaks -/

theorem flatten_cutAt {α : Type} (pos : Nat) (bs : List Nat) (xs : List α) :
    (cutAt pos bs xs).flatten = xs := by
  induction bs generalizing pos xs with
  | nil => simp [cutAt]
  | cons b bs ih => simp [cutAt, ih]

theorem map_cutAt {α β : Type} (f : α → β) (pos : Nat) (bs : List Nat) (xs : List α) :
    (cutAt pos bs xs).map (List.map f) = cutAt pos bs (xs.map f) := by
  induction bs generalizing pos xs with
  | nil => rfl
  | cons b bs ih => simp [cutAt, ih, List.map_take, List.map_drop]

theorem cutAt_row {pos : Nat} (row rest : List Char) (bs : List Nat) :
    cutAt pos ((pos + row.length) :: bs) (row ++ rest)
      = row :: cutAt (pos + row.length) bs rest := by
  simp [cutAt]

/-- Folding a word closes the row before it and all parts but the last, which begins a row. -/
theorem cutAt_foldBreaks {parts : List (List Char)} (some : parts ≠ []) (pos : Nat)
    (row rest : List Char) (bs : List Nat) : ∃ closed last pos',
      (∀ p ∈ closed, p = row ∨ p ∈ parts) ∧ last ∈ parts
        ∧ (foldBreaks (pos + row.length) parts).2 = .some (cellLength last)
        ∧ pos' + last.length = pos + row.length + parts.flatten.length
        ∧ cutAt pos ((foldBreaks (pos + row.length) parts).1 ++ bs) (row ++ (parts.flatten ++ rest))
          = closed ++ cutAt pos' bs (last ++ rest) := by
  induction parts generalizing pos row with
  | nil => exact absurd rfl some
  | cons part parts ih =>
    -- at the very beginning there is no row to close
    have opened (breaks : List Nat) (ys : List Char) : ∃ closed,
        (∀ p ∈ closed, p = row)
          ∧ cutAt pos ((if pos + row.length = 0 then [] else [pos + row.length]) ++ breaks)
              (row ++ ys)
            = closed ++ cutAt (pos + row.length) breaks ys := by
      split
      next first =>
        obtain ⟨rfl, empty⟩ : pos = 0 ∧ row.length = 0 := by omega
        rw [List.length_eq_zero_iff.mp empty]
        exact ⟨[], nofun, rfl⟩
      next => exact ⟨[row], by simp, cutAt_row row ys breaks⟩
    cases parts with
    | nil =>
      obtain ⟨closed, rows, cut⟩ := opened bs (part ++ rest)
      refine ⟨closed, part, pos + row.length, fun p member => .inl (rows p member), by simp, rfl,
        by simp, ?_⟩
      simpa [foldBreaks] using cut
    | cons next parts =>
      obtain ⟨closed, last, pos', inside, member, size, ends, cut⟩ :=
        ih (by simp) (pos + row.length) part
      obtain ⟨before, rows, cut'⟩ := opened
        ((foldBreaks (pos + row.length + part.length) (next :: parts)).1 ++ bs)
        (part ++ ((next :: parts).flatten ++ rest))
      refine ⟨before ++ closed, last, pos', fun p found => ?_, List.mem_cons_of_mem _ member, size,
        ?_, ?_⟩
      · rcases List.mem_append.mp found with early | late
        · exact .inl (rows p early)
        · rcases inside p late with rfl | deep
          · exact .inr List.mem_cons_self
          · exact .inr (List.mem_cons_of_mem _ deep)
      · rw [ends]
        simp
        omega
      · have folded : (foldBreaks (pos + row.length) (part :: next :: parts)).1
            = (if pos + row.length = 0 then [] else [pos + row.length])
              ++ (foldBreaks (pos + row.length + part.length) (next :: parts)).1 := rfl
        rw [folded, List.append_assoc, List.flatten_cons, List.append_assoc, cut', cut,
          List.append_assoc]

/-- A row whose blanks at the end may exceed the width, but nothing else. -/
def RowFits (width : Nat) (row : List Char) : Prop :=
  cells (Text.trimEnd Text.isBlank row) ≤ width

theorem cells_trimEnd_le (cs : List Char) : cells (Text.trimEnd Text.isBlank cs) ≤ cells cs := by
  obtain ⟨blanks, split, _⟩ := trimEnd_split cs
  have total := congrArg cells split
  rw [cells_append] at total
  omega

theorem mem_of_mem_trimEnd {cs : List Char} {c : Char}
    (member : c ∈ Text.trimEnd Text.isBlank cs) : c ∈ cs := by
  obtain ⟨blanks, split, _⟩ := trimEnd_split cs
  rw [split]
  exact List.mem_append_left _ member

/-- The rows that a line is cut into fit. -/
theorem fits_cutAt {width : Nat} (wide : 2 ≤ width) {ws : List (List Char)}
    (single : ∀ w ∈ ws, ∀ c ∈ w, isSingle c = true) (inked : ∀ w ∈ ws, ink w ≠ []) (pos : Nat)
    {row : List Char} (fits : RowFits width row) :
    ∀ p ∈ cutAt pos (breaksFrom width (cells row) (pos + row.length) ws) (row ++ ws.flatten),
      RowFits width p := by
  induction ws generalizing pos row with
  | nil => simpa [breaksFrom, cutAt] using fits
  | cons w ws ih =>
    obtain ⟨own, others⟩ := List.forall_mem_cons.mp single
    obtain ⟨dark, darker⟩ := List.forall_mem_cons.mp inked
    have bound := cells_trimEnd_le w
    rw [breaksFrom, cellLength_single own,
      cellLength_single fun c member => own c (mem_of_mem_trimEnd member)]
    dsimp only
    split
    next roomy =>
      have joined : RowFits width (row ++ w) := by
        rw [RowFits, trimEnd_append row dark, cells_append]
        exact roomy
      simpa [Nat.add_assoc] using ih others darker pos joined
    next tight =>
      split
      next long =>
        -- the word is folded: its last part is the row that the rest goes on from
        obtain ⟨all, short⟩ := chop_parts own wide (by omega)
        have some : chop width w ≠ [] := by
          intro none
          rw [none] at all
          exact dark (by rw [← all]; rfl)
        obtain ⟨closed, last, pos', inside, member, size, ends, cut⟩ :=
          cutAt_foldBreaks some pos row ws.flatten
            (breaksFrom width ((foldBreaks (pos + row.length) (chop width w)).2.getD (cells row))
              (pos + row.length + w.length) ws)
        have fits' {part : List Char} (found : part ∈ chop width w) : RowFits width part :=
          Nat.le_trans (cells_trimEnd_le part) (short part found)
        have taken : cellLength last = cells last :=
          cellLength_single fun c found => own c (all ▸ List.mem_flatten_of_mem member found)
        rw [all] at cut ends
        rw [List.flatten_cons, cut, size, Option.getD_some, taken, ← ends]
        intro p found
        rcases List.mem_append.mp found with early | late
        · rcases inside p early with rfl | part
          · exact fits
          · exact fits' part
        · exact ih others darker pos' (fits' member) p late
      next short =>
        split
        next =>
          rw [List.flatten_cons, cutAt_row]
          exact List.forall_mem_cons.mpr
            ⟨fits, ih others darker (pos + row.length) (Nat.le_of_not_lt short)⟩
        next first =>
          -- a row without cells has room for the word, and one at the beginning has none
          have positive : cells row ≠ 0 := by omega
          have start : pos = 0 ∧ row = [] := by simpa [positive] using first
          rw [start.2] at positive
          exact absurd rfl positive

/-! ## Rows of glyphs -/

theorem plain_zip (gs : List Glyph) (cs : List Char) :
    plain ((gs.zip cs).map fun (g, c) => { g with char := c }) = cs.take gs.length := by
  induction gs generalizing cs with
  | nil => simp [plain]
  | cons g gs ih =>
    cases cs with
    | nil => simp [plain]
    | cons c cs => simpa [plain] using ih cs

theorem plain_cropGlyphs (width : Nat) (gs : List Glyph) :
    plain (cropGlyphs width gs) = (crop width (plain gs)).take gs.length :=
  plain_zip gs _

theorem plain_dropExcess (width : Nat) {gs : List Glyph} {core : List Char} {n : Nat}
    (split : plain gs = core ++ List.replicate n ' ')
    (blanks : (gs.reverse.takeWhile fun g => Text.isBlank g.char).length = n) :
    ∃ k ≤ n, plain (dropExcess width gs) = core ++ List.replicate k ' '
      ∧ (dropExcess width gs).length = core.length + k := by
  have length : gs.length = core.length + n := by simpa [plain] using congrArg List.length split
  refine ⟨n - min n (gs.length - width), Nat.sub_le .., ?_, ?_⟩
  · have kept : gs.length - min n (gs.length - width)
        = core.length + (n - min n (gs.length - width)) := by omega
    rw [dropExcess, blanks, plain, List.map_take]
    show (plain gs).take _ = _
    rw [split, kept, List.take_length_add_append, List.take_replicate]
    congr 2
    omega
  · rw [dropExcess, blanks, List.length_take]
    omega

theorem trimEnd_append_spaces {gs : List Glyph}
    (spaced : ∀ c ∈ plain gs, Text.isBlank c = true → c = ' ') :
    plain gs = Text.trimEnd Text.isBlank (plain gs)
      ++ List.replicate (gs.reverse.takeWhile fun g => Text.isBlank g.char).length ' ' := by
  have trailing : (plain gs).reverse.takeWhile Text.isBlank
      = List.replicate (gs.reverse.takeWhile fun g => Text.isBlank g.char).length ' ' := by
    refine List.eq_replicate_iff.mpr ⟨?_, fun c member => ?_⟩
    · rw [plain, ← List.map_reverse, List.takeWhile_map, List.length_map]
      rfl
    · have inside := List.takeWhile_subset _ member
      exact spaced c (List.mem_reverse.mp inside) (List.mem_takeWhile_imp member)
  have whole := congrArg List.reverse
    (List.takeWhile_append_dropWhile (p := Text.isBlank) (l := (plain gs).reverse))
  rw [List.reverse_append, List.reverse_reverse, trailing, List.reverse_replicate] at whole
  exact whole.symm

/-- A row that fits loses only spaces at its end. -/
theorem row_of_rowFits {width : Nat} (wide : 2 ≤ width) {gs : List Glyph}
    (fits : RowFits width (plain gs)) (single : ∀ c ∈ plain gs, isSingle c = true)
    (spaced : ∀ c ∈ plain gs, Text.isBlank c = true → c = ' ') : ∃ spaces,
      (∀ c ∈ spaces, c = ' ')
      ∧ plain gs = plain (cropGlyphs width (dropExcess width gs)) ++ spaces
      ∧ cellLength (plain (cropGlyphs width (dropExcess width gs))) ≤ width := by
  have split := trimEnd_append_spaces spaced
  generalize blanks : (gs.reverse.takeWhile fun g => Text.isBlank g.char).length = n at split
  unfold RowFits at fits
  generalize Text.trimEnd Text.isBlank (plain gs) = core at split fits
  have coreSingle : ∀ c ∈ core, isSingle c = true := fun c member =>
    single c (by rw [split]; exact List.mem_append_left _ member)
  obtain ⟨k, least, dropped, length⟩ := plain_dropExcess width split blanks
  obtain ⟨m, lesser, cropped, short⟩ := crop_padded (by omega) coreSingle fits k
  have row : plain (cropGlyphs width (dropExcess width gs)) = core ++ List.replicate m ' ' := by
    rw [plain_cropGlyphs, dropped, cropped, length]
    refine List.take_of_length_le ?_
    rw [List.length_append, List.length_replicate]
    omega
  refine ⟨List.replicate (n - m) ' ', fun c member => List.eq_of_mem_replicate member, ?_, ?_⟩
  · rw [row, split, List.append_assoc, List.replicate_append_replicate]
    congr 2
    omega
  · rw [row, cellLength_single, cells_append, cells_spaces]
    · exact short
    · intro c member
      rcases List.mem_append.mp member with inside | space
      · exact coreSingle c inside
      · rw [List.eq_of_mem_replicate space]
        decide

/-! ## Lines of glyphs -/

/-- A text of which a layout loses nothing but spaces at breaks. -/
structure Wrappable (cs : List Char) : Prop where
  spaced : ∀ c ∈ cs, Text.isBlank c = true → c = ' ' ∨ c = '\n'
  single : ∀ c ∈ cs, isSingle c = true
  ended : ∀ line ∈ Text.lines cs, line.getLast? ≠ some ' '

def isWrappable (cs : List Char) : Bool :=
  cs.all (fun c => !Text.isBlank c || c == ' ' || c == '\n') && cs.all isSingle
    && (Text.lines cs).all (·.getLast? != some ' ')

theorem isWrappable_iff (cs : List Char) : isWrappable cs = true ↔ Wrappable cs := by
  simp only [isWrappable, Bool.and_eq_true, List.all_eq_true, Bool.or_eq_true, Bool.not_eq_true',
    beq_iff_eq, bne_iff_ne]
  constructor
  · rintro ⟨⟨spaced, single⟩, ended⟩
    refine ⟨fun c member blank => ?_, single, ended⟩
    rcases spaced c member with (dark | space) | newline
    · rw [blank] at dark
      cases dark
    · exact .inl space
    · exact .inr newline
  · intro wrappable
    refine ⟨⟨fun c member => ?_, wrappable.single⟩, wrappable.ended⟩
    cases blank : Text.isBlank c with
    | false => exact .inl (.inl rfl)
    | true =>
      rcases wrappable.spaced c member blank with space | newline
      · exact .inl (.inr space)
      · exact .inr newline

instance (cs : List Char) : Decidable (Wrappable cs) :=
  decidable_of_decidable_of_iff (isWrappable_iff cs)

theorem rows_of_cut {width : Nat} (wide : 2 ≤ width) {cut : List (List Glyph)} (some : cut ≠ [])
    (fits : ∀ p ∈ cut, RowFits width (plain p))
    (single : ∀ c ∈ plain cut.flatten, isSingle c = true)
    (spaced : ∀ c ∈ plain cut.flatten, Text.isBlank c = true → c = ' ')
    (ended : (plain cut.flatten).getLast? ≠ .some ' ') :
    Rows width (plain cut.flatten)
      (cut.map fun p => plain (cropGlyphs width (dropExcess width p))) := by
  induction cut with
  | nil => exact absurd rfl some
  | cons p ps ih =>
    obtain ⟨first, others⟩ := List.forall_mem_cons.mp fits
    have whole : plain (p :: ps).flatten = plain p ++ plain ps.flatten := by simp [plain]
    rw [whole] at single spaced ended ⊢
    obtain ⟨single, singles⟩ := List.forall_mem_append.mp single
    obtain ⟨spaced, spaces⟩ := List.forall_mem_append.mp spaced
    obtain ⟨blanks, blank, split, short⟩ := row_of_rowFits wide first single spaced
    rw [List.map_cons]
    by_cases last : ps = []
    · -- the line does not end in a space, so that nothing is cut off here
      subst last
      have none : blanks = [] := by
        rcases List.eq_nil_or_concat blanks with none | ⟨front, c, rfl⟩
        · exact none
        · refine absurd ?_ ended
          rw [split, ← blank c (by simp)]
          simp [plain]
      rw [none, List.append_nil] at split
      rw [split]
      simpa [plain] using Rows.last short
    · rw [split, List.append_assoc]
      refine .broken short blank (ih last others singles spaces fun space => ended ?_)
      rw [List.getLast?_append, space]
      rfl

theorem cutAt_ne_nil {α : Type} (pos : Nat) (bs : List Nat) (xs : List α) :
    cutAt pos bs xs ≠ [] := by
  cases bs <;> simp [cutAt]

theorem expandTabs_of_spaced {gs : List Glyph}
    (spaced : ∀ c ∈ plain gs, Text.isBlank c = true → c = ' ') : expandTabs gs = gs := by
  unfold expandTabs
  split
  next tabbed =>
    obtain ⟨g, member, tab⟩ := List.any_eq_true.mp tabbed
    have space := spaced g.char (List.mem_map_of_mem member) (by rw [eq_of_beq tab]; rfl)
    rw [eq_of_beq tab] at space
    cases space
  next => rfl

/-- A line that does not end in a space is cut into rows that fit. -/
theorem fits_breaks {width : Nat} (wide : 2 ≤ width) {cs : List Char}
    (single : ∀ c ∈ cs, isSingle c = true) (spaced : ∀ c ∈ cs, Text.isBlank c = true → c = ' ')
    (ended : cs.getLast? ≠ some ' ') : ∀ p ∈ cutAt 0 (breaks width cs) cs, RowFits width p := by
  by_cases empty : cs = []
  · rw [empty]
    simp [breaks, lineWords, lineWordsFrom, breaksFrom, cutAt, RowFits, Text.trimEnd]
  -- a line of spaces alone would end in one
  have inked : ink cs ≠ [] := by
    intro none
    have member := List.getLast_mem empty
    have blank : Text.isBlank (cs.getLast empty) = true := by
      simpa using List.filter_eq_nil_iff.mp none _ member
    refine ended ?_
    rw [List.getLast?_eq_some_getLast empty, spaced _ member blank]
  obtain ⟨all, words⟩ : (lineWords cs).flatten = cs ∧ ∀ w ∈ lineWords cs, ink w ≠ [] :=
    lineWordsFrom_spec (fun _ => inked) (fun other => absurd rfl other)
  have parts : ∀ w ∈ lineWords cs, ∀ c ∈ w, isSingle c = true :=
    fun w member c inside => single c (all ▸ List.mem_flatten_of_mem member inside)
  have start : RowFits width [] := by simp [RowFits, Text.trimEnd]
  have cut := fits_cutAt wide parts words 0 start
  rwa [List.nil_append, all] at cut

theorem wrapLine_rows {width : Nat} (wide : 2 ≤ width) {gs : List Glyph}
    (single : ∀ c ∈ plain gs, isSingle c = true)
    (spaced : ∀ c ∈ plain gs, Text.isBlank c = true → c = ' ')
    (ended : (plain gs).getLast? ≠ some ' ') :
    Rows width (plain gs) ((wrapLine width gs).map plain) := by
  have cut := rows_of_cut wide (cutAt_ne_nil 0 (breaks width (plain gs)) gs) (fun p member => ?_)
    (by rwa [flatten_cutAt]) (by rwa [flatten_cutAt]) (by rwa [flatten_cutAt])
  · rw [wrapLine, expandTabs_of_spaced spaced, List.map_map]
    rwa [flatten_cutAt] at cut
  · refine fits_breaks wide single spaced ended (plain p) ?_
    show plain p ∈ cutAt 0 (breaks width (plain gs)) (gs.map Glyph.char)
    rw [← map_cutAt]
    exact List.mem_map_of_mem member

theorem plain_glyphLines (gs : List Glyph) : (glyphLines gs).map plain = Text.lines (plain gs) := by
  unfold Text.lines
  induction gs with
  | nil => rfl
  | cons g gs ih =>
    have split : plain (g :: gs) = g.char :: plain gs := rfl
    rw [glyphLines, split, Text.splitAt, ← ih]
    split
    · rfl
    · cases glyphLines gs <;> rfl

theorem mem_of_mem_lines {cs line : List Char} {c : Char} (found : line ∈ Text.lines cs)
    (member : c ∈ line) : c ∈ cs ∧ c ≠ '\n' := by
  unfold Text.lines at found
  induction cs generalizing line with
  | nil =>
    rw [List.mem_singleton.mp found] at member
    cases member
  | cons d cs ih =>
    rw [Text.splitAt] at found
    split at found
    · rcases List.mem_cons.mp found with rfl | later
      · cases member
      · exact ⟨List.mem_cons_of_mem _ (ih later member).1, (ih later member).2⟩
    next other =>
      split at found
      · rw [List.mem_singleton.mp found, List.mem_singleton] at member
        exact ⟨by simp [member], member ▸ other⟩
      next p ps split =>
        rcases List.mem_cons.mp found with rfl | later
        · rcases List.mem_cons.mp member with rfl | inside
          · exact ⟨List.mem_cons_self, other⟩
          · have deep := ih (split ▸ List.mem_cons_self) inside
            exact ⟨List.mem_cons_of_mem _ deep.1, deep.2⟩
        · have deep := ih (split ▸ List.mem_cons_of_mem _ later) member
          exact ⟨List.mem_cons_of_mem _ deep.1, deep.2⟩

/-- What is written of glyphs. -/
def writtenLines (ls : List (List Glyph)) : List Char :=
  ls.flatMap fun l => plain l ++ ['\n']

theorem runs_colorless (g : Glyph) (gs : List Glyph) :
    runs .colorless (g :: gs) = [([], plain (g :: gs))] := by
  induction gs generalizing g with
  | nil => rfl
  | cons g' gs ih =>
    rw [runs, ih]
    rfl

theorem paint_colorless (gs : List Glyph) : paint .colorless gs = plain gs := by
  cases gs with
  | nil => rfl
  | cons g gs => simp [paint, runs_colorless, paintRun]

/-- Without color a console prints what is written of the glyphs. -/
theorem paintLines_colorless {s : Screen} (colorless : s.palette = .colorless)
    (ls : List (List Glyph)) : s.paintLines ls = String.ofList (writtenLines ls) := by
  simp only [Screen.paintLines, writtenLines, colorless, paint_colorless]

/-- A wrappable text is shown. -/
theorem wrap_shows {width : Nat} (wide : 2 ≤ width) {gs : List Glyph}
    (wrappable : Wrappable (plain gs)) : Shows width (plain gs) (writtenLines (wrap width gs)) := by
  have lines (ls : List (List Glyph))
      (laid : ∀ l ∈ ls, Rows width (plain l) ((wrapLine width l).map plain)) :
      ShowsLines width (ls.map plain) (writtenLines (ls.flatMap (wrapLine width))) := by
    induction ls with
    | nil => exact .none
    | cons l ls ih =>
      obtain ⟨first, others⟩ := List.forall_mem_cons.mp laid
      have later := ShowsLines.line first (ih others)
      simpa [writtenLines, List.flatMap_map] using later
  rw [Shows, ← plain_glyphLines]
  refine lines (glyphLines gs) fun l member => ?_
  have found : plain l ∈ Text.lines (plain gs) := by
    rw [← plain_glyphLines]
    exact List.mem_map_of_mem member
  refine wrapLine_rows wide (fun c inside => ?_) (fun c inside blank => ?_)
    (wrappable.ended _ found)
  · exact wrappable.single c (mem_of_mem_lines found inside).1
  · obtain ⟨whole, notNewline⟩ := mem_of_mem_lines found inside
    exact (wrappable.spaced c whole blank).resolve_right notNewline

end InlineCheck.Console
