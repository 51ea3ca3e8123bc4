import InlineCheck.Proofs.Console.SingleRow
import InlineCheck.Proofs.Console.Stretches

/-! # Labels on a console

The console and the trace write the same lines, but for the console's two spaces before assertions.
The console escapes what it is told, and this is not always enough.

* `Heading` — what a console's line begins with.
* `writes_label_iff` — a line with a label is written as it is exactly when the label is literal,
  and does not lose spaces at its end.
* `console_line_iff_literal` — so the console agrees with the trace exactly on these labels.
-/

namespace InlineCheck

namespace Console

/-! ## Printable characters -/

theorem isPrintable_of_listed {c : Char} {low high : Nat}
    (listed : (low, high) ∈ Text.unprintableRanges) (beyond : 0x7F ≤ c.toNat)
    (within : low ≤ c.toNat ∧ c.toNat ≤ high) : Text.isPrintable c = false := by
  have ranged : Text.inRanges c.toNat Text.unprintableRanges = true :=
    Text.inRanges_iff.mpr ⟨(low, high), listed, within⟩
  simp only [Text.isPrintable, if_neg (Nat.not_lt.mpr beyond), ranged]
  simp

/-- The space is the only blank that is printable. -/
theorem eq_space_of_isPrintable {c : Char} (printable : Text.isPrintable c = true)
    (blank : Text.isBlank c = true) : c = ' ' := by
  simp only [Text.isBlank, Text.isSpace, Bool.or_eq_true, Bool.and_eq_true, decide_eq_true_eq,
    beq_iff_eq] at blank
  by_cases low : c.toNat < 0x7F
  · have visible : 0x20 ≤ c.toNat := by simpa [Text.isPrintable, low] using printable
    have number : c.toNat = ' '.toNat := by
      show c.toNat = 0x20
      omega
    exact Char.toNat_inj.mp number
  · -- every other blank lies in one of six ranges
    have listed : ∀ r ∈ [(0x80, 0xA0), (0x1680, 0x1680), (0x1FFF, 0x200F), (0x2028, 0x202F),
        (0x205F, 0x206F), (0x2FFC, 0x3000)], r ∈ Text.unprintableRanges := by decide +kernel
    have apart : ∀ r ∈ [(0x80, 0xA0), (0x1680, 0x1680), (0x1FFF, 0x200F), (0x2028, 0x202F),
        (0x205F, 0x206F), (0x2FFC, 0x3000)], ¬ (r.1 ≤ c.toNat ∧ c.toNat ≤ r.2) := by
      intro r member within
      rw [isPrintable_of_listed (listed r member) (by omega) within] at printable
      cases printable
    simp only [List.forall_mem_cons] at apart
    omega

theorem isTame_of_isPrintable {c : Char} (printable : Text.isPrintable c = true) :
    isTame c = true := by
  have single : c ≠ joiner := by
    rintro rfl
    exact absurd printable (by decide +kernel)
  cases blank : Text.isBlank c with
  | false => simp [isTame, single, blank]
  | true =>
    rw [eq_space_of_isPrintable printable blank]
    decide

theorem isDropped_of_isPrintable {c : Char} (printable : Text.isPrintable c = true) :
    isDropped c = false := by
  cases dropped : isDropped c with
  | false => rfl
  | true =>
    have number : c.toNat < 0x20 := by
      simp only [isDropped, List.contains_cons, List.contains_nil, Bool.or_eq_true, beq_iff_eq,
        Bool.or_false] at dropped
      omega
    have visible : 0x20 ≤ c.toNat := by
      simpa [Text.isPrintable, Nat.lt_trans number (by decide : 0x20 < 0x7F)] using printable
    omega

/-! ## Tame labels -/

theorem mem_of_mem_unescapeBrackets {cs : List Char} {c : Char}
    (member : c ∈ unescapeBrackets cs) : c ∈ cs := by
  fun_induction unescapeBrackets cs with
  | case1 => exact member
  | case2 cs ih =>
    rcases List.mem_cons.mp member with rfl | later
    · simp
    · simp [ih later]
  | case3 d cs _ ih =>
    rcases List.mem_cons.mp member with rfl | later
    · simp
    · simp [ih later]

/-- What becomes of a text: it is tame, unless colons are lost. An emoji need not be tame, but it
takes the place of two colons. -/
structure Settles (cs ds : List Char) : Prop where
  fewer : ds.count ':' ≤ cs.count ':'
  tame : cs.count ':' ≤ ds.count ':' → Tame ds

namespace Settles

theorem of_tame {cs : List Char} (tame : Tame cs) : Settles cs cs :=
  ⟨Nat.le_refl _, fun _ => tame⟩

theorem append {cs ds cs' ds' : List Char} (first : Settles cs ds) (second : Settles cs' ds') :
    Settles (cs ++ cs') (ds ++ ds') := by
  have bound := first.fewer
  have bound' := second.fewer
  constructor
  · simp only [List.count_append]
    omega
  · intro kept
    simp only [List.count_append] at kept
    exact Tame.append_iff.mpr ⟨first.tame (by omega), second.tame (by omega)⟩

end Settles

theorem settles_emoji {code e : List Char} (known : emoji? code = some e) :
    Settles (':' :: (code ++ [':'])) e := by
  have none : e.count ':' = 0 := List.count_eq_zero.mpr fun colon => by
    cases isSign_emoji known ':' colon
  constructor
  · omega
  · intro kept
    simp [none] at kept

theorem settles_replaceEmojiFrom (skip : Nat) {cs : List Char} (tame : Tame cs) :
    Settles (cs.drop skip) (replaceEmojiFrom skip cs) := by
  induction cs generalizing skip with
  | nil => simpa [replaceEmojiFrom] using Settles.of_tame tame
  | cons c cs ih =>
    obtain ⟨head, tail⟩ := Tame.cons_iff.mp tame
    cases skip with
    | succ skip => exact ih skip tail
    | zero =>
      have kept : Settles (c :: cs) (c :: replaceEmojiFrom 0 cs) :=
        .append (.of_tame (List.forall_mem_singleton.mpr head)) (ih 0 tail)
      simp only [replaceEmojiFrom, List.drop_zero]
      split
      next colon =>
        subst colon
        split
        next code found =>
          obtain ⟨-, rest, rfl⟩ := untilColon_eq_some found
          have behind : (code ++ ':' :: rest).drop (code.length + 1) = rest := by
            simp [← List.drop_drop]
          have whole : ':' :: (code ++ ':' :: rest) = ':' :: (code ++ [':']) ++ rest := by simp
          have later := ih (code.length + 1) tail
          rw [behind] at later
          rw [whole]
          refine .append ?_ later
          split
          next e known => exact settles_emoji known
          next =>
            -- an unknown code stays between its colons
            have inside := (Tame.append_iff.mp tail).1
            exact .of_tame (Tame.cons_iff.mpr ⟨head, Tame.append_iff.mpr ⟨inside, by decide⟩⟩)
        next => exact kept
      · exact kept

theorem count_colon_unescapeBrackets (cs : List Char) :
    (unescapeBrackets cs).count ':' = cs.count ':' := by
  fun_induction unescapeBrackets cs with
  | case1 => rfl
  | case2 cs ih => simp [ih]
  | case3 c cs _ ih => simp [List.count_cons, ih]

theorem settles_printed {cs : List Char} (tame : Tame cs) : Settles cs (printed cs) := by
  have unescaped : Tame (unescapeBrackets cs) :=
    fun c member => tame c (mem_of_mem_unescapeBrackets member)
  have replaced := settles_replaceEmojiFrom 0 unescaped
  have dropped : (printed cs).count ':' ≤ (replaceEmoji (unescapeBrackets cs)).count ':' :=
    List.Sublist.count_le ':' List.filter_sublist
  rw [List.drop_zero] at replaced
  have bound := replaced.fewer
  rw [count_colon_unescapeBrackets] at bound
  refine ⟨Nat.le_trans dropped bound, fun kept c member => ?_⟩
  refine replaced.tame ?_ c (List.mem_filter.mp member).1
  rw [count_colon_unescapeBrackets]
  exact Nat.le_trans kept dropped

theorem tame_slashes (n : Nat) : Tame (List.replicate n '\\') := by
  intro c member
  rw [List.eq_of_mem_replicate member]
  decide

theorem settles_shownTag (slashes : Nat) {body : List Char} (tame : Tame (bracketed body)) :
    Settles (Mark.tag slashes body).source (shownTag slashes body) := by
  have none (n : Nat) : (List.replicate n '\\').count ':' = 0 := by
    simp [List.count_replicate]
  have slashed := settles_printed (tame_slashes (slashes / 2))
  refine Settles.append ?_ ?_
  · exact ⟨by rw [none]; simpa [none] using slashed.fewer,
      fun _ => slashed.tame (by rw [none]; exact Nat.zero_le _)⟩
  · split
    · exact settles_printed tame
    · exact ⟨Nat.zero_le _, fun _ => List.forall_mem_nil _⟩

theorem settles_shown (position : Nat) {run : List Char} {ms : List Mark}
    (tame : Tame (run.reverse ++ ms.flatMap Mark.source)) :
    Settles (run.reverse ++ ms.flatMap Mark.source)
      ((piecesFrom position run ms).flatMap Piece.shown) := by
  induction ms generalizing position run with
  | nil => simpa [piecesFrom] using settles_printed tame
  | cons m ms ih =>
    cases m with
    | char c =>
      have later := @ih (position + 1) (c :: run) (by simpa [Mark.source] using tame)
      simpa [piecesFrom, Mark.source] using later
    | tag slashes body =>
      obtain ⟨next, shown⟩ := shown_tag position run slashes body ms
      rw [List.flatMap_cons] at tame ⊢
      obtain ⟨before, rest⟩ := Tame.append_iff.mp tame
      obtain ⟨tag, after⟩ := Tame.append_iff.mp rest
      rw [shown]
      exact (settles_printed before).append
        ((settles_shownTag slashes (Tame.append_iff.mp tag).2).append (@ih next [] after))

theorem count_colon_ink (cs : List Char) : (ink cs).count ':' = cs.count ':' :=
  List.count_filter rfl

theorem count_colon_escape (cs : List Char) : (escape cs).count ':' = cs.count ':' := by
  have none (n : Nat) : (List.replicate n '\\').count ':' = 0 := by
    simp [List.count_replicate]
  have marks (ms : List Mark) :
      (ms.flatMap Mark.escaped).count ':' = (ms.flatMap Mark.source).count ':' := by
    induction ms with
    | nil => rfl
    | cons m ms ih =>
      rw [List.flatMap_cons, List.flatMap_cons, List.count_append, List.count_append, ih]
      cases m with
      | char c => rfl
      | tag slashes body => simp [Mark.escaped, Mark.source, none]
  rw [escape]
  rcases guardEnd_cases ((scan cs).flatMap Mark.escaped) with same | longer
  · rw [same, marks, source_scan]
  · rw [longer, List.count_append, marks, source_scan]
    rfl

theorem tame_escape {cs : List Char} (tame : Tame cs) : Tame (escape cs) := by
  have marks : ∀ c ∈ (scan cs).flatMap Mark.escaped, c = '\\' ∨ c ∈ cs := by
    intro c member
    obtain ⟨m, found, inside⟩ := List.mem_flatMap.mp member
    have source : c = '\\' ∨ c ∈ m.source := by
      cases m with
      | char d => exact .inr inside
      | tag slashes body =>
        rcases List.mem_append.mp inside with slash | bracket
        · exact .inl (List.eq_of_mem_replicate slash)
        · exact .inr (List.mem_append_right _ bracket)
    refine source.imp_right fun own => ?_
    rw [← source_scan cs]
    exact List.mem_flatMap.mpr ⟨m, found, own⟩
  have escaped : Tame ((scan cs).flatMap Mark.escaped) := by
    intro c member
    rcases marks c member with rfl | own
    · decide
    · exact tame c own
  rw [escape]
  rcases guardEnd_cases ((scan cs).flatMap Mark.escaped) with same | longer
  · rwa [same]
  · rw [longer]
    exact Tame.append_iff.mpr ⟨escaped, by decide⟩

/-! ## Lines with a label -/

/-- What a line with a label begins with: spaces and two words, which are printed as they are. -/
structure Heading (before inner : List Char) : Prop where
  spaces : ∀ c ∈ before, c = ' '
  words : ∃ first second, inner = first ++ ' ' :: second ∧ first ≠ [] ∧ second ≠ []
    ∧ ∀ c ∈ first ++ second, Text.isBlank c = false
  tame : Tame inner
  enclosed : Plain inner
  literal : printed inner = inner

section

variable {before inner name : List Char} {style : String} {width : Nat}

theorem printed_spaces {cs : List Char} (spaces : ∀ c ∈ cs, c = ' ') : printed cs = cs := by
  have step (cs : List Char) : printed (' ' :: cs) = ' ' :: printed cs := rfl
  induction cs with
  | nil => rfl
  | cons c cs ih =>
    obtain ⟨rfl, later⟩ := List.forall_mem_cons.mp spaces
    rw [step, ih later]

/-- A line with a label is rendered without a fault, and its own tag does not hold for the label. -/
theorem render_label (lexicon : Lexicon) (pair : Paired name style) (leads : Plain before)
    (enclosed : Plain inner) (label : List Char) {tail : List Char}
    (free : tail.all isTagChar = true) :
    ∃ position gs,
      render lexicon (before ++ (bracketed name
          ++ (inner ++ (bracketed ('/' :: name) ++ ' ' :: (escape label ++ tail)))))
        = .ok (glyphs [] before ++ (glyphs [style] inner ++ gs))
      ∧ (∀ g ∈ gs, g.tags = [])
      ∧ plain gs
        = (piecesFrom position [' '] (scan (escape label ++ tail))).flatMap Piece.shown := by
  obtain ⟨position, rendered⟩ :=
    render_tagged lexicon pair leads enclosed (' ' :: (escape label ++ tail))
  obtain ⟨gs, texts, untagged⟩ :=
    renderFrom_texts lexicon [] (piecesFrom_literal (isLiteral_spaced_escape label free)
      position [])
  -- the space before the label is read into the first of its pieces
  have spaced : scan (' ' :: (escape label ++ tail))
      = .char ' ' :: scan (escape label ++ tail) := rfl
  have shown := plain_renderFrom texts
  rw [spaced, piecesFrom] at shown
  exact ⟨position + 1, gs, by rw [rendered, texts]; rfl, untagged, shown⟩

theorem Heading.leads (heading : Heading before inner) : Plain before :=
  List.all_eq_true.mpr fun c member => by rw [heading.spaces c member]; rfl

theorem plain_line (lexicon : Lexicon) (heading : Heading before inner) (pair : Paired name style)
    (label : List Char) :
    ∃ position gs,
      render lexicon
          (before ++ (bracketed name ++ (inner ++ (bracketed ('/' :: name)
            ++ ' ' :: escape label))))
        = .ok gs
      ∧ plain gs = before
        ++ (inner ++ (piecesFrom position [' '] (scan (escape label))).flatMap Piece.shown) := by
  have ending : ([] : List Char).all isTagChar = true := rfl
  obtain ⟨position, gs, rendered, _, shown⟩ :=
    render_label lexicon pair heading.leads heading.enclosed label ending
  rw [List.append_nil] at rendered shown
  refine ⟨position, _, rendered, ?_⟩
  have parts (xs ys : List Glyph) : plain (xs ++ ys) = plain xs ++ plain ys := List.map_append
  have glyph (stack : List String) (cs : List Char) : plain (glyphs stack cs) = printed cs := by
    simp [plain, glyphs, Function.comp_def]
  rw [parts, parts, glyph, glyph, printed_spaces heading.spaces, heading.literal, shown]

/-! ## Words of a line -/

theorem lineWordsFrom_ne_nil {part : WordPart} (begun : part ≠ .lead) (run cs : List Char) :
    lineWordsFrom part run cs ≠ [] := by
  induction cs generalizing part run with
  | nil => simp [lineWordsFrom, begun]
  | cons c cs ih =>
    rw [lineWordsFrom]
    split
    · refine ih ?_ _
      split
      · decide
      · exact begun
    · split
      · simp
      · exact @ih .body (by decide) _

theorem lineWordsFrom_spaces {cs : List Char} (spaces : ∀ c ∈ cs, c = ' ') (run rest : List Char) :
    lineWordsFrom .lead run (cs ++ rest) = lineWordsFrom .lead (cs.reverse ++ run) rest := by
  induction cs generalizing run with
  | nil => rfl
  | cons c cs ih =>
    obtain ⟨rfl, later⟩ := List.forall_mem_cons.mp spaces
    have step : lineWordsFrom .lead run (' ' :: (cs ++ rest))
        = lineWordsFrom .lead (' ' :: run) (cs ++ rest) := rfl
    rw [List.cons_append, step, ih later]
    simp

theorem lineWordsFrom_letters {cs : List Char} (letters : ∀ c ∈ cs, Text.isBlank c = false)
    (run rest : List Char) :
    lineWordsFrom .body run (cs ++ rest) = lineWordsFrom .body (cs.reverse ++ run) rest := by
  induction cs generalizing run with
  | nil => rfl
  | cons c cs ih =>
    obtain ⟨head, later⟩ := List.forall_mem_cons.mp letters
    simp [lineWordsFrom, head, ih later]

/-- The first word of a heading is a word of every line that begins with it. -/
theorem Heading.lineWords (heading : Heading before inner) : ∃ first more run,
    before ++ inner = before ++ first ++ [' '] ++ more
      ∧ ∀ rest, lineWords (before ++ (inner ++ ' ' :: rest))
        = (before ++ first ++ [' ']) :: lineWordsFrom .trail run rest := by
  obtain ⟨first, second, rfl, nonempty, more, letters⟩ := heading.words
  obtain ⟨own, others⟩ := List.forall_mem_append.mp letters
  obtain ⟨c, first, rfl⟩ := List.exists_cons_of_ne_nil nonempty
  obtain ⟨d, second, rfl⟩ := List.exists_cons_of_ne_nil more
  obtain ⟨dark, own⟩ := List.forall_mem_cons.mp own
  obtain ⟨darker, others⟩ := List.forall_mem_cons.mp others
  have space : Text.isBlank ' ' = true := rfl
  refine ⟨c :: first, d :: second, ' ' :: (d :: second).reverse, by simp, fun rest => ?_⟩
  rw [Console.lineWords, lineWordsFrom_spaces heading.spaces]
  simp [lineWordsFrom, space, dark, darker, lineWordsFrom_letters own,
    lineWordsFrom_letters others]

theorem Heading.inked (heading : Heading before inner) : ink inner ≠ [] := by
  obtain ⟨first, second, rfl, nonempty, _, letters⟩ := heading.words
  have dark : ink first = first :=
    ink_eq_self fun c member => letters c (List.mem_append_left _ member)
  simp [dark, nonempty]

theorem Heading.tame_line (heading : Heading before inner) {rest : List Char} (tame : Tame rest) :
    Tame (before ++ (inner ++ rest)) := by
  have leads : Tame before := fun c member => by rw [heading.spaces c member]; decide
  exact Tame.append_iff.mpr ⟨leads, Tame.append_iff.mpr ⟨heading.tame, tame⟩⟩

/-- The first word of a line has room where the line has. -/
theorem Heading.first_word (heading : Heading before inner) {label : List Char}
    (fits : cellLength (before ++ (inner ++ ' ' :: label)) ≤ width) : ∃ w run, 0 < cellLength w
      ∧ cellLength (Text.trimEnd Text.isBlank w) ≤ width
      ∧ ∀ rest, Console.lineWords (before ++ (inner ++ ' ' :: rest))
        = w :: lineWordsFrom .trail run rest := by
  obtain ⟨first, more, run, begins, words⟩ := heading.lineWords
  have tame : Tame (before ++ (inner ++ [])) := heading.tame_line nofun
  rw [List.append_nil, begins] at tame
  obtain ⟨own, _⟩ := Tame.append_iff.mp tame
  refine ⟨_, run, cellLength_pos_of_space (Tame.append_iff.mp own).1, ?_, words⟩
  · calc cellLength (Text.trimEnd Text.isBlank (before ++ first ++ [' ']))
      _ ≤ cellLength (before ++ first ++ [' ']) := cellLength_trimEnd_le own
      _ ≤ cellLength (before ++ first ++ [' '] ++ (more ++ ' ' :: label)) :=
        cellLength_le_append own _
      _ = cellLength (before ++ (inner ++ ' ' :: label)) := by
        rw [← List.append_assoc, ← begins, List.append_assoc]
      _ ≤ width := fits

theorem Heading.width_pos (heading : Heading before inner) {label : List Char}
    (fits : cellLength (before ++ (inner ++ ' ' :: label)) ≤ width) : 0 < width := by
  obtain ⟨first, more, run, begins, -⟩ := heading.lineWords
  have tame : Tame (before ++ (inner ++ [])) := heading.tame_line nofun
  rw [List.append_nil, begins] at tame
  obtain ⟨own, _⟩ := Tame.append_iff.mp tame
  calc 0
    _ < cellLength (before ++ first ++ [' ']) :=
      cellLength_pos_of_space (Tame.append_iff.mp own).1
    _ ≤ cellLength (before ++ first ++ [' '] ++ (more ++ ' ' :: label)) :=
      cellLength_le_append own _
    _ = cellLength (before ++ (inner ++ ' ' :: label)) := by
      rw [← List.append_assoc, ← begins, List.append_assoc]
    _ ≤ width := fits

section

variable {label : List Char} (heading : Heading before inner) (tame : Tame label)
  (fits : cellLength (before ++ (inner ++ ' ' :: label)) ≤ width) {position : Nat} {gs : List Glyph}
  (shown : plain gs = before
    ++ (inner ++ (piecesFrom position [' '] (scan (escape label))).flatMap Piece.shown))
include heading tame fits shown

/-- A label that ends in a single backslash is not written as it is: it gets a second one, and when
there is no room for that, the line is broken. -/
theorem not_writes_of_endsOnce (once : EndsOnce label) :
    writtenLines (wrap width gs) ≠ before ++ (inner ++ ' ' :: label) ++ ['\n'] := by
  intro written
  have lineTame : Tame (before ++ (inner ++ ' ' :: label)) :=
    heading.tame_line (Tame.cons_iff.mpr ⟨by decide, tame⟩)
  have clean : '\n' ∉ before ++ (inner ++ ' ' :: label) :=
    fun member => absurd (lineTame _ member) (by decide)
  -- the layout adds no ink, so that no colon of the label was lost when it was printed
  have colons := (written ▸ ink_wrap width gs).count_le ':'
  have shownTame : Tame (plain gs) := by
    have source : [' '].reverse ++ (scan (escape label)).flatMap Mark.source
        = ' ' :: escape label := by
      rw [source_scan]
      rfl
    have settles : Settles (' ' :: escape label) _ := source ▸ settles_shown position
      (source ▸ Tame.cons_iff.mpr ⟨by decide, tame_escape tame⟩)
    rw [shown]
    refine heading.tame_line (settles.tame ?_)
    rw [shown] at colons
    simp only [count_colon_ink, List.count_append, List.count_cons, count_colon_escape] at colons ⊢
    simpa using colons
  obtain ⟨front, ends⟩ := shown_escape_of_endsOnce position once
  rw [ends] at shown
  have dark : EndsDark (plain gs) := by
    have slash : Text.isBlank '\\' = false := rfl
    rw [shown]
    simp [EndsDark, List.getLast?_append, List.getLast?_cons, slash]
  obtain ⟨w, run, filled, roomy, words⟩ := heading.first_word fits
  have first := words (front ++ ['\\', '\\'])
  rw [← shown] at first
  have same := eq_of_writes shownTame dark first (lineWordsFrom_ne_nil (by decide) _ _) filled roomy
    clean written
  -- the line would be the one that is shown, which ends in two backslashes
  rw [shown] at same
  obtain ⟨ds, rfl, single⟩ := once
  have double : front ++ ['\\'] = ds := by
    have both : front ++ ['\\'] ++ ['\\'] = ds ++ ['\\'] := by simpa using same
    exact List.append_cancel_right both
  exact single (by simp [← double])

/-- A line with a label that fits is written as it is exactly when the label is literal, unless it
ends in spaces and has more characters than there are cells. -/
theorem writes_label_iff (kept : ∀ c ∈ label, isDropped c = false) :
    writtenLines (wrap width gs) = before ++ (inner ++ ' ' :: label) ++ ['\n']
      ↔ Literal label ∧ ((before ++ (inner ++ ' ' :: label)).length ≤ width
        ∨ EndsDark (before ++ (inner ++ ' ' :: label))) := by
  by_cases once : EndsOnce label
  · exact iff_of_false (not_writes_of_endsOnce heading tame fits shown once)
      fun ⟨literal, _⟩ => literal.ended once
  have lineTame : Tame (before ++ (inner ++ ' ' :: label)) :=
    heading.tame_line (Tame.cons_iff.mpr ⟨by decide, tame⟩)
  have inked : ink (before ++ (inner ++ ' ' :: label)) ≠ [] := by simp [heading.inked]
  rw [shown_escape_of_ended position once] at shown
  -- of a literal label the line itself is laid out
  have laid (literal : Literal label) :
      writtenLines (wrap width gs) = before ++ (inner ++ ' ' :: label) ++ ['\n']
        ↔ (before ++ (inner ++ ' ' :: label)).length ≤ width
          ∨ EndsDark (before ++ (inner ++ ' ' :: label)) := by
    rw [printed_stretches literal kept] at shown
    rw [← shown] at lineTame inked fits ⊢
    rw [plain, List.length_map]
    exact writes_iff lineTame inked fits
  constructor
  · intro written
    have layout := ink_wrap width gs
    -- the layout only moves blanks, and a sign that is lost when printing is missing in the line
    have literal : Literal label := by
      refine literal_of_signs once (fun c member _ => kept c member) ?_
      rw [written, shown] at layout
      have bound := signs_mono layout
      have space (cs : List Char) : signs (' ' :: cs) = signs cs :=
        (signs_cons ' ' cs).trans (Nat.zero_add _)
      simp only [signs_ink, signs_append, space] at bound
      omega
    exact ⟨literal, (laid literal).mp written⟩
  · rintro ⟨literal, ends⟩
    exact (laid literal).mpr ends

end

end

theorem Tame.endsDark_iff {cs : List Char} (tame : Tame cs) :
    EndsDark cs ↔ cs.getLast? ≠ some ' ' := by
  constructor
  · intro dark space
    cases dark ' ' space
  · intro ended c last
    cases blank : Text.isBlank c with
    | false => rfl
    | true =>
      rw [tame.spaced c (List.mem_of_getLast? last) blank] at last
      exact absurd last ended

theorem heading_of_words {before first second : List Char}
    (spaces : before.all (· == ' ') = true) (nonempty : first ≠ [] ∧ second ≠ [])
    (letters : (first ++ second).all (!Text.isBlank ·) = true)
    (tame : Tame (first ++ ' ' :: second)) (enclosed : Plain (first ++ ' ' :: second))
    (literal : printed (first ++ ' ' :: second) = first ++ ' ' :: second) :
    Heading before (first ++ ' ' :: second) where
  spaces c member := by simpa using List.all_eq_true.mp spaces c member
  words := ⟨first, second, rfl, nonempty.1, nonempty.2,
    fun c member => by simpa using List.all_eq_true.mp letters c member⟩
  tame := tame
  enclosed := enclosed
  literal := literal

theorem heading_start : Heading [] "Running test:".toList :=
  @heading_of_words [] "Running".toList "test:".toList (by decide +kernel) (by decide +kernel)
    (by decide +kernel) (by decide +kernel) rfl (by decide +kernel)

theorem heading_held : Heading "  ".toList "Assertion passed:".toList :=
  @heading_of_words _ "Assertion".toList "passed:".toList (by decide +kernel) (by decide +kernel)
    (by decide +kernel) (by decide +kernel) rfl (by decide +kernel)

theorem heading_broken : Heading "  ".toList "Assertion failed:".toList :=
  @heading_of_words _ "Assertion".toList "failed:".toList (by decide +kernel) (by decide +kernel)
    (by decide +kernel) (by decide +kernel) rfl (by decide +kernel)

end Console

/-! ## The console and the trace -/

/-- The text that a call tells: the description of a block that begins, or the label of a
condition. -/
def Call.label? : Call → Option String
  | .start (.text description) => some description
  | .assertion a => some a.text
  | _ => none

/-- What the console writes before the line of a call. -/
def Call.indent : Call → String
  | .assertion _ => "  "
  | _ => ""

namespace Reporter

open Console

theorem line_inj {stream stream' : Stream} {text text' : String}
    (same : line stream text = line stream' text') : stream = stream' ∧ text = text' := by
  simp only [line, Response.mk.injEq, List.cons.injEq, Event.wrote.injEq, and_true] at same
  exact ⟨same.1, String.append_left_inj _ |>.mp same.2⟩

theorem onScreen_of_print {screen : Screen} {stream : Stream} {markup text : String}
    (prints : screen.print markup = .ok text) :
    onScreen screen stream (.ok markup) = { events := [.wrote stream text] } := by
  have bound : (Except.ok markup).bind screen.print = screen.print markup := rfl
  rw [onScreen, bound, prints]

theorem onScreen_label {width : Nat} {lexicon : Lexicon} {stream : Stream} {markup label : String}
    {before inner name : List Char} {style : String} (heading : Heading before inner)
    (pair : Paired name style)
    (written : markup.toList = before ++ (bracketed name ++ (inner
      ++ (bracketed ('/' :: name) ++ ' ' :: escape label.toList))))
    (printable : ∀ c ∈ label.toList, Text.isPrintable c = true)
    (fits : cellLength (before ++ (inner ++ ' ' :: label.toList)) ≤ width) {text : String}
    (whole : text.toList = before ++ (inner ++ ' ' :: label.toList)) :
    (∃ shown, onScreen { width, lexicon } stream (.ok markup)
      = { events := [.wrote stream shown] })
    ∧ (onScreen { width, lexicon } stream (.ok markup) = line stream text
      ↔ Literal label.toList ∧ (text.length ≤ width ∨ text.toList.getLast? ≠ some ' ')) := by
  have tame : Tame label.toList := fun c member => isTame_of_isPrintable (printable c member)
  obtain ⟨position, gs, rendered, shown⟩ := plain_line lexicon heading pair label.toList
  have roomy : width ≠ 0 := Nat.ne_of_gt (heading.width_pos fits)
  have prints : onScreen { width, lexicon } stream (.ok markup)
      = { events := [.wrote stream (String.ofList (writtenLines (wrap width gs)))] } := by
    have literal : (scan (' ' :: escape label.toList)).all Mark.isLiteral = true := by
      simpa using isLiteral_spaced_escape label.toList (rfl : [].all isTagChar = true)
    have bare := isBare_line pair heading.leads heading.enclosed literal
    rw [← written] at rendered bare
    refine onScreen_of_print ((print_of_render rendered bare).trans ?_)
    simp only [if_neg roomy]
    rw [paintLines_colorless (s := { width, lexicon }) rfl]
  refine ⟨⟨_, prints⟩, ?_⟩
  have lineTame : Tame text.toList := by
    rw [whole]
    exact heading.tame_line (Tame.cons_iff.mpr ⟨by decide, tame⟩)
  have laid := writes_label_iff heading tame fits shown
    fun c member => isDropped_of_isPrintable (printable c member)
  rw [← whole, lineTame.endsDark_iff] at laid
  rw [prints, ← String.length_toList, ← laid, line]
  simp only [Response.mk.injEq, List.cons.injEq, Event.wrote.injEq, and_true, true_and]
  constructor
  · intro same
    simpa using congrArg String.toList same
  · intro same
    rw [same]
    simp

/-- Both reporters write a call that tells a text to the same stream: the trace a heading and the
text, the console the same in markup. -/
theorem respond_label {c : Call} {label : String} (told : c.label? = some label) :
    ∃ stream text inner name style markup, Heading c.indent.toList inner ∧ Paired name style
      ∧ markup.toList = c.indent.toList ++ (bracketed name ++ (inner
        ++ (bracketed ('/' :: name) ++ ' ' :: escape label.toList)))
      ∧ text.toList = inner ++ ' ' :: label.toList
      ∧ (∀ earlier, (Reporter.trace false).respond earlier c = line stream text)
      ∧ ∀ screen earlier,
        (Reporter.console screen 0).respond earlier c = onScreen screen stream (.ok markup) := by
  have marked {lead before : String} {name inner : List Char}
      (split : lead.toList = before.toList ++ (bracketed name ++ (inner
        ++ (bracketed ('/' :: name) ++ [' '])))) (label : String) :
      (lead ++ ConsoleLines.literal label).toList = before.toList ++ (bracketed name ++ (inner
        ++ (bracketed ('/' :: name) ++ ' ' :: escape label.toList))) := by
    rw [String.toList_append, split, ConsoleLines.literal, String.toList_ofList]
    simp only [List.append_assoc, List.singleton_append]
  have headed {lead : String} {inner : List Char} (split : lead.toList = inner ++ [' '])
      (label : String) : (lead ++ label).toList = inner ++ ' ' :: label.toList := by
    rw [String.toList_append, split, List.append_assoc, List.singleton_append]
  cases c with
  | start description =>
    cases description with
    | text description =>
      cases told
      refine ⟨.out, "Running test: " ++ label, _, "bold".toList, "bold",
        "[bold]Running test:[/bold] " ++ ConsoleLines.literal label, heading_start,
        isStyle_bold.paired, marked rfl label, headed rfl label, fun _ => rfl, fun screen _ => ?_⟩
      simp [console, consoleRespond, ConsoleLines.start, ConsoleLines.literalValue]
    | _ => cases told
  | assertion a =>
    cases told
    have indented : (Call.assertion a).indent = "  " := rfl
    rw [indented]
    cases held : a.passed with
    | true =>
      refine ⟨.out, "Assertion passed: " ++ a.text, _, "green".toList, "green",
        ConsoleLines.held a.text, heading_held, paired_color true, marked rfl a.text,
        headed rfl a.text, fun _ => ?_, fun screen _ => ?_⟩
      · simp [trace, traceRespond, held]
      · simp [console, consoleRespond, held]
    | false =>
      refine ⟨.err, "Assertion failed: " ++ a.text, _, "red".toList, "red",
        ConsoleLines.broken a.text, heading_broken, paired_color false, marked rfl a.text,
        headed rfl a.text, fun _ => ?_, fun screen _ => ?_⟩
      · simp [trace, traceRespond, held]
      · simp [console, consoleRespond, held]
  | complete | summary => cases told

end Reporter

/-- For every call that tells a printable text in a line that fits, on a console without color: the
console writes to the stream that the trace writes to, and it writes the line of the trace, but for
the two spaces, exactly when the text is literal and the line does not end in a space beyond the
width. -/
theorem console_line_iff_literal {width : Nat} {lexicon : Console.Lexicon} {earlier : List Call}
    {c : Call} {label text : String} {stream : Stream} (told : c.label? = some label)
    (traced : (Reporter.trace false).respond earlier c = Reporter.line stream text)
    (printable : ∀ x ∈ label.toList, Text.isPrintable x = true)
    (fits : Console.cellLength (c.indent ++ text).toList ≤ width) :
    (∃ shown, (Reporter.console { width, lexicon } 0).respond earlier c
      = { events := [.wrote stream shown] })
    ∧ ((Reporter.console { width, lexicon } 0).respond earlier c
        = Reporter.line stream (c.indent ++ text)
      ↔ Console.Literal label.toList
        ∧ ((c.indent ++ text).length ≤ width ∨ (c.indent ++ text).toList.getLast? ≠ some ' ')) := by
  obtain ⟨stream', text', inner, name, style, markup, heading, pair, written, headed,
      traces, prints⟩ :=
    Reporter.respond_label told
  obtain ⟨rfl, rfl⟩ := Reporter.line_inj (traced.symm.trans (traces earlier))
  have whole : (c.indent ++ text).toList = c.indent.toList ++ (inner ++ ' ' :: label.toList) := by
    rw [String.toList_append, headed]
  rw [whole] at fits
  rw [prints]
  exact Reporter.onScreen_label heading pair written printable fits whole

/-- A label with tags, with backslashes before one of them and at its end. -/
def bracketLabel : String :=
  "m[k] == \"\\\\[red]:\" and dir == C:\\\\"

theorem bracketLabel_agrees :
    (Call.assertion ⟨bracketLabel, false, none⟩).label? = some bracketLabel
    ∧ (Reporter.trace false).respond [] (.assertion ⟨bracketLabel, false, none⟩)
      = Reporter.line .err ("Assertion failed: " ++ bracketLabel)
    ∧ (∀ x ∈ bracketLabel.toList, Text.isPrintable x = true)
    ∧ Console.cellLength ("  " ++ ("Assertion failed: " ++ bracketLabel)).toList ≤ 60
    ∧ (Reporter.console { width := 60 } 0).respond [] (.assertion ⟨bracketLabel, false, none⟩)
      = Reporter.line .err ("  " ++ ("Assertion failed: " ++ bracketLabel)) := by
  have traced : (Reporter.trace false).respond [] (.assertion ⟨bracketLabel, false, none⟩)
      = Reporter.line .err ("Assertion failed: " ++ bracketLabel) := rfl
  have printable : ∀ x ∈ bracketLabel.toList, Text.isPrintable x = true :=
    List.all_eq_true.mp (by decide +kernel)
  have fits : Console.cellLength ("  " ++ ("Assertion failed: " ++ bracketLabel)).toList ≤ 60 := by
    decide +kernel
  have literal : Console.Literal bracketLabel.toList := by decide +kernel
  have short : ("  " ++ ("Assertion failed: " ++ bracketLabel)).length ≤ 60 := by decide +kernel
  exact ⟨rfl, traced, printable, fits,
    (console_line_iff_literal rfl traced printable fits).2.mpr ⟨literal, .inl short⟩⟩

/-- The console does not write the line of the trace for a label that is printable and has room. -/
structure Misprinted (label : String) : Prop where
  printable : ∀ x ∈ label.toList, Text.isPrintable x = true
  fits : Console.cellLength ("  Assertion passed: " ++ label).toList ≤ 80
  traced : (Reporter.trace false).respond [] (.assertion ⟨label, true, none⟩)
    = Reporter.line .out ("Assertion passed: " ++ label)
  differs : (Reporter.console {} 0).respond [] (.assertion ⟨label, true, none⟩)
    ≠ Reporter.line .out ("  Assertion passed: " ++ label)

theorem misprinted_of_print {label : String} (printable : label.toList.all Text.isPrintable = true)
    (fits : Console.cellLength ("  Assertion passed: " ++ label).toList ≤ 80)
    (differs : (Screen.print {} (ConsoleLines.held label)).toOption
      ≠ some ("  Assertion passed: " ++ label ++ "\n")) : Misprinted label := by
  refine ⟨List.all_eq_true.mp printable, fits, rfl, fun same => differs ?_⟩
  obtain ⟨text, prints⟩ := Reporter.print_held {} label
  have written : (Reporter.console {} 0).respond [] (.assertion ⟨label, true, none⟩)
      = Reporter.onScreen {} .out (.ok (ConsoleLines.held label)) := by
    simp [Reporter.console, Reporter.consoleRespond]
  rw [written, Reporter.onScreen_of_print prints] at same
  have shown : text = "  Assertion passed: " ++ label ++ "\n" := by
    simpa [Reporter.line] using same
  rw [prints, shown]
  rfl

/-- Escaping is not enough for a backslash before a bracket that opens no tag, for an emoji code,
and for a single backslash at the end. -/
theorem escaped_labels_misprinted :
    Misprinted "re.match(\"\\[\", s)" ∧ Misprinted "xs[i:a:j]" ∧ Misprinted "C:\\logs\\" :=
  ⟨misprinted_of_print (by decide +kernel) (by decide +kernel) (by decide +kernel),
    misprinted_of_print (by decide +kernel) (by decide +kernel) (by decide +kernel),
    misprinted_of_print (by decide +kernel) (by decide +kernel) (by decide +kernel)⟩

end InlineCheck
