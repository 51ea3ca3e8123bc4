import InlineCheck.Proofs.Text.Cutting
import InlineCheck.Report.Reporter
import Mathlib.Data.List.TakeWhile

/-! # Lines with a tag of their own

The console's lines are plain text but for one tag, which they open and close.

* `scanFrom_plain` and `scanFrom_tag` — the marks of plain text, and of a tag.
* `render_line` — such a line is rendered without a fault, also when literal marks follow: the tag
  holds for what it encloses, and for nothing else.
* `Reporter.print_summary` — so a console prints every summary.
-/

namespace InlineCheck

namespace Console

/-! ## Scanning -/

/-- A character that neither begins a tag nor escapes one. -/
def isPlain (c : Char) : Bool :=
  c != '[' && c != '\\'

def Plain (cs : List Char) : Prop :=
  cs.all isPlain = true

theorem Plain.append {cs ds : List Char} (first : Plain cs) (second : Plain ds) :
    Plain (cs ++ ds) := by
  unfold Plain at *
  rw [List.all_append, first, second]
  rfl

theorem isPlain_of_isDigit {c : Char} (digit : c.isDigit = true) : isPlain c = true := by
  have notOpen : c ≠ '[' := by rintro rfl; cases digit
  have notSlash : c ≠ '\\' := by rintro rfl; cases digit
  simp [isPlain, notOpen, notSlash]

theorem plain_toString_nat (n : Nat) : Plain (toString n).toList := by
  refine List.all_eq_true.mpr fun c member => isPlain_of_isDigit ?_
  rw [Nat.toString_eq_repr, Nat.toList_repr] at member
  exact Nat.isDigit_of_mem_toDigits (by decide) (by decide) member

theorem plain_toString_int (n : Int) : Plain (toString n).toList := by
  cases n with
  | ofNat n => exact plain_toString_nat n
  | negSucc n =>
    have shown : (toString (Int.negSucc n)).toList = ['-'] ++ (toString (n + 1)).toList := by
      show ("-" ++ toString (n + 1)).toList = _
      rw [String.toList_append]
      rfl
    rw [shown]
    exact .append rfl (plain_toString_nat _)

theorem scanFrom_plain {cs : List Char} (plain : Plain cs) (rest : List Char) :
    scanFrom 0 0 (cs ++ rest) = cs.map .char ++ scanFrom 0 0 rest := by
  induction cs with
  | nil => rfl
  | cons c cs ih =>
    obtain ⟨head, tail⟩ : isPlain c = true ∧ Plain cs := by
      simpa [Plain, List.all_cons] using plain
    obtain ⟨notOpen, notSlash⟩ : c ≠ '[' ∧ c ≠ '\\' := by simpa [isPlain] using head
    simp [scanFrom, slashMarks, notOpen, notSlash, ih tail]

theorem scanFrom_skip (cs rest : List Char) :
    scanFrom cs.length 0 (cs ++ rest) = scanFrom 0 0 rest := by
  induction cs with
  | nil => rfl
  | cons c cs ih => exact ih

/-- A character that can stand inside a tag. -/
def isTagChar (c : Char) : Bool :=
  c != ']' && c != '['

theorem untilBracket_append {body : List Char} (closed : body.all isTagChar = true)
    (rest : List Char) : untilBracket (body ++ ']' :: rest) = some body := by
  induction body with
  | nil => rfl
  | cons c cs ih =>
    obtain ⟨head, tail⟩ : isTagChar c = true ∧ cs.all isTagChar = true := by
      simpa [List.all_cons] using closed
    obtain ⟨notClose, notOpen⟩ : c ≠ ']' ∧ c ≠ '[' := by simpa [isTagChar] using head
    simp [untilBracket, notClose, notOpen, ih tail]

/-- What can stand between brackets as a tag. -/
structure IsTag (body : List Char) : Prop where
  starts : body.head?.any isTagStart = true
  closed : body.all isTagChar = true

theorem IsTag.tagBody {body : List Char} (tag : IsTag body) (rest : List Char) :
    tagBody? (body ++ ']' :: rest) = some body := by
  cases body with
  | nil => cases tag.starts
  | cons c cs =>
    have starts : isTagStart c = true := tag.starts
    have closed := tag.closed
    rw [List.all_cons, Bool.and_eq_true] at closed
    simp [tagBody?, starts, untilBracket_append closed.2 rest]

theorem scanFrom_tag {slashes : Nat} {body : List Char} (tag : IsTag body) (rest : List Char) :
    scanFrom 0 slashes (bracketed body ++ rest) = .tag slashes body :: scanFrom 0 0 rest := by
  -- the closing bracket is passed over with the tag
  have skipped : scanFrom (body.length + 1) 0 (body ++ ']' :: rest) = scanFrom 0 0 rest := by
    simpa using scanFrom_skip (body ++ [']']) rest
  simp [bracketed, scanFrom, tag.tagBody, skipped]

/-! ## Rendering -/

/-- The glyphs of a text under open tags. -/
def glyphs (stack : List String) (cs : List Char) : List Glyph :=
  (printed cs).map (⟨·, stack⟩)

theorem piecesFrom_chars (position : Nat) (run cs : List Char) (ms : List Mark) :
    piecesFrom position run (cs.map .char ++ ms)
      = piecesFrom (position + cs.length) (cs.reverse ++ run) ms := by
  induction cs generalizing position run with
  | nil => rfl
  | cons c cs ih =>
    show piecesFrom (position + 1) (c :: run) (cs.map .char ++ ms) = _
    rw [ih]
    simp [Nat.add_comm, Nat.add_left_comm]

theorem piecesFrom_tag (position : Nat) (run body : List Char) (ms : List Mark) :
    piecesFrom position run (.tag 0 body :: ms)
      = textPiece run.reverse
        ++ .tag position body :: piecesFrom (position + body.length + 2) [] ms := by
  simp [piecesFrom, textPiece]

theorem renderFrom_text (lexicon : Lexicon) (stack : List String) (cs : List Char)
    (ps : List Piece) :
    renderFrom lexicon stack (textPiece cs ++ ps)
      = (renderFrom lexicon stack ps).map (glyphs stack cs ++ ·) := by
  cases cs with
  | nil =>
    -- an empty stretch is no piece at all
    show renderFrom lexicon stack ps = (renderFrom lexicon stack ps).map id
    cases renderFrom lexicon stack ps <;> rfl
  | cons c cs =>
    show renderFrom lexicon stack (.text (c :: cs) :: ps) = _
    rw [renderFrom]
    cases renderFrom lexicon stack ps <;> rfl

theorem renderFrom_tag {lexicon : Lexicon} {stack stack' : List String} {position : Nat}
    {body : List Char} (applied : applyTag lexicon position body stack = .ok stack')
    (ps : List Piece) :
    renderFrom lexicon stack (.tag position body :: ps) = renderFrom lexicon stack' ps := by
  rw [renderFrom, applied]
  rfl

/-- A tag of one word that opens a style, and that its own name closes, whatever else markup
knows. -/
structure Paired (name : List Char) (style : String) : Prop where
  starts : name.head?.any isTagStart = true
  closed : name.all isTagChar = true
  bare : (Piece.tag 0 name).isBare = true
  opens : ∀ lexicon position, applyTag lexicon position name [] = .ok [style]
  closes : ∀ lexicon position, applyTag lexicon position ('/' :: name) [style] = .ok []

theorem Paired.opening {name : List Char} {style : String} (pair : Paired name style) :
    IsTag name :=
  ⟨pair.starts, pair.closed⟩

theorem Paired.closing {name : List Char} {style : String} (pair : Paired name style) :
    IsTag ('/' :: name) :=
  ⟨rfl, pair.closed⟩

theorem Paired.closing_bare {name : List Char} {style : String} (pair : Paired name style)
    {position : Nat} : (Piece.tag position ('/' :: name)).isBare = true := by
  simpa [Piece.isBare] using pair.bare

/-- A line is its own tag, around what it encloses, and then what follows the tag. -/
theorem pieces_tagged {name : List Char} {style : String} (pair : Paired name style)
    {before inner : List Char} (leads : Plain before) (enclosed : Plain inner) (rest : List Char) :
    ∃ first last position,
      pieces (before ++ (bracketed name ++ (inner ++ (bracketed ('/' :: name) ++ rest))))
        = textPiece before ++ .tag first name :: (textPiece inner
          ++ .tag last ('/' :: name) :: piecesFrom position [] (scan rest)) := by
  have marks : scan (before ++ (bracketed name ++ (inner ++ (bracketed ('/' :: name) ++ rest))))
      = before.map .char ++ .tag 0 name
        :: (inner.map .char ++ .tag 0 ('/' :: name) :: scan rest) := by
    rw [scan, scanFrom_plain leads, scanFrom_tag pair.opening, scanFrom_plain enclosed,
      scanFrom_tag pair.closing, scan]
  rw [pieces, marks, piecesFrom_chars, piecesFrom_tag, piecesFrom_chars, piecesFrom_tag,
    List.append_nil, List.append_nil, List.reverse_reverse, List.reverse_reverse]
  exact ⟨_, _, _, rfl⟩

/-- A line is rendered as its own tag says and then as what follows the tag, under no tag. -/
theorem render_tagged (lexicon : Lexicon) {name : List Char} {style : String}
    (pair : Paired name style) {before inner : List Char} (leads : Plain before)
    (enclosed : Plain inner) (rest : List Char) :
    ∃ position, render lexicon
        (before ++ (bracketed name ++ (inner ++ (bracketed ('/' :: name) ++ rest))))
      = (renderFrom lexicon [] (piecesFrom position [] (scan rest))).map fun gs =>
          glyphs [] before ++ (glyphs [style] inner ++ gs) := by
  obtain ⟨first, last, position, split⟩ := pieces_tagged pair leads enclosed rest
  refine ⟨position, ?_⟩
  rw [render, split, renderFrom_text, renderFrom_tag (pair.opens _ _), renderFrom_text,
    renderFrom_tag (pair.closes _ _)]
  generalize renderFrom lexicon [] _ = rendered
  cases rendered <;> rfl

/-! ## Literal marks -/

/-- Whether a mark stands for itself. -/
def Mark.isLiteral : Mark → Bool
  | .char _ => true
  | .tag slashes _ => slashes % 2 = 1

theorem isLiteral_chars (cs : List Char) : (cs.map Mark.char).all Mark.isLiteral = true := by
  simp [Mark.isLiteral]

def Piece.isText : Piece → Bool
  | .text _ => true
  | .tag .. => false

theorem isText_textPiece (cs : List Char) : (textPiece cs).all Piece.isText = true := by
  unfold textPiece
  split <;> rfl

theorem piecesFrom_literal {ms : List Mark} (literal : ms.all Mark.isLiteral = true)
    (position : Nat) (run : List Char) : (piecesFrom position run ms).all Piece.isText = true := by
  induction ms generalizing position run with
  | nil => exact isText_textPiece _
  | cons m ms ih =>
    rw [List.all_cons, Bool.and_eq_true] at literal
    cases m with
    | char c => exact ih literal.2 _ _
    | tag slashes body =>
      have odd : slashes % 2 = 1 := by simpa [Mark.isLiteral] using literal.1
      simp only [piecesFrom, odd, if_true]
      rw [List.all_append, List.all_append, isText_textPiece, isText_textPiece, List.all_cons,
        ih literal.2]
      rfl

theorem renderFrom_texts (lexicon : Lexicon) (stack : List String) {ps : List Piece}
    (texts : ps.all Piece.isText = true) :
    ∃ gs, renderFrom lexicon stack ps = .ok gs ∧ ∀ g ∈ gs, g.tags = stack := by
  induction ps with
  | nil => exact ⟨[], rfl, nofun⟩
  | cons p ps ih =>
    rw [List.all_cons, Bool.and_eq_true] at texts
    obtain ⟨gs, rendered, untagged⟩ := ih texts.2
    cases p with
    | tag => cases texts.1
    | text cs =>
      refine ⟨glyphs stack cs ++ gs, ?_, fun g member => ?_⟩
      · rw [renderFrom, rendered]
        rfl
      · rcases List.mem_append.mp member with early | late
        · obtain ⟨c, _, rfl⟩ := List.mem_map.mp early
          rfl
        · exact untagged g late

/-- A line with a tag of its own before literal marks is rendered without a fault: the tag holds for
what it encloses, and for nothing else. -/
theorem render_line (lexicon : Lexicon) {name : List Char} {style : String}
    (pair : Paired name style) {before inner rest : List Char} (leads : Plain before)
    (enclosed : Plain inner) (literal : (scan rest).all Mark.isLiteral = true) :
    ∃ gs, render lexicon
        (before ++ (bracketed name ++ (inner ++ (bracketed ('/' :: name) ++ rest))))
        = .ok (glyphs [] before ++ (glyphs [style] inner ++ gs))
      ∧ ∀ g ∈ gs, g.tags = [] := by
  obtain ⟨position, written⟩ := render_tagged lexicon pair leads enclosed rest
  obtain ⟨gs, rendered, untagged⟩ :=
    renderFrom_texts lexicon [] (piecesFrom_literal literal position [])
  exact ⟨gs, by rw [written, rendered]; rfl, untagged⟩

theorem isBare_of_isText {ps : List Piece} (texts : ps.all Piece.isText = true) :
    ps.all Piece.isBare = true := by
  refine List.all_eq_true.mpr fun p member => ?_
  have text := List.all_eq_true.mp texts p member
  cases p with
  | text => rfl
  | tag => cases text

/-- The only tags of such a line are its own. -/
theorem isBare_line {name : List Char} {style : String} (pair : Paired name style)
    {before inner rest : List Char} (leads : Plain before) (enclosed : Plain inner)
    (literal : (scan rest).all Mark.isLiteral = true) :
    (pieces (before ++ (bracketed name ++ (inner ++ (bracketed ('/' :: name) ++ rest))))).all
      Piece.isBare = true := by
  obtain ⟨first, last, position, split⟩ := pieces_tagged pair leads enclosed rest
  have opening : (Piece.tag first name).isBare = true := pair.bare
  rw [split, List.all_append, List.all_cons, List.all_append, List.all_cons, opening,
    pair.closing_bare,
    isBare_of_isText (isText_textPiece before), isBare_of_isText (isText_textPiece inner),
    isBare_of_isText (piecesFrom_literal literal position [])]
  rfl

/-- What a screen prints of a line that is rendered. -/
theorem print_of_render {screen : Screen} {markup : String} {gs : List Glyph}
    (rendered : render screen.lexicon markup.toList = .ok gs)
    (bare : (pieces markup.toList).all Piece.isBare = true) :
    screen.print markup
      = .ok (if screen.width = 0 then "" else screen.paintLines (wrap screen.width gs)) := by
  rw [Screen.print, rendered, screen.lexicon.calm _ _ bare]

theorem scan_plain {cs : List Char} (plain : Plain cs) : scan cs = cs.map .char := by
  simpa [scan, scanFrom, slashMarks] using scanFrom_plain plain []

theorem print_line (screen : Screen) {markup : String} {name : List Char} {style : String}
    (pair : Paired name style) {before inner rest : List Char}
    (written : markup.toList
      = before ++ (bracketed name ++ (inner ++ (bracketed ('/' :: name) ++ rest))))
    (leads : Plain before) (enclosed : Plain inner)
    (literal : (scan rest).all Mark.isLiteral = true) :
    ∃ text, screen.print markup = .ok text := by
  obtain ⟨gs, rendered, _⟩ := render_line screen.lexicon pair leads enclosed literal
  have bare := isBare_line pair leads enclosed literal
  rw [← written] at rendered bare
  exact ⟨_, print_of_render rendered bare⟩

/-! ## Styles -/

theorem readColor_cases (known : List String) {word : String} (same : lowered word = word)
    (uncalled : inside? "rgb" word.toList = none) :
    readColor known word = .ok word ∨ readColor known word = .error .meaningless := by
  simp only [readColor, same, uncalled]
  split
  · exact .inl rfl
  · exact .inr rfl

theorem text_color (word : String) : Style.text { color := some word } = word := by
  simp [Style.text, attributes]

/-- A plain word that is no attribute is its own name, be it known as a color or not. -/
theorem normalName_word {known : List String} {word : String} (single : Text.words word = [word])
    (stripped : Text.strip word = word) (same : lowered word = word) (named : word ≠ "none")
    (free : attribute? word = none ∧ ["on", "not", "link"].contains word = false)
    (uncalled : inside? "rgb" word.toList = none) : normalName known word = .ok word := by
  have style : readStyle known {} [word]
      = (readColor known word).map fun color => { color := some color } := by
    rw [readStyle, same, free.2, Style.addWord, same, free.1]
    rfl
  rcases readColor_cases known same uncalled with known | unknown
  · simp [normalName, single, stripped, named, style, known, text_color, Except.map]
  · simp [normalName, single, stripped, named, style, unknown, same, Except.map]

/-- A name that markup takes as it stands. -/
structure IsStyle (name : String) : Prop where
  lead : name.toList.head?.any (fun c => 'a' ≤ c && c ≤ 'z') = true
  inner : name.toList.all (fun c => isTagChar c && c != '=' && !Text.isBlank c) = true
  lower : name.toList.all Char.isLower = true
  normal : ∀ known, normalName known name = .ok name

theorem isStyle_bold : IsStyle "bold" :=
  ⟨rfl, rfl, rfl, fun _ => rfl⟩

theorem isStyle_red : IsStyle "red" :=
  ⟨rfl, rfl, rfl, fun _ => normalName_word rfl rfl rfl (by decide) ⟨rfl, rfl⟩ rfl⟩

theorem isStyle_green : IsStyle "green" :=
  ⟨rfl, rfl, rfl, fun _ => normalName_word rfl rfl rfl (by decide) ⟨rfl, rfl⟩ rfl⟩

theorem isStyle_yellow : IsStyle "yellow" :=
  ⟨rfl, rfl, rfl, fun _ => normalName_word rfl rfl rfl (by decide) ⟨rfl, rfl⟩ rfl⟩

namespace IsStyle

variable {name : String} (style : IsStyle name)
include style

theorem mem {c : Char} (member : c ∈ name.toList) :
    isTagChar c = true ∧ c ≠ '=' ∧ Text.isBlank c = false := by
  simpa [and_assoc] using List.all_eq_true.mp style.inner c member

theorem head_cases : ∃ c cs, name.toList = c :: cs ∧ 'a' ≤ c ∧ c ≤ 'z' := by
  have lead := style.lead
  cases written : name.toList with
  | nil => rw [written] at lead; cases lead
  | cons c cs => exact ⟨c, cs, rfl, by simpa [written] using lead⟩

theorem tagName_eq : tagName name.toList = name.toList :=
  List.takeWhile_eq_self_iff.mpr fun c member => by simpa using (style.mem member).2.1

theorem trim_eq : Text.trim Text.isBlank name.toList = name.toList :=
  Text.trim_of_none fun _ member => (style.mem member).2.2

theorem applyTag_open (lexicon : Lexicon) (position : Nat) (stack : List String) :
    applyTag lexicon position name.toList stack = .ok (stack ++ [name]) := by
  obtain ⟨c, cs, written, low, -⟩ := style.head_cases
  unfold applyTag
  split
  next slashed =>
    rw [written] at slashed
    cases slashed
    exact absurd low (by decide)
  next =>
    rw [style.tagName_eq, String.ofList_toList, style.normal, List.drop_length]
    simp

theorem closed_eq (lexicon : Lexicon) (stack : List String) :
    Console.closed lexicon name stack = .ok stack := by
  rw [Console.closed, style.tagName_eq, List.drop_of_length_le (Nat.le_succ _)]
  simp

theorem applyTag_close (lexicon : Lexicon) (position : Nat) :
    applyTag lexicon position ('/' :: name.toList) [name] = .ok [] := by
  obtain ⟨c, cs, written, -, -⟩ := style.head_cases
  have filled : name ≠ "" := by
    rintro rfl
    cases written
  have found : closeTag name [name] = some (name, []) := by
    simp [closeTag, isOpened, style.tagName_eq]
  simp [applyTag, style.tagName_eq, style.trim_eq, filled, style.normal, found, style.closed_eq]

theorem paired : Paired name.toList name where
  starts := by
    obtain ⟨c, cs, written, low, high⟩ := style.head_cases
    simp [written, isTagStart, low, high]
  closed := List.all_eq_true.mpr fun _ member => (style.mem member).1
  bare := List.all_eq_true.mpr fun c member => by
    simp [List.all_eq_true.mp style.lower c member]
  opens lexicon position := style.applyTag_open lexicon position []
  closes := style.applyTag_close

end IsStyle

end Console

/-! ## Summaries -/

namespace Reporter

open Console

theorem paired_color (ok : Bool) :
    Paired (if ok then "green" else "red").toList (if ok then "green" else "red") := by
  cases ok with
  | true => exact isStyle_green.paired
  | false => exact isStyle_red.paired

theorem paired_status (status : Status) :
    Paired (ConsoleLines.statusColor status).toList (ConsoleLines.statusColor status) := by
  cases status with
  | passed => exact isStyle_green.paired
  | failed => exact isStyle_red.paired
  | error => exact isStyle_yellow.paired

/-- A summary is plain but for its color, which encloses the counts of assertions and errors. -/
theorem summary_text (t : Tally) : ∃ inner rest, Plain inner ∧ Plain rest ∧
    (ConsoleLines.summary t).toList
      = bracketed (if t.ok then "green" else "red").toList
        ++ (inner ++ (bracketed ('/' :: (if t.ok then "green" else "red").toList) ++ rest)) := by
  refine ⟨(toString t.passed).toList ++ (" passed, ".toList ++ ((toString t.failed).toList
      ++ (" failed, ".toList ++ ((toString t.errors).toList ++ " errors".toList)))),
    " in ".toList ++ ((toString t.blocks.length).toList ++ " test blocks".toList), ?_, ?_, ?_⟩
  · exact (plain_toString_int _).append (.append rfl ((plain_toString_int _).append
      (.append rfl ((plain_toString_nat _).append rfl))))
  · exact .append rfl ((plain_toString_nat _).append rfl)
  · unfold ConsoleLines.summary
    simp only [String.toList_append]
    simp only [bracketed, List.append_assoc, List.cons_append]
    rfl

theorem print_summary (screen : Screen) (t : Tally) :
    ∃ text, screen.print (ConsoleLines.summary t) = .ok text := by
  obtain ⟨inner, rest, enclosed, after, written⟩ := summary_text t
  have literal : (scan rest).all Mark.isLiteral = true := by
    rw [scan_plain after]
    exact isLiteral_chars rest
  exact print_line screen (paired_color t.ok) (written.trans (List.nil_append _).symm) rfl enclosed
    literal

theorem onScreen_fault {screen : Screen} {stream : Stream} {markup text : String}
    (prints : screen.print markup = .ok text) :
    (onScreen screen stream (.ok markup)).fault = none := by
  have bound : (Except.ok markup).bind screen.print = screen.print markup := rfl
  rw [onScreen, bound, prints]

end Reporter

end InlineCheck
