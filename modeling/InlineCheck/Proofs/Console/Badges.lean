import InlineCheck.Proofs.Console.Foremost
import InlineCheck.Proofs.Console.Labels

/-! # Badges

A line of the console begins with a few words in a style. Whatever it is told after them stays
without a style, through rendering, layout and painting.

* `paint_row` — of a row with one styled stretch, this stretch alone is put between control codes.
* `Badge.laid` — layout keeps the badge apart from the rest, and whole where there is room for it.
* `Badge.print` — so a line with a badge has no other tag, and no other styled part.
* `labels_stay_unstyled` — this holds of every line in which the console tells a text.
-/

namespace InlineCheck

namespace Console

/-! ## Painting -/

/-- A stretch of text in a style, on a screen that may have color. -/
def styled (screen : Screen) (style : String) (cs : List Char) : List Char :=
  if cs.isEmpty then cs else paintRun (screen.palette.codes [style]) cs

/-- A row with one stretch in a style. -/
structure StyledRow where
  before : List Char := []
  own : List Char := []
  after : List Char := []

/-- A row as it is printed, with its end. -/
def StyledRow.text (screen : Screen) (style : String) (r : StyledRow) : List Char :=
  r.before ++ (styled screen style r.own ++ (r.after ++ ['\n']))

section

variable {p : Palette}

theorem paint_cons_uncoded {g : Glyph} (uncoded : p.codes g.tags = []) (gs : List Glyph) :
    paint p (g :: gs) = g.char :: paint p gs := by
  unfold paint
  rw [runs]
  cases runs p gs with
  | nil => simp [uncoded, paintRun]
  | cons r rs =>
    obtain ⟨codes, cs⟩ := r
    -- whether or not the run is joined to the next one, no codes are written
    by_cases same : codes = []
    · simp [uncoded, same, paintRun]
    · simp [uncoded, Ne.symm same, paintRun]

theorem paint_uncoded {gs : List Glyph} (uncoded : ∀ g ∈ gs, p.codes g.tags = [])
    (rest : List Glyph) : paint p (gs ++ rest) = plain gs ++ paint p rest := by
  induction gs with
  | nil => rfl
  | cons g gs ih =>
    obtain ⟨own, later⟩ := List.forall_mem_cons.mp uncoded
    rw [List.cons_append, paint_cons_uncoded own, ih later]
    rfl

theorem codes_untagged {gs : List Glyph} (untagged : ∀ g ∈ gs, g.tags = []) :
    ∀ g ∈ gs, p.codes g.tags = [] := by
  intro g member
  rw [untagged g member, p.bare]

theorem runs_begins (g : Glyph) (gs : List Glyph) :
    ∃ cs rest, runs p (g :: gs) = (p.codes g.tags, cs) :: rest := by
  rw [runs]
  split
  · split
    · exact ⟨_, _, rfl⟩
    · exact ⟨_, _, rfl⟩
  · exact ⟨_, _, rfl⟩

/-- A run of glyphs with a style ends where glyphs without one follow. -/
theorem runs_tagged {style : String} (coded : p.codes [style] ≠ []) {gs : List Glyph}
    (tagged : ∀ g ∈ gs, g.tags = [style]) (some : gs ≠ []) {rest : List Glyph}
    (untagged : ∀ g ∈ rest, g.tags = []) :
    runs p (gs ++ rest) = (p.codes [style], plain gs) :: runs p rest := by
  induction gs with
  | nil => exact absurd rfl some
  | cons g gs ih =>
    obtain ⟨own, later⟩ := List.forall_mem_cons.mp tagged
    rw [List.cons_append, runs, own]
    by_cases last : gs = []
    · -- the run is not joined to what follows, which has other codes
      subst last
      cases rest with
      | nil => rfl
      | cons h rest =>
        obtain ⟨cs, rs, begins⟩ := runs_begins (p := p) h rest
        rw [List.nil_append, begins, codes_untagged untagged h List.mem_cons_self]
        simp [coded, plain]
    · rw [ih later last]
      simp [plain]

end

theorem paint_tagged (screen : Screen) {style : String} {own after : List Glyph}
    (tagged : ∀ g ∈ own, g.tags = [style]) (follows : ∀ g ∈ after, g.tags = []) :
    paint screen.palette (own ++ after) = styled screen style (plain own) ++ plain after := by
  have ending : paint screen.palette after = plain after := by
    have whole := paint_uncoded (p := screen.palette) (codes_untagged follows) []
    rwa [List.append_nil, show paint screen.palette [] = [] from rfl, List.append_nil] at whole
  by_cases none : own = []
  · simp [none, ending, styled, plain]
  · have some : plain own ≠ [] := by simpa [plain] using none
    by_cases uncoded : screen.palette.codes [style] = []
    · -- a style without codes is no other than none
      have free : ∀ g ∈ own, screen.palette.codes g.tags = [] := fun g member => by
        rw [tagged g member, uncoded]
      rw [paint_uncoded free, ending]
      simp [styled, some, uncoded, paintRun]
    · rw [paint, runs_tagged uncoded tagged none follows, List.flatMap_cons, ← paint,
        ending, styled]
      simp [some]

/-- Of a row with one styled stretch, this stretch alone is put between control codes. -/
theorem paint_row (screen : Screen) {style : String} {before own after : List Glyph}
    (leads : ∀ g ∈ before, g.tags = []) (tagged : ∀ g ∈ own, g.tags = [style])
    (follows : ∀ g ∈ after, g.tags = []) :
    paint screen.palette (before ++ (own ++ after)) ++ ['\n']
      = StyledRow.text screen style ⟨plain before, plain own, plain after⟩ := by
  rw [paint_uncoded (codes_untagged leads), paint_tagged screen tagged follows]
  simp [StyledRow.text]

/-- Rows that are put together from glyphs with a styled part in the middle are printed as rows with
one styled stretch each, and these stretches are the styled part. -/
theorem paint_rows (screen : Screen) (style : String) {before own after : List Glyph}
    (leads : ∀ g ∈ before, g.tags = []) (tagged : ∀ g ∈ own, g.tags = [style])
    (follows : ∀ g ∈ after, g.tags = []) {ls : List (List Glyph)}
    (joined : ls.flatten = before ++ (own ++ after)) :
    ∃ rows : List StyledRow,
      screen.paintLines ls = String.ofList (rows.flatMap (StyledRow.text screen style))
      ∧ rows.flatMap StyledRow.own = plain own := by
  have nothing (tags : List String) : ∀ g ∈ ([] : List Glyph), g.tags = tags := fun _ => nofun
  simp only [Screen.paintLines, String.ofList_inj]
  induction ls generalizing before own after with
  | nil =>
    have none : own = [] := by simp_all
    exact ⟨[], rfl, by rw [none]; rfl⟩
  | cons l ls ih =>
    rw [List.flatten_cons] at joined
    rcases List.append_eq_append_iff.mp joined with ⟨more, rfl, later⟩ | ⟨rest, rfl, later⟩
    · -- the row ends before the styled part
      obtain ⟨early, leads⟩ := List.forall_mem_append.mp leads
      obtain ⟨rows, printed, whole⟩ := ih leads tagged follows later
      have row := paint_row screen early (nothing [style]) (nothing _)
      rw [List.append_nil, List.append_nil] at row
      refine ⟨_ :: rows, by rw [List.flatMap_cons, List.flatMap_cons, row, printed], ?_⟩
      rw [List.flatMap_cons, whole]
      rfl
    · rcases List.append_eq_append_iff.mp later with ⟨tail, rfl, rfl⟩ | ⟨more, rfl, next⟩
      · -- the styled part ends in the row
        obtain ⟨here, follows⟩ := List.forall_mem_append.mp follows
        obtain ⟨rows, printed, none⟩ := ih (nothing _) (nothing _) follows rfl
        have row := paint_row screen leads tagged here
        refine ⟨_ :: rows, by rw [List.flatMap_cons, List.flatMap_cons, row, printed], ?_⟩
        rw [List.flatMap_cons, none]
        exact List.append_nil _
      · -- the styled part goes on in the next row
        obtain ⟨here, tagged⟩ := List.forall_mem_append.mp tagged
        obtain ⟨rows, printed, whole⟩ := ih (nothing _) tagged follows next
        have row := paint_row screen leads here (nothing _)
        rw [List.append_nil] at row
        refine ⟨_ :: rows, by rw [List.flatMap_cons, List.flatMap_cons, row, printed], ?_⟩
        rw [List.flatMap_cons, whole]
        simp [plain]

/-! ## Tags that count -/

def Piece.tag? : Piece → Option (List Char)
  | .text _ => none
  | .tag _ body => some body

/-- The tags of a marked-up text that are not literal. -/
def countedTags (cs : List Char) : List (List Char) :=
  (pieces cs).filterMap Piece.tag?

theorem filterMap_tag?_texts {ps : List Piece} (texts : ps.all Piece.isText = true) :
    ps.filterMap Piece.tag? = [] := by
  refine List.filterMap_eq_nil_iff.mpr fun p member => ?_
  have text := List.all_eq_true.mp texts p member
  cases p with
  | text => rfl
  | tag => cases text

theorem countedTags_line {name : List Char} {style : String} (pair : Paired name style)
    {before inner rest : List Char} (leads : Plain before) (enclosed : Plain inner)
    (literal : (scan rest).all Mark.isLiteral = true) :
    countedTags (before ++ (bracketed name ++ (inner ++ (bracketed ('/' :: name) ++ rest))))
      = [name, '/' :: name] := by
  obtain ⟨first, last, position, split⟩ := pieces_tagged pair leads enclosed rest
  have texts := piecesFrom_literal literal position []
  simp [countedTags, split, filterMap_tag?_texts (isText_textPiece _), filterMap_tag?_texts texts,
    Piece.tag?]

/-- What is shown of a line with a label begins with the space before it. -/
theorem shown_spaced (position : Nat) (run : List Char) (ms : List Mark) :
    ∃ cs, (piecesFrom position (run ++ [' ']) ms).flatMap Piece.shown = ' ' :: cs := by
  have space (cs : List Char) : printed (' ' :: cs) = ' ' :: printed cs := rfl
  induction ms generalizing position run with
  | nil => exact ⟨printed run.reverse, by simp [piecesFrom, space]⟩
  | cons m ms ih =>
    cases m with
    | char c => exact ih _ (c :: run)
    | tag slashes body =>
      obtain ⟨next, shown⟩ := shown_tag position (run ++ [' ']) slashes body ms
      rw [shown, List.reverse_append, List.reverse_singleton, List.singleton_append, space]
      exact ⟨_, rfl⟩

end Console

open Console

/-! ## Badges -/

/-- Words in a style that a line of the console begins with, after an indent. -/
structure Badge where
  stream : Stream
  indent : String
  style : String
  words : String
  paired : Paired style.toList style
  coded : Palette.basic.codes [style] ≠ []
  leads : Plain indent.toList
  enclosed : Plain words.toList
  literal : printed indent.toList = indent.toList ∧ printed words.toList = words.toList
  foremost : isForemost (indent.toList ++ words.toList) = true

namespace Badge

/-- A line up to what it tells, as it is marked up. -/
def lead (b : Badge) : String :=
  b.indent ++ "[" ++ b.style ++ "]" ++ b.words ++ "[/" ++ b.style ++ "] "

/-- A line in which the badge is the only tag, and of which nothing else is styled: not in what it
is rendered as, and not in what is printed, row by row. Where the screen has room for the badge, all
of it is styled. -/
structure Alone (b : Badge) (screen : Screen) (markup text : String) : Prop where
  tags : countedTags markup.toList = [b.style.toList, '/' :: b.style.toList]
  rendered : ∃ rest, (∀ g ∈ rest, g.tags = [])
    ∧ render screen.lexicon markup.toList
      = .ok (b.indent.toList.map (⟨·, []⟩) ++ (b.words.toList.map (⟨·, [b.style]⟩) ++ rest))
  painted : ∃ rows : List StyledRow,
    text = String.ofList (rows.flatMap (StyledRow.text screen b.style))
    ∧ (ink (rows.flatMap StyledRow.own)).Sublist (ink b.words.toList)
    ∧ (b.indent.length + b.words.length ≤ screen.width
      → rows.flatMap StyledRow.own = b.words.toList)

/-- Layout keeps the badge apart from the rest of its line, and whole where there is room. -/
theorem laid (b : Badge) (width : Nat) {rest : List Glyph} {cs : List Char}
    (spaced : plain rest = ' ' :: cs) :
    ∃ before own after,
      (wrap width (b.indent.toList.map (⟨·, []⟩)
        ++ (b.words.toList.map (⟨·, [b.style]⟩) ++ rest))).flatten = before ++ (own ++ after)
      ∧ Laid (b.indent.toList.map (⟨·, []⟩)) before
      ∧ Laid (b.words.toList.map (⟨·, [b.style]⟩)) own
      ∧ Laid rest after
      ∧ (b.indent.length + b.words.length ≤ width
        → own = b.words.toList.map (⟨·, [b.style]⟩)) := by
  by_cases room : b.indent.length + b.words.length ≤ width
  · obtain ⟨g, gs, rfl, space, -⟩ := List.map_eq_cons_iff.mp spaced
    have foremost : isForemost (plain (b.indent.toList.map (⟨·, []⟩)
        ++ b.words.toList.map (⟨·, [b.style]⟩))) = true := by
      simpa [plain, Function.comp_def] using b.foremost
    have fits : (b.indent.toList.map (⟨·, []⟩)
        ++ b.words.toList.map (⟨·, [b.style]⟩) : List Glyph).length ≤ width := by
      rwa [List.length_append, List.length_map, List.length_map, String.length_toList,
        String.length_toList]
    obtain ⟨after, wrapped, laid⟩ := wrap_foremost foremost fits space gs
    rw [List.append_assoc, List.append_assoc] at wrapped
    exact ⟨_, _, after, wrapped, .refl _, .refl _, laid, fun _ => rfl⟩
  · obtain ⟨before, later, joined, leads, following⟩ := (laid_wrap width _).split
    obtain ⟨own, after, rfl, words, ends⟩ := following.split
    exact ⟨before, own, after, joined, leads, words, ends, fun fits => absurd fits room⟩

/-- A line with a badge is printed, and the badge is alone on it, whatever the line tells. -/
theorem print (b : Badge) (screen : Screen) (label : String) {tail : String}
    (free : tail.toList.all isTagChar = true) :
    ∃ text, screen.print (b.lead ++ ConsoleLines.literal label ++ tail) = .ok text
      ∧ b.Alone screen (b.lead ++ ConsoleLines.literal label ++ tail) text := by
  have written : (b.lead ++ ConsoleLines.literal label ++ tail).toList
      = b.indent.toList ++ (bracketed b.style.toList ++ (b.words.toList
        ++ (bracketed ('/' :: b.style.toList)
          ++ ' ' :: (escape label.toList ++ tail.toList)))) := by
    simp [lead, ConsoleLines.literal, bracketed]
  obtain ⟨position, rest, rendered, untagged, shown⟩ :=
    render_label screen.lexicon b.paired b.leads b.enclosed label.toList free
  have bare := isBare_line b.paired b.leads b.enclosed (isLiteral_spaced_escape label.toList free)
  rw [← written] at bare
  rw [← written, glyphs, glyphs, b.literal.1, b.literal.2] at rendered
  obtain ⟨cs, begins⟩ := shown_spaced position [] (scan (escape label.toList ++ tail.toList))
  obtain ⟨before, own, after, joined, leads, words, ends, whole⟩ :=
    b.laid screen.width (shown.trans begins)
  obtain ⟨rows, painted, styled⟩ := paint_rows screen b.style (leads.tags_eq (by simp))
    (words.tags_eq (by simp)) (ends.tags_eq untagged) joined
  refine ⟨_, print_of_render rendered bare, ?_, ⟨rest, untagged, rendered⟩, ?_⟩
  · rw [written]
    exact countedTags_line b.paired b.leads b.enclosed (isLiteral_spaced_escape label.toList free)
  · by_cases narrow : screen.width = 0
    · -- where there is no room, there are no rows
      refine ⟨[], by rw [if_pos narrow]; rfl, List.nil_sublist _, fun room => ?_⟩
      have none : b.words.toList.length = 0 := by
        rw [String.length_toList]
        omega
      exact (List.length_eq_zero_iff.mp none).symm
    · refine ⟨rows, by rw [if_neg narrow, painted], ?_, fun room => ?_⟩
      · rw [styled]
        simpa [plain, Function.comp_def] using words.ink_sublist
      · rw [styled, whole room]
        simp [plain, Function.comp_def]

/-- A block begins. -/
def start : Badge where
  stream := .out
  indent := ""
  style := "bold"
  words := "Running test:"
  paired := isStyle_bold.paired
  coded := by decide
  leads := rfl
  enclosed := rfl
  literal := ⟨rfl, rfl⟩
  foremost := by decide

/-- A condition held, or not. -/
def verdict (passed : Bool) : Badge where
  stream := if passed then .out else .err
  indent := "  "
  style := if passed then "green" else "red"
  words := if passed then "Assertion passed:" else "Assertion failed:"
  paired := Reporter.paired_color passed
  coded := by cases passed <;> decide
  leads := rfl
  enclosed := by cases passed <;> rfl
  literal := by cases passed <;> exact ⟨rfl, rfl⟩
  foremost := by cases passed <;> decide

/-- A block is done. -/
def complete (status : Status) : Badge where
  stream := .out
  indent := "  "
  style := ConsoleLines.statusColor status
  words := String.ofList (status.name.toList.map Char.toUpper)
  paired := Reporter.paired_status status
  coded := by cases status <;> decide
  leads := rfl
  enclosed := by cases status <;> rfl
  literal := by cases status <;> exact ⟨rfl, rfl⟩
  foremost := by cases status <;> decide

end Badge

namespace Call

/-- The badge and the text by which the console tells of a call. -/
def told? : Call → Option (Badge × String)
  | .start (.text description) => some (.start, description)
  | .assertion a => some (.verdict a.passed, a.text)
  | .complete b =>
    match b.description with
    | .text description => some (.complete b.status, description)
    | _ => none
  | _ => none

/-- Whether the console keeps a call to itself. -/
def isHidden (verbosity : Int) : Call → Bool
  | .assertion a => a.passed && verbosity < 0
  | .complete _ => verbosity ≤ 0
  | _ => false

end Call

namespace Reporter

theorem respond_hidden {screen : Screen} {verbosity : Int} {c : Call}
    (hidden : c.isHidden verbosity = true) (earlier : List Call) :
    (Reporter.console screen verbosity).respond earlier c = {} := by
  show consoleRespond screen verbosity c = {}
  cases c with
  | start | summary => cases hidden
  | assertion a =>
    obtain ⟨passed, quiet⟩ : a.passed = true ∧ verbosity < 0 := by
      simpa [Call.isHidden] using hidden
    simp [consoleRespond, passed, Int.not_le.mpr quiet]
  | complete b =>
    have quiet : verbosity ≤ 0 := by simpa [Call.isHidden] using hidden
    simp [consoleRespond, quiet]

/-- What the console prints for a call that it tells of. -/
theorem respond_told (screen : Screen) {verbosity : Int} {c : Call} {badge : Badge} {label : String}
    (told : c.told? = some (badge, label)) (shown : c.isHidden verbosity = false)
    (earlier : List Call) :
    ∃ tail : String, tail.toList.all isTagChar = true
      ∧ (Reporter.console screen verbosity).respond earlier c
        = onScreen screen badge.stream
          (.ok (badge.lead ++ ConsoleLines.literal label ++ tail)) := by
  have last (markup : String) : markup ++ "" = markup := String.append_empty
  show ∃ tail : String, _ ∧ consoleRespond screen verbosity c = _
  cases c with
  | start description =>
    cases description with
    | text description =>
      cases told
      exact ⟨"", rfl, by rw [last]; rfl⟩
    | _ => cases told
  | assertion a =>
    cases told
    refine ⟨"", rfl, ?_⟩
    rw [last]
    cases passed : a.passed with
    | true =>
      have loud : 0 ≤ verbosity := by simpa [Call.isHidden, passed] using shown
      simp only [consoleRespond, passed, loud, if_true]
      rfl
    | false =>
      simp only [consoleRespond, passed, if_false, Bool.false_eq_true]
      rfl
  | complete b =>
    have loud : ¬ verbosity ≤ 0 := by simpa [Call.isHidden] using shown
    simp only [Call.told?] at told
    split at told
    next description described =>
      cases told
      refine ⟨" (" ++ b.milliseconds.fixed 1 ++ " ms)", ?_, ?_⟩
      · simp only [String.toList_append, List.all_append, Bool.and_eq_true]
        exact ⟨⟨rfl, Number.Binary64.fixed_free 1 _⟩, rfl⟩
      · simp only [consoleRespond, loud, if_false, ConsoleLines.complete, described]
        rfl
    next => cases told
  | summary => cases told

end Reporter

/-- The console never fails to tell a text, and no text is markup to it. What it keeps to itself it
does not print at all; on every other line the badge is the only tag, and no part of the text is
styled. -/
theorem labels_stay_unstyled (screen : Screen) (verbosity : Int) (earlier : List Call) {c : Call}
    {badge : Badge} {label : String} (told : c.told? = some (badge, label)) :
    ((Reporter.console screen verbosity).respond earlier c).fault = none
    ∧ (c.isHidden verbosity = true
      → ((Reporter.console screen verbosity).respond earlier c).events = [])
    ∧ (c.isHidden verbosity = false → ∃ tail text,
        (Reporter.console screen verbosity).respond earlier c
          = Reporter.onScreen screen badge.stream
            (.ok (badge.lead ++ ConsoleLines.literal label ++ tail))
        ∧ ((Reporter.console screen verbosity).respond earlier c).events
          = [.wrote badge.stream text]
        ∧ badge.Alone screen (badge.lead ++ ConsoleLines.literal label ++ tail) text) := by
  cases hidden : c.isHidden verbosity with
  | true =>
    rw [Reporter.respond_hidden hidden]
    exact ⟨rfl, fun _ => rfl, nofun⟩
  | false =>
    obtain ⟨tail, free, responds⟩ := Reporter.respond_told screen told hidden earlier
    obtain ⟨text, prints, alone⟩ := badge.print screen label free
    have wrote : Reporter.onScreen screen badge.stream
        (.ok (badge.lead ++ ConsoleLines.literal label ++ tail))
          = { events := [.wrote badge.stream text] } :=
      Reporter.onScreen_of_print prints
    refine ⟨by rw [responds, wrote], nofun, fun _ => ⟨tail, text, responds, ?_, alone⟩⟩
    rw [responds, wrote]

/-- A label that closes the console's own tag, opens others and escapes one. -/
def hostileLabel : String :=
  "[/green][red]\\[bold]x[/]"

def hostileLine : String :=
  "  \x1b[32mAssertion passed:\x1b[0m " ++ hostileLabel ++ "\n"

theorem hostileLabel_unstyled :
    (Call.assertion ⟨hostileLabel, true, none⟩).told? = some (.verdict true, hostileLabel)
    ∧ ((Reporter.console { palette := .basic } 0).respond []
        (.assertion ⟨hostileLabel, true, none⟩)).events = [.wrote .out hostileLine]
    ∧ ∃ tail, (Badge.verdict true).Alone { palette := .basic }
        ((Badge.verdict true).lead ++ ConsoleLines.literal hostileLabel ++ tail) hostileLine := by
  have told : (Call.assertion ⟨hostileLabel, true, none⟩).told?
      = some (.verdict true, hostileLabel) := rfl
  have printed : (Screen.print { palette := .basic } (ConsoleLines.held hostileLabel)).toOption
      = some hostileLine := by
    decide +kernel
  have responds (label : String) : (Reporter.console { palette := .basic } 0).respond []
      (.assertion ⟨label, true, none⟩)
        = Reporter.onScreen { palette := .basic } .out (.ok (ConsoleLines.held label)) := by
    simp [Reporter.console, Reporter.consoleRespond]
  have events : ((Reporter.console { palette := .basic } 0).respond []
      (.assertion ⟨hostileLabel, true, none⟩)).events = [.wrote .out hostileLine] := by
    rw [responds]
    cases prints : Screen.print { palette := .basic } (ConsoleLines.held hostileLabel) with
    | error f =>
      rw [prints] at printed
      cases printed
    | ok text =>
      rw [prints] at printed
      cases printed
      rw [Reporter.onScreen_of_print prints]
  obtain ⟨tail, text, _, wrote, alone⟩ :=
    (labels_stay_unstyled { palette := .basic } 0 [] told).2.2 rfl
  refine ⟨told, events, tail, ?_⟩
  rw [events] at wrote
  cases wrote
  exact alone

end InlineCheck
