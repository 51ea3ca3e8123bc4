import InlineCheck.Proofs.Console.Tagged

/-! # Escaped text

An escaped text is read back mark by mark: what was no tag is none, and what was a tag has an odd
number of backslashes before it.

* `scan_escape` — the marks of an escaped text, whatever follows it without a bracket.
* `print_label` — so a line with a tag of its own is printed whatever its label is.
* `Reporter.Steady` — a reporter does not fail when it is told texts; the built-in ones do not.
-/

namespace InlineCheck

namespace Console

/-! ## Backslashes -/

theorem scanFrom_slashes (slashes n : Nat) (rest : List Char) :
    scanFrom 0 slashes (List.replicate n '\\' ++ rest) = scanFrom 0 (slashes + n) rest := by
  induction n generalizing slashes with
  | zero => rfl
  | succ n ih =>
    show scanFrom 0 (slashes + 1) (List.replicate n '\\' ++ rest) = _
    rw [ih, Nat.add_assoc, Nat.add_comm 1 n]

theorem untilBracket_slashes (n : Nat) {rest : List Char} (unclosed : untilBracket rest = none) :
    untilBracket (List.replicate n '\\' ++ rest) = none := by
  induction n with
  | zero => exact unclosed
  | succ n ih => simp [List.replicate_succ, untilBracket, ih]

theorem flatMap_escaped_slashes (n : Nat) :
    (slashMarks n).flatMap Mark.escaped = List.replicate n '\\' := by
  induction n with
  | zero => rfl
  | succ n ih =>
    show '\\' :: (slashMarks n).flatMap Mark.escaped = _
    rw [ih, List.replicate_succ]

/-! ## Texts without brackets -/

theorem untilBracket_free {cs : List Char} (free : cs.all isTagChar = true) :
    untilBracket cs = none := by
  induction cs with
  | nil => rfl
  | cons c cs ih =>
    obtain ⟨head, tail⟩ : isTagChar c = true ∧ cs.all isTagChar = true := by
      simpa [List.all_cons] using free
    obtain ⟨notClose, notOpen⟩ : c ≠ ']' ∧ c ≠ '[' := by simpa [isTagChar] using head
    simp [untilBracket, notClose, notOpen, ih tail]

theorem scanFrom_free {cs : List Char} (free : cs.all isTagChar = true) (slashes : Nat) :
    scanFrom 0 slashes cs = slashMarks slashes ++ cs.map .char := by
  induction cs generalizing slashes with
  | nil => exact (List.append_nil _).symm
  | cons c cs ih =>
    obtain ⟨head, tail⟩ : isTagChar c = true ∧ cs.all isTagChar = true := by
      simpa [List.all_cons] using free
    obtain ⟨_, notOpen⟩ : c ≠ ']' ∧ c ≠ '[' := by simpa [isTagChar] using head
    by_cases slash : c = '\\'
    · simp [scanFrom, slash, ih tail, slashMarks, List.replicate_succ']
    · simp [scanFrom, slash, notOpen, ih tail, slashMarks]

/-! ## Escaping -/

/-- A mark as it is read after it was escaped. -/
def Mark.guarded : Mark → Mark
  | .char c => .char c
  | .tag slashes body => .tag (2 * slashes + 1) body

/-- What a scan does with a character: it counts a backslash, takes a tag, or keeps the character
after the backslashes that it has counted. -/
theorem scanFrom_cons_cases (slashes : Nat) (c : Char) (cs : List Char) :
    (c = '\\' ∧ scanFrom 0 slashes (c :: cs) = scanFrom 0 (slashes + 1) cs)
    ∨ (∃ body, c = '[' ∧ tagBody? cs = some body
      ∧ scanFrom 0 slashes (c :: cs) = .tag slashes body :: scanFrom (body.length + 1) 0 cs)
    ∨ (c ≠ '\\' ∧ (c = '[' → tagBody? cs = none)
      ∧ scanFrom 0 slashes (c :: cs) = slashMarks slashes ++ .char c :: scanFrom 0 0 cs) := by
  by_cases slash : c = '\\'
  · exact .inl ⟨slash, by simp [scanFrom, slash]⟩
  by_cases opens : c = '['
  · cases found : tagBody? cs with
    | some body => exact .inr (.inl ⟨body, opens, rfl, by simp [scanFrom, opens, found]⟩)
    | none => exact .inr (.inr ⟨slash, fun _ => rfl, by simp [scanFrom, opens, found]⟩)
  · exact .inr (.inr ⟨slash, fun h => absurd h opens, by simp [scanFrom, slash, opens]⟩)

theorem isTag_of_tagBody? {cs body : List Char} (found : tagBody? cs = some body) : IsTag body := by
  have closed {ds inner : List Char} (found : untilBracket ds = some inner) :
      inner.all isTagChar = true := by
    induction ds generalizing inner with
    | nil => cases found
    | cons d ds ih =>
      unfold untilBracket at found
      split at found
      · cases found
        rfl
      next notClose =>
        split at found
        · cases found
        next notOpen =>
          obtain ⟨rest, later, rfl⟩ := Option.map_eq_some_iff.mp found
          simp [isTagChar, notClose, notOpen, ih later]
  cases cs with
  | nil => cases found
  | cons c cs =>
    simp only [tagBody?] at found
    split at found
    next starts =>
      obtain ⟨rest, later, rfl⟩ := Option.map_eq_some_iff.mp found
      have first : isTagChar c = true := by
        have notClose : c ≠ ']' := by rintro rfl; cases starts
        have notOpen : c ≠ '[' := by rintro rfl; cases starts
        simp [isTagChar, notClose, notOpen]
      exact ⟨starts, by rw [List.all_cons, first, closed later]; rfl⟩
    next => cases found

theorem escaped_begins (slashes : Nat) (cs : List Char) :
    ∃ rest, (scanFrom 0 (slashes + 1) cs).flatMap Mark.escaped = '\\' :: rest := by
  induction cs generalizing slashes with
  | nil => exact ⟨_, by rw [scanFrom, flatMap_escaped_slashes, List.replicate_succ]⟩
  | cons c cs ih =>
    rcases scanFrom_cons_cases (slashes + 1) c cs with
      ⟨_, scanned⟩ | ⟨body, _, _, scanned⟩ | ⟨_, _, scanned⟩
    · rw [scanned]
      exact ih (slashes + 1)
    · rw [scanned, List.flatMap_cons, Mark.escaped, List.replicate_succ]
      exact ⟨_, rfl⟩
    · rw [scanned, List.flatMap_append, flatMap_escaped_slashes, List.replicate_succ]
      exact ⟨_, rfl⟩

section

variable {tail : List Char} (free : tail.all isTagChar = true)
include free

/-- Escaping closes no bracket: it only adds backslashes, and before opening brackets. -/
theorem untilBracket_escaped {cs : List Char} (unclosed : untilBracket cs = none) (slashes : Nat) :
    untilBracket ((scanFrom 0 slashes cs).flatMap Mark.escaped ++ tail) = none := by
  induction cs generalizing slashes with
  | nil =>
    rw [scanFrom, flatMap_escaped_slashes]
    exact untilBracket_slashes _ (untilBracket_free free)
  | cons c cs ih =>
    rcases scanFrom_cons_cases slashes c cs with
      ⟨rfl, scanned⟩ | ⟨body, rfl, _, scanned⟩ | ⟨_, _, scanned⟩
    · rw [scanned]
      exact ih (by simpa [untilBracket] using unclosed) (slashes + 1)
    · rw [scanned, List.flatMap_cons, Mark.escaped, List.append_assoc, List.append_assoc]
      exact untilBracket_slashes _ (by simp [bracketed, untilBracket])
    · rw [scanned, List.flatMap_append, flatMap_escaped_slashes, List.flatMap_cons, Mark.escaped,
        List.append_assoc]
      refine untilBracket_slashes _ ?_
      by_cases opens : c = '['
      · simp [opens, untilBracket]
      · have notClose : c ≠ ']' := by
          rintro rfl
          simp [untilBracket] at unclosed
        have later : untilBracket cs = none := by
          simpa [untilBracket, notClose, opens] using unclosed
        simpa [untilBracket, notClose, opens] using ih later 0

theorem tagBody?_escaped {cs : List Char} (untagged : tagBody? cs = none) :
    tagBody? ((scanFrom 0 0 cs).flatMap Mark.escaped ++ tail) = none := by
  cases cs with
  | nil =>
    show tagBody? tail = none
    cases tail with
    | nil => rfl
    | cons c cs =>
      rw [List.all_cons, Bool.and_eq_true] at free
      simp [tagBody?, untilBracket_free free.2]
  | cons c cs =>
    -- what is escaped begins with a backslash, or with the character itself
    rcases scanFrom_cons_cases 0 c cs with
      ⟨rfl, scanned⟩ | ⟨body, rfl, _, scanned⟩ | ⟨_, _, scanned⟩
    · obtain ⟨rest, begins⟩ := escaped_begins 0 cs
      rw [scanned, begins]
      rfl
    · rw [scanned]
      rfl
    · rw [scanned]
      show tagBody? (c :: ((scanFrom 0 0 cs).flatMap Mark.escaped ++ tail)) = none
      by_cases starts : isTagStart c = true
      · have unclosed : untilBracket cs = none := by simpa [tagBody?, starts] using untagged
        simp [tagBody?, untilBracket_escaped free unclosed 0]
      · simp [tagBody?, starts]

theorem scanFrom_escaped (skip slashes : Nat) (cs : List Char) :
    scanFrom 0 0 ((scanFrom skip slashes cs).flatMap Mark.escaped ++ tail)
      = (scanFrom skip slashes cs).map Mark.guarded ++ tail.map .char := by
  have kept (n : Nat) : (slashMarks n).map Mark.guarded = slashMarks n := by
    simp [slashMarks, Mark.guarded]
  induction cs generalizing skip slashes with
  | nil =>
    rw [scanFrom, flatMap_escaped_slashes, scanFrom_slashes, scanFrom_free free, kept, Nat.zero_add]
  | cons c cs ih =>
    cases skip with
    | succ skip => exact ih skip 0
    | zero =>
      rcases scanFrom_cons_cases slashes c cs with
        ⟨_, scanned⟩ | ⟨body, _, found, scanned⟩ | ⟨notSlash, untagged, scanned⟩
      · rw [scanned]
        exact ih 0 (slashes + 1)
      · -- the tag is found again after its backslashes, and the scan goes on behind it
        rw [scanned, List.flatMap_cons, List.map_cons, Mark.escaped, Mark.guarded,
          List.append_assoc,
          List.append_assoc, scanFrom_slashes, Nat.zero_add, scanFrom_tag (isTag_of_tagBody? found),
          ih (body.length + 1) 0]
        rfl
      · rw [scanned, List.flatMap_append, flatMap_escaped_slashes, List.map_append, kept,
          List.append_assoc, scanFrom_slashes, Nat.zero_add, List.append_assoc, List.map_cons,
          List.cons_append, ← ih 0 0]
        have again : c = '[' →
            tagBody? ((scanFrom 0 0 cs).flatMap Mark.escaped ++ tail) = none :=
          fun opens => tagBody?_escaped free (untagged opens)
        show scanFrom 0 slashes (c :: ((scanFrom 0 0 cs).flatMap Mark.escaped ++ tail)) = _
        generalize (scanFrom 0 0 cs).flatMap Mark.escaped ++ tail = rest at again ⊢
        rcases scanFrom_cons_cases slashes c rest with
          ⟨slash, _⟩ | ⟨body, opens, found, _⟩ | ⟨_, _, scanned⟩
        · exact absurd slash notSlash
        · rw [again opens] at found
          cases found
        · exact scanned

end

theorem guardEnd_cases (cs : List Char) : guardEnd cs = cs ∨ guardEnd cs = cs ++ ['\\'] := by
  unfold guardEnd
  split
  · exact .inr rfl
  · split
    · exact .inl rfl
    · exact .inr rfl
  · exact .inl rfl

/-- An escaped text has the marks of the text, with every tag literal, and perhaps a backslash at
its end. -/
theorem scan_escape (cs : List Char) {tail : List Char} (free : tail.all isTagChar = true) :
    ∃ ending, (ending = [] ∨ ending = ['\\'])
      ∧ scan (escape cs ++ tail) = (scan cs).map Mark.guarded ++ (ending ++ tail).map .char := by
  rcases guardEnd_cases ((scan cs).flatMap Mark.escaped) with same | longer
  · refine ⟨[], .inl rfl, ?_⟩
    rw [escape, same]
    exact scanFrom_escaped free 0 0 cs
  · refine ⟨['\\'], .inr rfl, ?_⟩
    rw [escape, longer, List.append_assoc]
    have freer : (['\\'] ++ tail).all isTagChar = true := by
      rw [List.all_append, free]
      rfl
    exact scanFrom_escaped freer 0 0 cs

theorem isLiteral_guarded (m : Mark) : m.guarded.isLiteral = true := by
  cases m with
  | char c => rfl
  | tag slashes body =>
    have odd : (2 * slashes + 1) % 2 = 1 := by omega
    simp [Mark.guarded, Mark.isLiteral, odd]

/-- No part of an escaped text is a tag that counts. -/
theorem isLiteral_escape (cs : List Char) {tail : List Char} (free : tail.all isTagChar = true) :
    (scan (escape cs ++ tail)).all Mark.isLiteral = true := by
  obtain ⟨ending, _, scanned⟩ := scan_escape cs free
  rw [scanned, List.all_append, isLiteral_chars, Bool.and_true, List.all_map]
  exact List.all_eq_true.mpr fun m _ => isLiteral_guarded m

theorem isLiteral_spaced_escape (cs : List Char) {tail : List Char}
    (free : tail.all isTagChar = true) :
    (scan (' ' :: (escape cs ++ tail))).all Mark.isLiteral = true := by
  have spaced : scan (' ' :: (escape cs ++ tail)) = .char ' ' :: scan (escape cs ++ tail) := rfl
  rw [spaced, List.all_cons, isLiteral_escape cs free]
  rfl

/-- A line that begins with a tag of its own is printed, whatever label it ends with. -/
theorem print_label (screen : Screen) {name : List Char} {style : String}
    (pair : Paired name style) {before inner : List Char} {lead : String}
    (written : lead.toList
      = before ++ (bracketed name ++ (inner ++ (bracketed ('/' :: name) ++ [' ']))))
    (leads : Plain before) (enclosed : Plain inner) (label : String) {tail : String}
    (free : tail.toList.all isTagChar = true) :
    ∃ text, screen.print (lead ++ ConsoleLines.literal label ++ tail) = .ok text := by
  refine print_line screen pair ?_ leads enclosed (isLiteral_spaced_escape label.toList free)
  simp [ConsoleLines.literal, written]

theorem print_last_label (screen : Screen) {name : List Char} {style : String}
    (pair : Paired name style) {before inner : List Char} {lead : String}
    (written : lead.toList
      = before ++ (bracketed name ++ (inner ++ (bracketed ('/' :: name) ++ [' ']))))
    (leads : Plain before) (enclosed : Plain inner) (label : String) :
    ∃ text, screen.print (lead ++ ConsoleLines.literal label) = .ok text := by
  have ending : "".toList.all isTagChar = true := rfl
  simpa using print_label screen pair written leads enclosed label ending

end Console

/-! ## The lines of a console -/

namespace Number.Binary64

open Console

theorem isTagChar_of_isDigit {c : Char} (digit : c.isDigit = true) : isTagChar c = true := by
  have notClose : c ≠ ']' := by rintro rfl; cases digit
  have notOpen : c ≠ '[' := by rintro rfl; cases digit
  simp [isTagChar, notClose, notOpen]

/-- A number with decimals is written without brackets. -/
theorem fixed_free (places : Nat) (x : Binary64) :
    (x.fixed places).toList.all isTagChar = true := by
  cases x with
  | nan => simp [fixed, isTagChar]
  | infinity negative => cases negative <;> simp [fixed, isTagChar]
  | finite negative m e =>
    have digits (n size : Nat) :
        (List.replicate size '0' ++ Nat.toDigits 10 n).all isTagChar = true := by
      refine List.all_eq_true.mpr fun c member => isTagChar_of_isDigit ?_
      rcases List.mem_append.mp member with zero | digit
      · rw [List.eq_of_mem_replicate zero]
        rfl
      · exact Nat.isDigit_of_mem_toDigits (by decide) (by decide) digit
    have part {ds : List Char} (free : ds.all isTagChar = true) (n : Nat) :
        (ds.take n).all isTagChar = true ∧ (ds.drop n).all isTagChar = true := by
      rw [← Bool.and_eq_true, ← List.all_append, List.take_append_drop]
      exact free
    simp only [fixed, String.toList_append, List.all_append, Bool.and_eq_true, String.toList_ofList]
    refine ⟨⟨?_, (part (digits _ _) _).1⟩, ?_⟩
    · cases negative <;> simp [isTagChar]
    · split
      · rfl
      · simp only [String.toList_append, List.all_append, Bool.and_eq_true, String.toList_ofList]
        exact ⟨rfl, (part (digits _ _) _).2⟩

end Number.Binary64

def Value.isText : Value → Bool
  | .text _ => true
  | _ => false

/-- Whether a description that is told is a text. -/
def Call.isTextual : Call → Bool
  | .start description => description.isText
  | .complete block => block.description.isText
  | .assertion _ | .summary _ => true

namespace Reporter

open Console

/-- A reporter does not fail when it is told texts, whatever it was told before. -/
def Steady (r : Reporter) : Prop :=
  ∀ earlier, ∀ c : Call, c.isTextual = true → (r.respond earlier c).fault = none

theorem trace_steady (own : Bool) : (Reporter.trace own).Steady := by
  intro _ c textual
  cases c with
  | start description =>
    cases description with
    | text => rfl
    | _ => cases textual
  | assertion a =>
    show (traceRespond own (.assertion a)).fault = none
    simp only [traceRespond]
    split <;> rfl
  | complete | summary => rfl

theorem print_start (screen : Screen) (description : String) :
    ∃ markup text, ConsoleLines.start (.text description) = .ok markup
      ∧ screen.print markup = .ok text := by
  have lead : "[bold]Running test:[/bold] ".toList = [] ++ (bracketed "bold".toList
    ++ ("Running test:".toList ++ (bracketed ('/' :: "bold".toList) ++ [' ']))) := rfl
  obtain ⟨text, printed⟩ := print_last_label screen isStyle_bold.paired lead rfl rfl description
  exact ⟨_, text, rfl, printed⟩

theorem print_held (screen : Screen) (label : String) :
    ∃ text, screen.print (ConsoleLines.held label) = .ok text := by
  have lead : "  [green]Assertion passed:[/green] ".toList = "  ".toList ++
    (bracketed "green".toList
    ++ ("Assertion passed:".toList ++ (bracketed ('/' :: "green".toList) ++ [' ']))) := rfl
  exact print_last_label screen (paired_color true) lead rfl rfl label

theorem print_broken (screen : Screen) (label : String) :
    ∃ text, screen.print (ConsoleLines.broken label) = .ok text := by
  have lead : "  [red]Assertion failed:[/red] ".toList = "  ".toList ++ (bracketed "red".toList
    ++ ("Assertion failed:".toList ++ (bracketed ('/' :: "red".toList) ++ [' ']))) := rfl
  exact print_last_label screen (paired_color false) lead rfl rfl label

theorem print_complete (screen : Screen) {b : Block} {description : String}
    (textual : b.description = .text description) :
    ∃ markup text, ConsoleLines.complete b = .ok markup ∧ screen.print markup = .ok text := by
  have named (status : Status) : Plain (status.name.toList.map Char.toUpper) := by
    cases status <;> rfl
  have lead (status : Status) :
      ("  [" ++ ConsoleLines.statusColor status ++ "]"
        ++ String.ofList (status.name.toList.map Char.toUpper)
        ++ "[/" ++ ConsoleLines.statusColor status ++ "] ").toList
      = "  ".toList ++ (bracketed (ConsoleLines.statusColor status).toList
        ++ (status.name.toList.map Char.toUpper
          ++ (bracketed ('/' :: (ConsoleLines.statusColor status).toList) ++ [' ']))) := by
    cases status <;> rfl
  have ending : (" (" ++ b.milliseconds.fixed 1 ++ " ms)").toList.all isTagChar = true := by
    simp only [String.toList_append, List.all_append, Bool.and_eq_true]
    exact ⟨⟨rfl, Number.Binary64.fixed_free 1 _⟩, rfl⟩
  obtain ⟨text, printed⟩ := print_label screen (paired_status b.status) (lead b.status) rfl
    (named b.status) description ending
  refine ⟨_, text, ?_, printed⟩
  rw [ConsoleLines.complete, textual]
  rfl

theorem console_steady (screen : Screen) (verbosity : Int) :
    (Reporter.console screen verbosity).Steady := by
  intro _ c textual
  show (consoleRespond screen verbosity c).fault = none
  cases c with
  | start description =>
    cases description with
    | text description =>
      obtain ⟨markup, text, written, printed⟩ := print_start screen description
      rw [consoleRespond, written]
      exact onScreen_fault printed
    | _ => cases textual
  | assertion a =>
    simp only [consoleRespond]
    split
    · split
      · obtain ⟨text, printed⟩ := print_held screen a.text
        exact onScreen_fault printed
      · rfl
    · obtain ⟨text, printed⟩ := print_broken screen a.text
      exact onScreen_fault printed
  | complete b =>
    simp only [consoleRespond]
    split
    · rfl
    · cases described : b.description with
      | text description =>
        obtain ⟨markup, text, written, printed⟩ := print_complete screen described
        rw [written]
        exact onScreen_fault printed
      | _ =>
        rw [Call.isTextual, described] at textual
        cases textual
  | summary t =>
    simp only [consoleRespond]
    obtain ⟨text, printed⟩ := print_summary screen t
    exact onScreen_fault printed

/-- The reporters of the library. -/
def IsBuiltin (r : Reporter) : Prop :=
  (∃ own, r = .trace own) ∨ ∃ screen verbosity, r = .console screen verbosity

theorem steady_of_builtin {r : Reporter} (builtin : r.IsBuiltin) : r.Steady := by
  rcases builtin with ⟨own, rfl⟩ | ⟨screen, verbosity, rfl⟩
  · exact trace_steady own
  · exact console_steady screen verbosity

end Reporter

end InlineCheck
