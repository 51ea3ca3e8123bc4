import InlineCheck.Proofs.Console.Verbatim

/-! # Stretches of an escaped text

An escaped text has no tag that counts, and still a console need not print it as it was: what would
be a tag cuts it into stretches, and each stretch is read by itself.

* `stretches` — the stretches of a text.
* `Literal` — the texts that survive being escaped and printed.
* `shown_escape_of_ended`, `shown_escape_of_endsOnce` — what is printed of an escaped text: its
  stretches one by one, and one more backslash when it ends in a single one.
* `literal_of_signs` — a text that keeps its signs is literal.
-/

namespace InlineCheck.Console

/-! ## Stretches -/

/-- The stretches of marks; `run` holds the characters of the one being read, in reverse. A tag is a
stretch of its own, and so are the backslashes before it. -/
def stretchesFrom (run : List Char) : List Mark → List (List Char)
  | [] => [run.reverse]
  | .char c :: ms => stretchesFrom (c :: run) ms
  | .tag slashes body :: ms =>
    run.reverse :: List.replicate slashes '\\' :: bracketed body :: stretchesFrom [] ms

/-- The stretches that an escaped text is printed in. -/
def stretches (cs : List Char) : List (List Char) :=
  stretchesFrom [] (scan cs)

theorem flatten_stretchesFrom (run : List Char) (ms : List Mark) :
    (stretchesFrom run ms).flatten = run.reverse ++ ms.flatMap Mark.source := by
  induction ms generalizing run with
  | nil => simp [stretchesFrom]
  | cons m ms ih =>
    cases m with
    | char c => simp [stretchesFrom, ih, Mark.source]
    | tag slashes body => simp [stretchesFrom, ih, Mark.source]

theorem flatten_stretches (cs : List Char) : (stretches cs).flatten = cs := by
  rw [stretches, flatten_stretchesFrom, source_scan]
  rfl

/-- What was read before a run belongs to the first stretch. -/
theorem stretchesFrom_append (run before : List Char) (ms : List Mark) : ∃ st sts,
    stretchesFrom run ms = st :: sts
      ∧ stretchesFrom (run ++ before) ms = (before.reverse ++ st) :: sts := by
  induction ms generalizing run with
  | nil => exact ⟨_, _, rfl, by simp [stretchesFrom]⟩
  | cons m ms ih =>
    cases m with
    | char c => exact ih (c :: run)
    | tag slashes body => exact ⟨_, _, rfl, by simp [stretchesFrom]⟩

/-- Characters at the end belong to the last stretch. -/
theorem stretchesFrom_chars (run : List Char) (ms : List Mark) : ∃ sts st,
    ∀ cs : List Char, stretchesFrom run (ms ++ cs.map .char) = sts ++ [st ++ cs] := by
  induction ms generalizing run with
  | nil =>
    refine ⟨[], run.reverse, fun cs => ?_⟩
    induction cs generalizing run with
    | nil => simp [stretchesFrom]
    | cons c cs ih => simpa [stretchesFrom] using ih (c :: run)
  | cons m ms ih =>
    cases m with
    | char c => exact ih (c :: run)
    | tag slashes body =>
      obtain ⟨sts, st, later⟩ := ih []
      exact ⟨run.reverse :: List.replicate slashes '\\' :: bracketed body :: sts, st,
        fun cs => by simp [stretchesFrom, later]⟩

/-- Escaped marks are printed stretch by stretch. -/
theorem shown_guarded (position : Nat) (run : List Char) (ms : List Mark) :
    (piecesFrom position run (ms.map Mark.guarded)).flatMap Piece.shown
      = (stretchesFrom run ms).flatMap printed := by
  induction ms generalizing position run with
  | nil => simp [piecesFrom, stretchesFrom]
  | cons m ms ih =>
    cases m with
    | char c => exact ih _ _
    | tag slashes body =>
      obtain ⟨next, shown⟩ := shown_tag position run (2 * slashes + 1) body (ms.map Mark.guarded)
      have half : (2 * slashes + 1) / 2 = slashes := by omega
      have odd : (2 * slashes + 1) % 2 = 1 := by omega
      rw [List.map_cons, Mark.guarded, shown, ih, shownTag, half, if_pos odd]
      simp [stretchesFrom]

/-! ## Single backslashes at the end -/

/-- A text ends in a backslash, and not in two. -/
def EndsOnce (cs : List Char) : Prop :=
  ∃ ds, cs = ds ++ ['\\'] ∧ ds.getLast? ≠ some '\\'

theorem guardEnd_of_endsOnce {cs : List Char} (once : EndsOnce cs) :
    guardEnd cs = cs ++ ['\\'] := by
  obtain ⟨ds, rfl, single⟩ := once
  rcases List.eq_nil_or_concat ds with rfl | ⟨front, c, rfl⟩
  · rfl
  · have other : c ≠ '\\' := by simpa using single
    simp [guardEnd, other]

theorem guardEnd_of_not_endsOnce {cs : List Char} (ended : ¬ EndsOnce cs) : guardEnd cs = cs := by
  rcases List.eq_nil_or_concat cs with rfl | ⟨ds, c, rfl⟩
  · rfl
  by_cases slash : c = '\\'
  · subst slash
    by_cases double : ds.getLast? = some '\\'
    · obtain ⟨front, rfl⟩ := List.getLast?_eq_some_iff.mp double
      simp [guardEnd]
    · exact absurd ⟨ds, by simp, double⟩ ended
  · unfold guardEnd
    split
    next only => simp [slash] at only
    next two => simp [slash] at two
    next => rfl

theorem guardEnd_eq_self_iff (cs : List Char) : guardEnd cs = cs ↔ ¬ EndsOnce cs := by
  refine ⟨fun same once => ?_, guardEnd_of_not_endsOnce⟩
  rw [guardEnd_of_endsOnce once] at same
  simpa using congrArg List.length same

theorem getLast?_bracketed (body : List Char) : (bracketed body).getLast? = some ']' := by
  have split : bracketed body = ('[' :: body) ++ [']'] := rfl
  rw [split, List.getLast?_append]
  rfl

/-- Escaping does not change how marks end. -/
theorem getLast?_escaped (ms : List Mark) :
    (ms.flatMap Mark.escaped).getLast? = (ms.flatMap Mark.source).getLast? := by
  rcases List.eq_nil_or_concat ms with rfl | ⟨front, m, rfl⟩
  · rfl
  · cases m with
    | char c => simp [Mark.escaped, Mark.source]
    | tag slashes body =>
      simp [Mark.escaped, Mark.source, List.getLast?_append, getLast?_bracketed]

/-- Marks that end in a backslash end in the mark of one. -/
theorem exists_of_getLast?_escaped {ms : List Mark}
    (slash : (ms.flatMap Mark.escaped).getLast? = some '\\') :
    ∃ front, ms = front ++ [.char '\\'] := by
  rcases List.eq_nil_or_concat ms with rfl | ⟨front, m, rfl⟩
  · cases slash
  · cases m with
    | char c =>
      have same : c = '\\' := by simpa [Mark.escaped] using slash
      exact ⟨front, by simp [same]⟩
    | tag slashes body =>
      simp [Mark.escaped, List.getLast?_append, getLast?_bracketed] at slash

theorem endsOnce_escaped_iff (ms : List Mark) :
    EndsOnce (ms.flatMap Mark.escaped) ↔ EndsOnce (ms.flatMap Mark.source) := by
  have last := getLast?_escaped ms
  -- the last mark is that of the backslash, and the marks before it end alike in both
  constructor
  · rintro ⟨ds, split, single⟩
    obtain ⟨front, rfl⟩ := @exists_of_getLast?_escaped ms (by rw [split]; simp)
    have own : front.flatMap Mark.escaped = ds := by simpa [Mark.escaped] using split
    refine ⟨front.flatMap Mark.source, by simp [Mark.source], ?_⟩
    rwa [← getLast?_escaped, own]
  · rintro ⟨ds, split, single⟩
    obtain ⟨front, rfl⟩ := @exists_of_getLast?_escaped ms (by rw [last, split]; simp)
    have own : front.flatMap Mark.source = ds := by simpa [Mark.source] using split
    refine ⟨front.flatMap Mark.escaped, by simp [Mark.escaped], ?_⟩
    rwa [getLast?_escaped, own]

theorem scan_escape_of_ended {cs : List Char} (ended : ¬ EndsOnce cs) :
    scan (escape cs) = (scan cs).map Mark.guarded := by
  have escaped : ¬ EndsOnce ((scan cs).flatMap Mark.escaped) := by
    rwa [endsOnce_escaped_iff, source_scan]
  rw [escape, guardEnd_of_not_endsOnce escaped]
  simpa [scan] using @scanFrom_escaped [] rfl 0 0 cs

/-- A single backslash at the end is two marks after escaping. -/
theorem scan_escape_of_endsOnce {cs : List Char} (once : EndsOnce cs) : ∃ front,
    scan (escape cs) = (front ++ ['\\', '\\'].map .char).map Mark.guarded := by
  have escaped : EndsOnce ((scan cs).flatMap Mark.escaped) := by
    rwa [endsOnce_escaped_iff, source_scan]
  -- the backslash that is added is a mark of its own after that of the single one
  have scanned := @scanFrom_escaped ['\\'] rfl 0 0 cs
  rw [← scan, ← scan, ← guardEnd_of_endsOnce escaped, ← escape] at scanned
  obtain ⟨ds, split, _⟩ := escaped
  obtain ⟨front, marks⟩ := exists_of_getLast?_escaped (by rw [split]; simp)
  refine ⟨front, ?_⟩
  rw [scanned, marks]
  simp [Mark.guarded]

/-! ## Texts that end in backslashes -/

theorem unescapeBrackets_append (cs : List Char) {ds : List Char} (apart : ds.head? ≠ some '[') :
    unescapeBrackets (cs ++ ds) = unescapeBrackets cs ++ unescapeBrackets ds := by
  fun_induction unescapeBrackets cs with
  | case1 => rfl
  | case2 cs ih => simp [unescapeBrackets, ih]
  | case3 c cs other ih =>
    have kept : unescapeBrackets (c :: (cs ++ ds)) = c :: unescapeBrackets (cs ++ ds) := by
      refine unescapeBrackets.eq_3 _ _ fun rest slash opens => ?_
      cases cs with
      | nil =>
        rw [List.nil_append] at opens
        exact apart (by simp [opens])
      | cons d cs =>
        cases opens
        exact other cs slash rfl
    rw [List.cons_append, kept, ih, List.cons_append]

theorem untilColon_append (cs : List Char) {ds : List Char} (free : ':' ∉ ds) :
    untilColon (cs ++ ds) = untilColon cs := by
  induction cs with
  | nil =>
    induction ds with
    | nil => rfl
    | cons d ds ih =>
      obtain ⟨other, later⟩ : ':' ≠ d ∧ ':' ∉ ds := by simpa using free
      have none : untilColon ds = none := ih later
      simp [untilColon, Ne.symm other, none]
  | cons c cs ih => simp [untilColon, ih]

theorem replaceEmojiFrom_append {skip : Nat} {cs ds : List Char} (within : skip ≤ cs.length)
    (free : ':' ∉ ds) : replaceEmojiFrom skip (cs ++ ds) = replaceEmojiFrom skip cs ++ ds := by
  induction cs generalizing skip with
  | nil =>
    obtain rfl : skip = 0 := Nat.le_zero.mp within
    induction ds with
    | nil => rfl
    | cons d ds ih =>
      obtain ⟨other, later⟩ : ':' ≠ d ∧ ':' ∉ ds := by simpa using free
      have kept : replaceEmojiFrom 0 ds = ds := ih later
      simp [replaceEmojiFrom, Ne.symm other, kept]
  | cons c cs ih =>
    cases skip with
    | succ skip => exact ih (Nat.le_of_succ_le_succ within)
    | zero =>
      have plain := ih (Nat.zero_le _)
      by_cases colon : c = ':'
      · cases found : untilColon cs with
        | none => simp [replaceEmojiFrom, colon, untilColon_append cs free, found, plain]
        | some code =>
          -- the code ends before `ds`, so that it is skipped in the same way
          have enclosed : code.length + 1 ≤ cs.length := by
            obtain ⟨_, rest, rfl⟩ := untilColon_eq_some found
            simp
          simp [replaceEmojiFrom, colon, untilColon_append cs free, found, ih enclosed]
      · simp [replaceEmojiFrom, colon, plain]

theorem printed_slashes (cs : List Char) :
    printed (cs ++ ['\\', '\\']) = printed cs ++ ['\\', '\\'] := by
  have kept : unescapeBrackets ['\\', '\\'] = ['\\', '\\'] := rfl
  rw [printed, unescapeBrackets_append cs (by simp), kept, replaceEmoji,
    replaceEmojiFrom_append (Nat.zero_le _) (by simp), List.filter_append]
  rfl

/-! ## What is printed -/

/-- A space before marks stays a space: it neither escapes a bracket nor belongs to an emoji
code. -/
theorem printed_spaced (ms : List Mark) :
    (stretchesFrom [' '] ms).flatMap printed = ' ' :: (stretchesFrom [] ms).flatMap printed := by
  have spaced (st : List Char) : printed (' ' :: st) = ' ' :: printed st := rfl
  obtain ⟨st, sts, own, after⟩ := stretchesFrom_append [] [' '] ms
  rw [List.nil_append] at after
  rw [own, after]
  simp [spaced]

section

variable {cs : List Char} (position : Nat)

theorem shown_escape_of_ended (ended : ¬ EndsOnce cs) :
    (piecesFrom position [' '] (scan (escape cs))).flatMap Piece.shown
      = ' ' :: (stretches cs).flatMap printed := by
  rw [scan_escape_of_ended ended, shown_guarded, printed_spaced, stretches]

/-- A text that ends in a single backslash is printed with two. -/
theorem shown_escape_of_endsOnce (once : EndsOnce cs) : ∃ before,
    (piecesFrom position [' '] (scan (escape cs))).flatMap Piece.shown
      = ' ' :: (before ++ ['\\', '\\']) := by
  obtain ⟨front, scanned⟩ := scan_escape_of_endsOnce once
  obtain ⟨sts, st, ends⟩ := stretchesFrom_chars [] front
  refine ⟨sts.flatMap printed ++ printed st, ?_⟩
  rw [scanned, shown_guarded, printed_spaced, ends, List.flatMap_append, List.flatMap_singleton,
    printed_slashes, List.append_assoc]

end

/-! ## Literal texts -/

/-- A text that survives being escaped and printed: no stretch has a backslash before a bracket that
opens no tag, or an emoji code, and the text does not end in a single backslash. -/
structure Literal (cs : List Char) : Prop where
  unescaped : ∀ st ∈ stretches cs, ¬ ['\\', '['] <:+: st
  uncoded : ∀ st ∈ stretches cs, replaceEmoji st = st
  ended : ¬ EndsOnce cs

def isLiteralText (cs : List Char) : Bool :=
  (stretches cs).all (fun st => unescapeBrackets st == st)
    && (stretches cs).all (fun st => replaceEmoji st == st) && guardEnd cs == cs

theorem isLiteralText_iff (cs : List Char) : isLiteralText cs = true ↔ Literal cs := by
  simp only [isLiteralText, Bool.and_eq_true, List.all_eq_true, beq_iff_eq,
    unescapeBrackets_eq_self_iff, guardEnd_eq_self_iff]
  exact ⟨fun ⟨⟨unescaped, uncoded⟩, ended⟩ => ⟨unescaped, uncoded, ended⟩,
    fun literal => ⟨⟨literal.unescaped, literal.uncoded⟩, literal.ended⟩⟩

instance (cs : List Char) : Decidable (Literal cs) :=
  decidable_of_decidable_of_iff (isLiteralText_iff cs)

theorem printed_stretches {cs : List Char} (literal : Literal cs)
    (kept : ∀ c ∈ cs, isDropped c = false) : (stretches cs).flatMap printed = cs := by
  have own : ∀ st ∈ stretches cs, printed st = st := by
    intro st member
    refine printed_eq_self (literal.unescaped st member) (literal.uncoded st member) ?_
    intro c inside
    exact kept c (flatten_stretches cs ▸ List.mem_flatten_of_mem member inside)
  rw [List.flatMap_def, List.map_congr_left own, List.map_id', flatten_stretches]

theorem signs_flatMap_printed_le (sts : List (List Char)) :
    signs (sts.flatMap printed) ≤ signs sts.flatten := by
  induction sts with
  | nil => exact Nat.le_refl _
  | cons st sts ih =>
    have first := signs_printed_le st
    simp only [List.flatMap_cons, List.flatten_cons, signs_append]
    omega

theorem unread_of_all_signs {sts : List (List Char)}
    (blanks : ∀ st ∈ sts, ∀ c ∈ st, Text.isBlank c = true → isDropped c = false)
    (signed : signs sts.flatten ≤ signs (sts.flatMap printed)) :
    ∀ st ∈ sts, ¬ ['\\', '['] <:+: st ∧ replaceEmoji st = st := by
  induction sts with
  | nil => exact nofun
  | cons st sts ih =>
    -- no stretch gains a sign, so that none may lose one
    have first := signs_printed_le st
    have rest := signs_flatMap_printed_le sts
    simp only [List.flatMap_cons, List.flatten_cons, signs_append] at signed
    obtain ⟨own, later⟩ := List.forall_mem_cons.mp blanks
    obtain ⟨unescaped, uncoded, _⟩ := unread_of_signs own (by omega)
    exact List.forall_mem_cons.mpr ⟨⟨unescaped, uncoded⟩, ih later (by omega)⟩

/-- A text that keeps its signs when it is escaped and printed is literal, unless it gains one at
its end. -/
theorem literal_of_signs {cs : List Char} (ended : ¬ EndsOnce cs)
    (blanks : ∀ c ∈ cs, Text.isBlank c = true → isDropped c = false)
    (signed : signs cs ≤ signs ((stretches cs).flatMap printed)) : Literal cs := by
  have inside : ∀ st ∈ stretches cs, ∀ c ∈ st, Text.isBlank c = true → isDropped c = false :=
    fun st member c found =>
      blanks c (flatten_stretches cs ▸ List.mem_flatten_of_mem member found)
  have unread := unread_of_all_signs inside (by rwa [flatten_stretches])
  exact ⟨fun st member => (unread st member).1, fun st member => (unread st member).2, ended⟩

end InlineCheck.Console
