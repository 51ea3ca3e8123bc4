import InlineCheck.Proofs.Console.Escaped

/-! # Text between tags

A text that is put between an opening and a closing tag as it is, not escaped, is markup itself.

* `Unmarked` — a console reads nothing into the text: no tag, no escape, no emoji code, and no
  character that is never printed.
* `render_unmarked` — between tags, such a text is rendered character by character.
* `unmarked_of_render` — no other text is: what is read into a text takes some of its signs away,
  and nothing brings them back.
-/

namespace InlineCheck.Console

/-! ## Ink -/

/-- The characters of a text that are not blank. -/
def ink (cs : List Char) : List Char :=
  cs.filter (!Text.isBlank ·)

@[simp] theorem ink_nil : ink [] = [] := rfl

@[simp] theorem ink_append (cs ds : List Char) : ink (cs ++ ds) = ink cs ++ ink ds :=
  List.filter_append ..

theorem ink_cons (c : Char) (cs : List Char) : ink (c :: cs) = ink [c] ++ ink cs :=
  ink_append [c] cs

theorem ink_eq_self {cs : List Char} (dark : ∀ c ∈ cs, Text.isBlank c = false) : ink cs = cs :=
  List.filter_eq_self.mpr fun c member => by simp [dark c member]

@[simp] theorem ink_slashes (n : Nat) : ink (List.replicate n '\\') = List.replicate n '\\' :=
  ink_eq_self fun c member => by rw [List.eq_of_mem_replicate member]; rfl

/-! ## Signs -/

/-- A character by which a console reads something into a text: of an escape, of a tag or of a code,
or one that has ink and is never printed. -/
def isSign (c : Char) : Bool :=
  c == '\\' || c == '[' || c == ':' || (isDropped c && !Text.isBlank c)

def signs (cs : List Char) : Nat :=
  cs.countP isSign

@[simp] theorem signs_nil : signs [] = 0 := rfl

@[simp] theorem signs_append (cs ds : List Char) : signs (cs ++ ds) = signs cs + signs ds :=
  List.countP_append

theorem signs_cons (c : Char) (cs : List Char) : signs (c :: cs) = signs [c] + signs cs :=
  signs_append [c] cs

@[simp] theorem signs_slashes (n : Nat) : signs (List.replicate n '\\') = n := by
  rw [signs, List.countP_replicate]
  rfl

theorem signs_mono {cs ds : List Char} (part : cs.Sublist ds) : signs cs ≤ signs ds :=
  part.countP_le

theorem not_isBlank_of_isSign {c : Char} (sign : isSign c = true) : Text.isBlank c = false := by
  simp only [isSign, Bool.or_eq_true, beq_iff_eq, Bool.and_eq_true, Bool.not_eq_true'] at sign
  rcases sign with ((rfl | rfl) | rfl) | ⟨-, dark⟩
  · rfl
  · rfl
  · rfl
  · exact dark

/-- All signs have ink. -/
theorem signs_ink (cs : List Char) : signs (ink cs) = signs cs := by
  rw [signs, ink, List.countP_filter, signs]
  refine List.countP_congr fun c _ => ?_
  constructor
  · intro both
    simp_all
  · intro sign
    simp [sign, not_isBlank_of_isSign sign]

/-- What becomes of a text: it is left as it is, or it loses signs. -/
def Fades (cs ds : List Char) : Prop :=
  ds = cs ∨ signs ds < signs cs

namespace Fades

theorem refl (cs : List Char) : Fades cs cs :=
  .inl rfl

theorem signs_le {cs ds : List Char} (fades : Fades cs ds) : signs ds ≤ signs cs := by
  rcases fades with rfl | fewer
  · exact Nat.le_refl _
  · exact Nat.le_of_lt fewer

theorem eq_of_signs_le {cs ds : List Char} (fades : Fades cs ds)
    (kept : signs cs ≤ signs ds) : ds = cs := by
  rcases fades with same | fewer
  · exact same
  · omega

theorem append {cs ds cs' ds' : List Char} (first : Fades cs ds) (second : Fades cs' ds') :
    Fades (cs ++ cs') (ds ++ ds') := by
  have bound := first.signs_le
  have bound' := second.signs_le
  rcases first with rfl | fewer
  · rcases second with rfl | fewer
    · exact .refl _
    · exact .inr (by simp only [signs_append]; omega)
  · exact .inr (by simp only [signs_append]; omega)

end Fades

/-! ## What is printed of a stretch -/

theorem fades_unescapeBrackets (cs : List Char) : Fades cs (unescapeBrackets cs) := by
  fun_induction unescapeBrackets cs with
  | case1 => exact .refl []
  | case2 cs ih =>
    -- the backslash is a sign, and is dropped
    have bracket : Fades ['\\', '['] ['['] := .inr (by decide)
    exact bracket.append ih
  | case3 c cs _ ih => exact .append (.refl [c]) ih

theorem unescapeBrackets_eq_self_iff (cs : List Char) :
    unescapeBrackets cs = cs ↔ ¬ ['\\', '['] <:+: cs := by
  fun_induction unescapeBrackets cs with
  | case1 => simp
  | case2 cs _ =>
    have escape : ['\\', '['] <:+: '\\' :: '[' :: cs := ⟨[], cs, rfl⟩
    simp [escape]
  | case3 c cs other ih =>
    have apart : ¬ ['\\', '['] <+: c :: cs := by
      rintro ⟨rest, begins⟩
      simp only [List.cons_append, List.nil_append, List.cons.injEq] at begins
      exact other rest begins.1.symm begins.2.symm
    simp [List.infix_cons_iff, apart, ih]

theorem untilColon_eq_some {cs code : List Char} (found : untilColon cs = some code) :
    (∀ c ∈ code, Text.isBlank c = false) ∧ ∃ rest, cs = code ++ ':' :: rest := by
  induction cs generalizing code with
  | nil => cases found
  | cons c cs ih =>
    unfold untilColon at found
    split at found
    next colon =>
      cases found
      exact ⟨nofun, cs, by rw [colon]; rfl⟩
    next =>
      split at found
      · cases found
      next dark =>
        obtain ⟨more, later, rfl⟩ := Option.map_eq_some_iff.mp found
        obtain ⟨darker, rest, rfl⟩ := ih later
        exact ⟨List.forall_mem_cons.mpr ⟨by simpa using dark, darker⟩, rest, rfl⟩

theorem mem_flatten_of_find? {α : Type} {rows : List (List α)} {n : Nat} {p : α → Bool} {a : α}
    (found : (rows.getD n []).find? p = some a) : a ∈ rows.flatten := by
  have inside := List.mem_of_find?_eq_some found
  rw [List.getD_eq_getElem?_getD] at inside
  cases row : rows[n]? with
  | none => simp [row] at inside
  | some own =>
    exact List.mem_flatten.mpr ⟨own, List.mem_of_getElem? row, by simpa [row] using inside⟩

theorem emoji?_eq_some {code e : List Char} (known : emoji? code = some e) :
    ∃ entry ∈ codeTable.flatten, e = entry.2.map Char.ofNat ++ (splitVariant code).2 := by
  have looked : emoji? code = ((codeTable.getD (Text.lower (splitVariant code).1).length []).find?
      (·.1 == String.ofList (Text.lower (splitVariant code).1))).map fun entry =>
        entry.2.map Char.ofNat ++ (splitVariant code).2 := rfl
  rw [looked] at known
  obtain ⟨entry, found, rfl⟩ := Option.map_eq_some_iff.mp known
  exact ⟨entry, mem_flatten_of_find? found, rfl⟩

theorem codeTable_signless :
    codeTable.flatten.all (fun entry => entry.2.all fun n => !isSign (Char.ofNat n)) = true := by
  decide +kernel

/-- What stands for an emoji is no sign itself. -/
theorem isSign_emoji {code e : List Char} (known : emoji? code = some e) :
    ∀ c ∈ e, isSign c = false := by
  have selected : ∀ c ∈ (splitVariant code).2, isSign c = false := by
    unfold splitVariant
    split
    · simp [isSign, isDropped]
    · split <;> simp [isSign, isDropped]
  obtain ⟨entry, listed, rfl⟩ := emoji?_eq_some known
  intro c member
  rcases List.mem_append.mp member with point | selector
  · obtain ⟨n, inside, rfl⟩ := List.mem_map.mp point
    have signless := List.all_eq_true.mp codeTable_signless entry listed
    simpa using List.all_eq_true.mp signless n inside
  · exact selected c selector

theorem fades_emoji {code e : List Char} (known : emoji? code = some e) :
    Fades (':' :: (code ++ [':'])) e := by
  have none : signs e = 0 := List.countP_eq_zero.mpr fun c member => by
    simp [isSign_emoji known c member]
  have colon : signs [':'] = 1 := rfl
  refine .inr ?_
  rw [none, signs_cons, colon]
  omega

theorem fades_replaceEmojiFrom (skip : Nat) (cs : List Char) :
    Fades (cs.drop skip) (replaceEmojiFrom skip cs) := by
  induction cs generalizing skip with
  | nil => exact .inl (by simp [replaceEmojiFrom])
  | cons c cs ih =>
    cases skip with
    | succ skip => exact ih skip
    | zero =>
      have kept : Fades (c :: cs) (c :: replaceEmojiFrom 0 cs) := .append (.refl [c]) (ih 0)
      simp only [replaceEmojiFrom, List.drop_zero]
      split
      next colon =>
        subst colon
        split
        next code found =>
          obtain ⟨-, rest, rfl⟩ := untilColon_eq_some found
          have behind : (code ++ ':' :: rest).drop (code.length + 1) = rest := by
            simp [← List.drop_drop]
          have whole : ':' :: (code ++ ':' :: rest) = ':' :: (code ++ [':']) ++ rest := by simp
          have later := ih (code.length + 1)
          rw [behind] at later
          rw [whole]
          refine .append ?_ later
          split
          next e known => exact fades_emoji known
          next => exact .refl _
        next => exact kept
      · exact kept

@[simp] theorem printed_nil : printed [] = [] := rfl

theorem signs_printed_le (cs : List Char) : signs (printed cs) ≤ signs cs :=
  calc signs (printed cs)
    _ ≤ signs (replaceEmoji (unescapeBrackets cs)) := signs_mono List.filter_sublist
    _ ≤ signs (unescapeBrackets cs) := (fades_replaceEmojiFrom 0 _).signs_le
    _ ≤ signs cs := (fades_unescapeBrackets cs).signs_le

/-! ## Unmarked text -/

/-- A text into which a console reads nothing. -/
structure Unmarked (cs : List Char) : Prop where
  untagged : ∀ body, IsTag body → ¬ bracketed body <:+: cs
  unescaped : ¬ ['\\', '['] <:+: cs
  /-- A backslash at the end would escape the tag that follows. -/
  unended : cs.getLast? ≠ some '\\'
  uncoded : replaceEmoji cs = cs
  kept : ∀ c ∈ cs, isDropped c = false

theorem printed_eq_self {cs : List Char} (unescaped : ¬ ['\\', '['] <:+: cs)
    (uncoded : replaceEmoji cs = cs) (kept : ∀ c ∈ cs, isDropped c = false) : printed cs = cs := by
  rw [printed, (unescapeBrackets_eq_self_iff cs).mpr unescaped, uncoded]
  exact List.filter_eq_self.mpr fun c member => by simp [kept c member]

/-- A stretch that keeps all its signs is printed as it is. -/
theorem unread_of_signs {cs : List Char}
    (blanks : ∀ c ∈ cs, Text.isBlank c = true → isDropped c = false)
    (signed : signs cs ≤ signs (printed cs)) :
    ¬ ['\\', '['] <:+: cs ∧ replaceEmoji cs = cs ∧ ∀ c ∈ cs, isDropped c = false := by
  have dropped : signs (printed cs) ≤ signs (replaceEmoji (unescapeBrackets cs)) :=
    signs_mono List.filter_sublist
  have replaced := (fades_replaceEmojiFrom 0 (unescapeBrackets cs)).signs_le
  have stays : unescapeBrackets cs = cs :=
    (fades_unescapeBrackets cs).eq_of_signs_le
      (Nat.le_trans signed (Nat.le_trans dropped replaced))
  rw [stays] at dropped
  have uncoded : replaceEmoji cs = cs :=
    (fades_replaceEmojiFrom 0 cs).eq_of_signs_le (Nat.le_trans signed dropped)
  refine ⟨(unescapeBrackets_eq_self_iff cs).mp stays, uncoded, fun c member => ?_⟩
  cases blank : Text.isBlank c with
  | true => exact blanks c member blank
  | false =>
    -- what is dropped and not blank would be a sign that is lost
    have split : signs cs = (cs.filter isDropped).countP isSign + signs (printed cs) := by
      rw [printed, stays, uncoded, signs, signs]
      exact List.countP_eq_countP_filter_add cs isSign isDropped
    have none : (cs.filter isDropped).countP isSign = 0 := by omega
    cases gone : isDropped c with
    | false => rfl
    | true =>
      have sign : isSign c = true := by simp [isSign, gone, blank]
      exact absurd sign (List.countP_eq_zero.mp none c (List.mem_filter.mpr ⟨member, gone⟩))

/-! ## Scanning -/

theorem untilBracket_unclosed (cs : List Char) {rest : List Char}
    (unclosed : untilBracket rest = none) : untilBracket (cs ++ rest) = untilBracket cs := by
  induction cs with
  | nil => exact unclosed
  | cons c cs ih => simp [untilBracket, ih]

theorem tagBody?_unclosed (cs : List Char) {rest : List Char} (unclosed : untilBracket rest = none)
    (untagged : tagBody? rest = none) : tagBody? (cs ++ rest) = tagBody? cs := by
  cases cs with
  | nil => exact untagged
  | cons c cs => simp [tagBody?, untilBracket_unclosed cs unclosed]

theorem tagBody?_eq_some {cs body : List Char} (found : tagBody? cs = some body) :
    ∃ rest, cs = body ++ ']' :: rest := by
  have split {ds inner : List Char} (found : untilBracket ds = some inner) :
      ∃ rest, ds = inner ++ ']' :: rest := by
    induction ds generalizing inner with
    | nil => cases found
    | cons d ds ih =>
      unfold untilBracket at found
      split at found
      next close =>
        cases found
        exact ⟨ds, by rw [close]; rfl⟩
      next =>
        split at found
        · cases found
        next =>
          obtain ⟨more, later, rfl⟩ := Option.map_eq_some_iff.mp found
          obtain ⟨rest, rfl⟩ := ih later
          exact ⟨rest, rfl⟩
  cases cs with
  | nil => cases found
  | cons c cs =>
    simp only [tagBody?] at found
    split at found
    next =>
      obtain ⟨more, later, rfl⟩ := Option.map_eq_some_iff.mp found
      obtain ⟨rest, rfl⟩ := split later
      exact ⟨rest, rfl⟩
    next => cases found

@[simp] theorem source_slashMarks (n : Nat) :
    (slashMarks n).flatMap Mark.source = List.replicate n '\\' := by
  induction n with
  | zero => rfl
  | succ n ih => simpa [slashMarks, List.replicate_succ, Mark.source] using ih

/-- The marks of a text hold all of it. -/
theorem source_scanFrom (skip slashes : Nat) (cs : List Char) (apart : skip = 0 ∨ slashes = 0) :
    (scanFrom skip slashes cs).flatMap Mark.source
      = List.replicate slashes '\\' ++ cs.drop skip := by
  induction cs generalizing skip slashes with
  | nil => simp [scanFrom]
  | cons c cs ih =>
    cases skip with
    | succ skip =>
      obtain rfl : slashes = 0 := by simpa using apart
      exact ih skip 0 (.inr rfl)
    | zero =>
      rcases scanFrom_cons_cases slashes c cs with
        ⟨rfl, scanned⟩ | ⟨body, rfl, found, scanned⟩ | ⟨_, _, scanned⟩
      · rw [scanned, ih 0 (slashes + 1) (.inl rfl), List.replicate_succ']
        simp
      · obtain ⟨rest, rfl⟩ := tagBody?_eq_some found
        rw [scanned, List.flatMap_cons, ih (body.length + 1) 0 (.inr rfl)]
        simp [Mark.source, bracketed, ← List.drop_drop]
      · rw [scanned, List.flatMap_append, List.flatMap_cons, ih 0 0 (.inl rfl)]
        simp [Mark.source]

theorem source_scan (cs : List Char) : (scan cs).flatMap Mark.source = cs :=
  source_scanFrom 0 0 cs (.inl rfl)

/-- A text is scanned without regard to what follows, which gets only the backslashes that are
pending. -/
theorem scanFrom_append {rest : List Char} (unclosed : untilBracket rest = none)
    (untagged : tagBody? rest = none) {skip : Nat} (slashes : Nat) {cs : List Char}
    (within : skip ≤ cs.length) : ∃ ms pending,
      scanFrom skip slashes cs = ms ++ slashMarks pending
        ∧ scanFrom skip slashes (cs ++ rest) = ms ++ scanFrom 0 pending rest := by
  induction cs generalizing skip slashes with
  | nil =>
    obtain rfl : skip = 0 := Nat.le_zero.mp within
    exact ⟨[], slashes, rfl, rfl⟩
  | cons c cs ih =>
    cases skip with
    | succ skip => exact ih 0 (Nat.le_of_succ_le_succ within)
    | zero =>
      have same := tagBody?_unclosed cs unclosed untagged
      rcases scanFrom_cons_cases slashes c cs with
        ⟨rfl, scanned⟩ | ⟨body, rfl, found, scanned⟩ | ⟨notSlash, untagged, scanned⟩
      · obtain ⟨ms, pending, own, all⟩ := ih (slashes + 1) (Nat.zero_le _)
        exact ⟨ms, pending, by rw [scanned, own], by simpa [scanFrom] using all⟩
      · -- a tag that is found ends before `rest`, which closes none
        have enclosed : body.length + 1 ≤ cs.length := by
          obtain ⟨behind, rfl⟩ := tagBody?_eq_some found
          simp
        obtain ⟨ms, pending, own, all⟩ := ih 0 enclosed
        refine ⟨.tag slashes body :: ms, pending, by rw [scanned, own]; rfl, ?_⟩
        simp [scanFrom, same, found, all]
      · obtain ⟨ms, pending, own, all⟩ := ih 0 (Nat.zero_le _)
        refine ⟨slashMarks slashes ++ .char c :: ms, pending, by rw [scanned, own]; simp, ?_⟩
        by_cases opens : c = '['
        · simp [scanFrom, opens, same, untagged opens, all]
        · simp [scanFrom, opens, notSlash, all]

theorem scan_append (cs : List Char) {rest : List Char} (unclosed : untilBracket rest = none)
    (untagged : tagBody? rest = none) : ∃ ms pending,
      cs = ms.flatMap Mark.source ++ List.replicate pending '\\'
        ∧ scan cs = ms ++ slashMarks pending
        ∧ scan (cs ++ rest) = ms ++ scanFrom 0 pending rest := by
  obtain ⟨ms, pending, own, all⟩ := scanFrom_append unclosed untagged 0 (Nat.zero_le cs.length)
  have whole := source_scan cs
  rw [scan, own, List.flatMap_append, source_slashMarks] at whole
  exact ⟨ms, pending, whole.symm, own, all⟩

theorem scanFrom_bracketed {body : List Char} (tag : IsTag body) (slashes : Nat) :
    scanFrom 0 slashes (bracketed body) = [.tag slashes body] := by
  simpa [scanFrom, slashMarks] using scanFrom_tag tag []

theorem scan_closed {cs body : List Char} (closing : IsTag body)
    (unended : cs.getLast? ≠ some '\\') :
    scan (cs ++ bracketed body) = scan cs ++ [.tag 0 body] := by
  obtain ⟨ms, pending, source, own, all⟩ :=
    scan_append cs (rfl : untilBracket (bracketed body) = none) rfl
  have none : pending = 0 := by
    cases pending with
    | zero => rfl
    | succ n =>
      refine absurd ?_ unended
      rw [source, List.replicate_succ', ← List.append_assoc]
      simp
  subst none
  rw [all, own, scanFrom_bracketed closing]
  simp [slashMarks]

/-- A backslash at the end belongs to the tag that follows. -/
theorem scan_escaping (cs : List Char) {body : List Char} (closing : IsTag body) : ∃ ms pending,
    cs = ms.flatMap Mark.source ++ List.replicate pending '\\'
      ∧ scan (cs ++ '\\' :: bracketed body) = ms ++ [.tag (pending + 1) body] := by
  obtain ⟨ms, pending, source, _, all⟩ :=
    scan_append cs (rfl : untilBracket ('\\' :: bracketed body) = none) rfl
  refine ⟨ms, pending, source, ?_⟩
  rw [all, ← scanFrom_bracketed closing (pending + 1)]
  rfl

theorem scan_untagged {cs : List Char} (untagged : ∀ body, IsTag body → ¬ bracketed body <:+: cs) :
    scan cs = cs.map .char := by
  have chars (slashes : Nat) : scanFrom 0 slashes cs = slashMarks slashes ++ cs.map .char := by
    induction cs generalizing slashes with
    | nil => simp [scanFrom]
    | cons c cs ih =>
      have later := ih fun body tag inside => untagged body tag (List.infix_cons inside)
      rcases scanFrom_cons_cases slashes c cs with
        ⟨rfl, scanned⟩ | ⟨body, rfl, found, _⟩ | ⟨_, _, scanned⟩
      · rw [scanned, later, slashMarks, List.replicate_succ']
        simp [slashMarks]
      · obtain ⟨rest, rfl⟩ := tagBody?_eq_some found
        exact absurd ⟨[], rest, by simp [bracketed]⟩ (untagged body (isTag_of_tagBody? found))
      · rw [scanned, later]
        simp [slashMarks]
  exact chars 0

def Mark.isTag : Mark → Bool
  | .char _ => false
  | .tag .. => true

/-- Where a tag stands, the scan takes it, or another one before. -/
theorem exists_tag_scanFrom {body : List Char} (tag : IsTag body) (before rest : List Char)
    (slashes : Nat) :
    ∃ m ∈ scanFrom 0 slashes (before ++ (bracketed body ++ rest)), m.isTag = true := by
  induction before generalizing slashes with
  | nil =>
    rw [List.nil_append, scanFrom_tag tag]
    exact ⟨_, List.mem_cons_self, rfl⟩
  | cons c before ih =>
    rcases scanFrom_cons_cases slashes c (before ++ (bracketed body ++ rest)) with
      ⟨_, scanned⟩ | ⟨other, _, _, scanned⟩ | ⟨_, _, scanned⟩
    · rw [List.cons_append, scanned]
      exact ih (slashes + 1)
    · rw [List.cons_append, scanned]
      exact ⟨_, List.mem_cons_self, rfl⟩
    · obtain ⟨m, member, isTag⟩ := ih 0
      rw [List.cons_append, scanned]
      exact ⟨m, by simp [member], isTag⟩

theorem untagged_of_scan {cs : List Char} (none : ∀ m ∈ scan cs, m.isTag = false) :
    ∀ body, IsTag body → ¬ bracketed body <:+: cs := by
  rintro body tag ⟨before, rest, rfl⟩
  obtain ⟨m, member, isTag⟩ := exists_tag_scanFrom tag before rest 0
  rw [List.append_assoc] at none
  rw [none m member] at isTag
  cases isTag

/-- Whether a text is unmarked, read off its marks. -/
def isUnmarked (cs : List Char) : Bool :=
  (scan cs).all (!·.isTag) && unescapeBrackets cs == cs && cs.getLast? != some '\\'
    && replaceEmoji cs == cs && cs.all (!isDropped ·)

theorem isUnmarked_iff (cs : List Char) : isUnmarked cs = true ↔ Unmarked cs := by
  simp only [isUnmarked, Bool.and_eq_true, List.all_eq_true, Bool.not_eq_true', beq_iff_eq,
    bne_iff_ne, unescapeBrackets_eq_self_iff]
  constructor
  · rintro ⟨⟨⟨⟨untagged, unescaped⟩, unended⟩, uncoded⟩, kept⟩
    exact ⟨untagged_of_scan untagged, unescaped, unended, uncoded, kept⟩
  · intro unmarked
    refine ⟨⟨⟨⟨?_, unmarked.unescaped⟩, unmarked.unended⟩, unmarked.uncoded⟩, unmarked.kept⟩
    rw [scan_untagged unmarked.untagged]
    simp [Mark.isTag]

instance (cs : List Char) : Decidable (Unmarked cs) :=
  decidable_of_decidable_of_iff (isUnmarked_iff cs)

/-! ## Rendering -/

/-- What is printed of a piece. -/
def Piece.shown : Piece → List Char
  | .text cs => printed cs
  | .tag .. => []

theorem plain_renderFrom {lexicon : Lexicon} {stack : List String} {ps : List Piece}
    {gs : List Glyph} (rendered : renderFrom lexicon stack ps = .ok gs) :
    plain gs = ps.flatMap Piece.shown := by
  induction ps generalizing stack gs with
  | nil =>
    cases rendered
    rfl
  | cons p ps ih =>
    cases p with
    | text cs =>
      rw [renderFrom] at rendered
      cases later : renderFrom lexicon stack ps with
      | error f => simp [later, bind, Except.bind] at rendered
      | ok rest =>
        obtain rfl : glyphs stack cs ++ rest = gs := by
          simpa [later, bind, Except.bind, pure, Except.pure, glyphs] using rendered
        simp [plain, glyphs, Piece.shown, ← ih later, Function.comp_def]
    | tag position body =>
      rw [renderFrom] at rendered
      cases applied : applyTag lexicon position body stack with
      | error f => simp [applied, bind, Except.bind] at rendered
      | ok below =>
        have later : renderFrom lexicon below ps = .ok gs := by
          simpa [applied, bind, Except.bind] using rendered
        exact ih later

/-- What is printed of a tag: half of its backslashes, and the tag itself when it is literal. -/
def shownTag (slashes : Nat) (body : List Char) : List Char :=
  printed (List.replicate (slashes / 2) '\\')
    ++ if slashes % 2 = 1 then printed (bracketed body) else []

@[simp] theorem shown_textPiece (cs : List Char) :
    (textPiece cs).flatMap Piece.shown = printed cs := by
  cases cs with
  | nil => rfl
  | cons c cs => simp [textPiece, Piece.shown]

theorem shown_tag (position : Nat) (run : List Char) (slashes : Nat) (body : List Char)
    (ms : List Mark) : ∃ next,
    (piecesFrom position run (.tag slashes body :: ms)).flatMap Piece.shown
      = printed run.reverse
        ++ (shownTag slashes body ++ (piecesFrom next [] ms).flatMap Piece.shown) := by
  refine ⟨position + slashes + body.length + 2, ?_⟩
  by_cases odd : slashes % 2 = 1
  · simp [piecesFrom, shownTag, odd, Piece.shown]
  · simp [piecesFrom, shownTag, odd, Piece.shown]

theorem shown_append (position : Nat) (run : List Char) (ms : List Mark) (slashes : Nat)
    (body : List Char) : (piecesFrom position run (ms ++ [.tag slashes body])).flatMap Piece.shown
      = (piecesFrom position run ms).flatMap Piece.shown ++ shownTag slashes body := by
  induction ms generalizing position run with
  | nil =>
    obtain ⟨next, shown⟩ := shown_tag position run slashes body []
    rw [List.nil_append, shown]
    simp [piecesFrom]
  | cons m ms ih =>
    cases m with
    | char c => exact ih _ _
    | tag k other => simp [piecesFrom, ih]

theorem signs_shownTag (slashes : Nat) (body : List Char) :
    signs (shownTag slashes body) + 1 ≤ signs (Mark.tag slashes body).source := by
  have slashed := signs_printed_le (List.replicate (slashes / 2) '\\')
  have literal := signs_printed_le (bracketed body)
  have bracket : 1 ≤ signs (bracketed body) := by
    have opening : signs ['['] = 1 := rfl
    rw [bracketed, signs_cons, opening]
    omega
  rw [signs_slashes] at slashed
  simp only [shownTag, Mark.source, signs_append, signs_slashes]
  split
  · omega
  · simp only [signs_nil]
    omega

/-- Marks have at least the signs that are printed of them, and one more for each tag. -/
theorem signs_shown_le (position : Nat) (run : List Char) (ms : List Mark) :
    signs ((piecesFrom position run ms).flatMap Piece.shown) + ms.countP Mark.isTag
      ≤ signs (run.reverse ++ ms.flatMap Mark.source) := by
  induction ms generalizing position run with
  | nil => simpa [piecesFrom] using signs_printed_le run.reverse
  | cons m ms ih =>
    cases m with
    | char c => simpa [piecesFrom, Mark.isTag, Mark.source] using ih (position + 1) (c :: run)
    | tag slashes body =>
      obtain ⟨next, shown⟩ := shown_tag position run slashes body ms
      have before := signs_printed_le run.reverse
      have here := signs_shownTag slashes body
      have later := ih next []
      simp only [List.reverse_nil, List.nil_append] at later
      have counted : (Mark.tag slashes body :: ms).countP Mark.isTag = ms.countP Mark.isTag + 1 :=
        List.countP_cons_of_pos rfl
      rw [shown, counted]
      simp only [signs_append, List.flatMap_cons]
      omega

/-! ## Between tags -/

theorem sublist_of_missing {xs ys zs : List Char} {x : Char}
    (part : (xs ++ [x]).Sublist (ys ++ zs)) (missing : x ∉ zs) : (xs ++ [x]).Sublist ys := by
  obtain ⟨first, second, parts, left, right⟩ := List.sublist_append_iff.mp part
  rcases List.eq_nil_or_concat second with rfl | ⟨others, last, rfl⟩
  · rw [parts, List.append_nil]
    exact left
  · have same : x = last := by
      have ends := congrArg List.getLast? parts
      rw [List.concat_eq_append, ← List.append_assoc] at ends
      simpa using ends
    exact absurd (right.subset (by simp [same])) missing

section

variable {name : List Char} {style : String} (pair : Paired name style)
include pair

theorem scan_enclosed (cs : List Char) : scan (bracketed name ++ (cs ++ bracketed ('/' :: name)))
    = .tag 0 name :: scan (cs ++ bracketed ('/' :: name)) :=
  scanFrom_tag pair.opening _

theorem pieces_unmarked {cs : List Char} (unmarked : Unmarked cs) :
    ∃ last, pieces (bracketed name ++ (cs ++ bracketed ('/' :: name)))
      = .tag 0 name :: (textPiece cs ++ [.tag last ('/' :: name)]) := by
  rw [pieces, scan_enclosed pair, scan_closed pair.closing unmarked.unended,
    scan_untagged unmarked.untagged, piecesFrom_tag, piecesFrom_chars, piecesFrom_tag,
    List.append_nil, List.reverse_reverse]
  exact ⟨_, rfl⟩

theorem isBare_unmarked {cs : List Char} (unmarked : Unmarked cs) :
    (pieces (bracketed name ++ (cs ++ bracketed ('/' :: name)))).all Piece.isBare = true := by
  obtain ⟨last, split⟩ := pieces_unmarked pair unmarked
  rw [split, List.all_cons, List.all_append, pair.bare, isBare_of_isText (isText_textPiece cs),
    List.all_cons, pair.closing_bare]
  rfl

/-- Between tags, unmarked text is rendered character by character. -/
theorem render_unmarked (lexicon : Lexicon) {cs : List Char} (unmarked : Unmarked cs) :
    render lexicon (bracketed name ++ (cs ++ bracketed ('/' :: name)))
      = .ok (cs.map (⟨·, [style]⟩)) := by
  have own : printed cs = cs := printed_eq_self unmarked.unescaped unmarked.uncoded unmarked.kept
  obtain ⟨last, split⟩ := pieces_unmarked pair unmarked
  rw [render, split, renderFrom_tag (pair.opens _ _), renderFrom_text,
    renderFrom_tag (pair.closes _ _)]
  simp [glyphs, own, renderFrom, Except.map]

variable {lexicon : Lexicon} {cs : List Char} {gs : List Glyph}
  (rendered : render lexicon (bracketed name ++ (cs ++ bracketed ('/' :: name))) = .ok gs)
include rendered

theorem plain_enclosed :
    ∃ position, plain gs
      = (piecesFrom position [] (scan (cs ++ bracketed ('/' :: name)))).flatMap Piece.shown := by
  have shown := plain_renderFrom rendered
  rw [pieces, scan_enclosed pair] at shown
  obtain ⟨position, split⟩ := shown_tag 0 [] 0 name (scan (cs ++ bracketed ('/' :: name)))
  exact ⟨position, shown.trans split⟩

/-- A text whose last backslash escapes the closing tag loses that backslash. -/
theorem unended_of_render (clean : '\\' ∉ printed (bracketed ('/' :: name)))
    (inked : (ink cs).Sublist (ink (plain gs))) : cs.getLast? ≠ some '\\' := by
  intro ended
  obtain ⟨before, rfl⟩ := List.getLast?_eq_some_iff.mp ended
  obtain ⟨position, shown⟩ := plain_enclosed pair rendered
  obtain ⟨ms, pending, source, scanned⟩ := scan_escaping before pair.closing
  rw [List.append_assoc, List.singleton_append, scanned, shown_append] at shown
  have body := signs_shown_le position [] ms
  -- the text's last backslash is found before the tag, where there are too few of them
  have early : (ink before ++ ['\\']).Sublist
      (ink ((piecesFrom position [] ms).flatMap Piece.shown
        ++ printed (List.replicate ((pending + 1) / 2) '\\'))) := by
    rw [ink_append, shown, shownTag, ← List.append_assoc, ink_append] at inked
    refine sublist_of_missing inked fun member => ?_
    split at member
    · exact clean (List.mem_filter.mp member).1
    · cases member
  have bound := signs_mono early
  have slashed := signs_printed_le (List.replicate ((pending + 1) / 2) '\\')
  have last : signs ['\\'] = 1 := rfl
  rw [source] at bound
  simp only [signs_append, signs_ink, signs_slashes, last, List.reverse_nil, List.nil_append]
    at bound body slashed
  omega

/-- A text that keeps all its ink between tags is unmarked. -/
theorem unmarked_of_render (clean : '\\' ∉ printed (bracketed ('/' :: name)))
    (blanks : ∀ c ∈ cs, Text.isBlank c = true → isDropped c = false)
    (inked : (ink cs).Sublist (ink (plain gs))) : Unmarked cs := by
  have unended := unended_of_render pair rendered clean inked
  obtain ⟨position, shown⟩ := plain_enclosed pair rendered
  rw [scan_closed pair.closing unended, shown_append] at shown
  have all : plain gs = (piecesFrom position [] (scan cs)).flatMap Piece.shown := by
    simpa [shownTag] using shown
  -- each tag would take a sign, so that there is none
  have kept := signs_mono inked
  rw [signs_ink, signs_ink] at kept
  have bound := signs_shown_le position [] (scan cs)
  rw [List.reverse_nil, List.nil_append, source_scan, ← all] at bound
  have none : (scan cs).countP Mark.isTag = 0 := by omega
  have untagged := untagged_of_scan fun m member => by
    simpa using List.countP_eq_zero.mp none m member
  -- what is left is one stretch of text
  have stretch : plain gs = printed cs := by
    have chars := piecesFrom_chars position [] cs []
    rw [List.append_nil, List.append_nil] at chars
    rw [all, scan_untagged untagged, chars, piecesFrom, shown_textPiece, List.reverse_reverse]
  rw [stretch] at kept
  obtain ⟨unescaped, uncoded, printable⟩ := unread_of_signs blanks kept
  exact ⟨untagged, unescaped, unended, uncoded, printable⟩

end

end InlineCheck.Console
