import InlineCheck.Source.Literal
import Mathlib.Data.Prod.Lex
import Mathlib.Tactic.Order

/-! # Rising positions

The characters of a text stand one behind the other, and so do its tokens.

* `Rising` — every character ends before the next one begins.
* `Sorted` — every token ends before the next one begins, and those that are not layout take up some
  room.
* `sorted_scanPlaced` — the tokens of rising characters are sorted, and lie between the first and
  the last of them.
-/

namespace InlineCheck.Source

namespace Position

instance : PartialOrder Position :=
  PartialOrder.lift (fun p => toLex (p.line, p.column)) fun p q same => by
    cases p
    cases q
    simpa using same

theorem le_iff {p q : Position} :
    p ≤ q ↔ p.line < q.line ∨ p.line = q.line ∧ p.column ≤ q.column :=
  Prod.Lex.toLex_le_toLex

theorem lt_iff {p q : Position} :
    p < q ↔ p.line < q.line ∨ p.line = q.line ∧ p.column < q.column :=
  Prod.Lex.toLex_lt_toLex

theorem lt_behind (p : Position) (c : Char) : p < p.behind c := by
  have size := c.utf8Size_pos
  refine lt_iff.mpr (.inr ⟨rfl, ?_⟩)
  simp only [behind]
  omega

theorem behind_le_nextLine (p : Position) (c : Char) : p.behind c ≤ p.nextLine := by
  simp only [le_iff, behind, nextLine]
  omega

end Position

/-! ## Characters -/

/-- The position behind a character. -/
def Placed.behind (c : Placed) : Position :=
  c.position.behind c.char

theorem Placed.position_lt_behind (c : Placed) : c.position < c.behind :=
  c.position.lt_behind c.char

/-- Every character ends before the next one begins. -/
def Rising (cs : List Placed) : Prop :=
  cs.Pairwise fun c d => c.behind ≤ d.position

/-- Characters lie between two positions. -/
def Within (lo hi : Position) (cs : List Placed) : Prop :=
  ∀ c ∈ cs, lo ≤ c.position ∧ c.behind ≤ hi

theorem Within.subset {lo hi : Position} {cs ds : List Placed} (within : Within lo hi cs)
    (part : ds ⊆ cs) : Within lo hi ds :=
  fun c member => within c (part member)

theorem le_of_mem_place {p : Position} {cs : List Char} {c : Placed} (member : c ∈ place p cs) :
    p ≤ c.position := by
  fun_induction place p cs with
  | case1 => cases member
  | case2 p => simp_all
  | case3 p d cs ih =>
    rcases List.mem_cons.mp member with rfl | later
    · exact le_refl _
    · have next := ih later
      have step : p ≤ if d = '\n' then p.behind '\r' else p.nextLine := by
        split
        · exact (p.lt_behind '\r').le
        · exact (p.lt_behind '\r').le.trans (p.behind_le_nextLine '\r')
      exact step.trans next
  | case4 p cs ih =>
    rcases List.mem_cons.mp member with rfl | later
    · exact le_refl _
    · exact ((p.lt_behind '\n').le.trans (p.behind_le_nextLine '\n')).trans (ih later)
  | case5 p d cs _ _ _ ih =>
    rcases List.mem_cons.mp member with rfl | later
    · exact le_refl _
    · exact (p.lt_behind d).le.trans (ih later)

theorem rising_place (p : Position) (cs : List Char) : Rising (place p cs) := by
  fun_induction place p cs with
  | case1 => exact .nil
  | case2 p => exact List.pairwise_singleton _ _
  | case3 p d cs ih =>
    refine .cons (fun c later => ?_) ih
    refine le_trans ?_ (le_of_mem_place later)
    split
    · exact le_refl _
    · exact p.behind_le_nextLine '\r'
  | case4 p cs ih =>
    exact .cons (fun c later => (p.behind_le_nextLine '\n').trans (le_of_mem_place later)) ih
  | case5 p d cs _ _ _ ih => exact .cons (fun c later => le_of_mem_place later) ih

theorem mem_plainLines {cs : List Placed} {c : Placed} (member : c ∈ plainLines cs) :
    ∃ d ∈ cs, c.position = d.position ∧ c.behind = d.behind := by
  fun_induction plainLines cs with
  | case1 => cases member
  | case2 p q cs ih =>
    rcases List.mem_cons.mp member with rfl | later
    · exact ⟨_, List.mem_cons_self, rfl, rfl⟩
    · obtain ⟨d, inside, same⟩ := ih later
      exact ⟨d, List.mem_cons_of_mem _ (List.mem_cons_of_mem _ inside), same⟩
  | case3 p cs _ ih =>
    rcases List.mem_cons.mp member with rfl | later
    · exact ⟨_, List.mem_cons_self, rfl, rfl⟩
    · obtain ⟨d, inside, same⟩ := ih later
      exact ⟨d, List.mem_cons_of_mem _ inside, same⟩
  | case4 e cs _ _ ih =>
    rcases List.mem_cons.mp member with rfl | later
    · exact ⟨_, List.mem_cons_self, rfl, rfl⟩
    · obtain ⟨d, inside, same⟩ := ih later
      exact ⟨d, List.mem_cons_of_mem _ inside, same⟩

theorem rising_plainLines {cs : List Placed} (rising : Rising cs) : Rising (plainLines cs) := by
  fun_induction plainLines cs with
  | case1 => exact .nil
  | case2 p q cs ih =>
    obtain ⟨first, later⟩ := List.pairwise_cons.mp rising
    refine .cons (fun c member => ?_) (ih (List.pairwise_cons.mp later).2)
    obtain ⟨d, inside, same, -⟩ := mem_plainLines member
    exact same ▸ first d (List.mem_cons_of_mem _ inside)
  | case3 p cs _ ih =>
    obtain ⟨first, later⟩ := List.pairwise_cons.mp rising
    refine .cons (fun c member => ?_) (ih later)
    obtain ⟨d, inside, same, -⟩ := mem_plainLines member
    exact same ▸ first d inside
  | case4 e cs _ _ ih =>
    obtain ⟨first, later⟩ := List.pairwise_cons.mp rising
    refine .cons (fun c member => ?_) (ih later)
    obtain ⟨d, inside, same, -⟩ := mem_plainLines member
    exact same ▸ first d inside

/-! ## Tokens -/

/-- Whether a kind tells how lines are laid out. -/
def TokenKind.isLayout : TokenKind → Bool
  | .newline | .indent | .dedent | .finish => true
  | _ => false

/-- A token begins before it ends, unless it tells of layout; what stands in quotes is inside. -/
structure Token.Forward (t : Token) : Prop where
  le : t.span.start ≤ t.span.stop
  lt : t.kind.isLayout = false → t.span.start < t.span.stop
  body : ∀ mark body, t.kind = .text mark body →
    Rising body ∧ Within t.span.start t.span.stop body

/-- Every token ends before the next one begins. -/
structure Sorted (ts : List Token) : Prop where
  forward : ∀ t ∈ ts, t.Forward
  ordered : ts.Pairwise fun t u => t.span.stop ≤ u.span.start

/-- Tokens that are taken from the beginning of characters, and what is left of these. -/
structure Scans (cs : List Placed) (ts : List Token) (rest : List Placed) : Prop where
  left : rest <:+ cs
  sorted : Sorted ts
  above : ∀ lo, (∀ c ∈ cs, lo ≤ c.position) → ∀ t ∈ ts, lo ≤ t.span.start
  below : ∀ hi, (∀ c ∈ cs, c.behind ≤ hi) → ∀ t ∈ ts, t.span.stop ≤ hi
  before : ∀ t ∈ ts, ∀ c ∈ rest, t.span.stop ≤ c.position

theorem scans_nothing {cs rest : List Placed} (left : rest <:+ cs) : Scans cs [] rest :=
  ⟨left, ⟨by simp, .nil⟩, by simp, by simp, by simp⟩

theorem forward_layout {kind : TokenKind} (empty : kind.isLayout = true) (p : Position) :
    (layout kind p).Forward := by
  refine ⟨le_refl _, fun solid => ?_, fun mark body texts => ?_⟩
  · have solid : kind.isLayout = false := solid
    rw [empty] at solid
    cases solid
  · have texts : kind = .text mark body := texts
    rw [texts] at empty
    cases empty

theorem sorted_layout {p : Position} {ts : List Token}
    (each : ∀ t ∈ ts, ∃ kind, kind.isLayout = true ∧ t = layout kind p) :
    Sorted ts ∧ ∀ t ∈ ts, t.span = ⟨p, p⟩ := by
  have span : ∀ t ∈ ts, t.span = ⟨p, p⟩ := by
    intro t inside
    obtain ⟨kind, -, rfl⟩ := each t inside
    rfl
  refine ⟨⟨fun t inside => ?_, List.pairwise_of_forall_mem_list fun t inside u inside' => ?_⟩, span⟩
  · obtain ⟨kind, empty, rfl⟩ := each t inside
    exact forward_layout empty p
  · rw [span t inside, span u inside']

/-- Tokens of layout that all stand where a character does. -/
theorem scans_layout {cs rest : List Placed} {c : Placed} {ts : List Token} (left : rest <:+ cs)
    (member : c ∈ cs) (first : ∀ d ∈ rest, c.position ≤ d.position)
    (each : ∀ t ∈ ts, ∃ kind, kind.isLayout = true ∧ t = layout kind c.position) :
    Scans cs ts rest := by
  obtain ⟨sorted, span⟩ := sorted_layout each
  refine ⟨left, sorted, fun lo low t inside => ?_, fun hi high t inside => ?_,
    fun t inside d later => ?_⟩
  · rw [span t inside]
    exact low c member
  · rw [span t inside]
    exact c.position_lt_behind.le.trans (high c member)
  · rw [span t inside]
    exact first d later

/-! ### Tokens of characters -/

theorem position_le_of_rising {c d : Placed} {cs : List Placed} (rising : Rising (c :: cs))
    (member : d ∈ c :: cs) : c.position ≤ d.position := by
  rcases List.mem_cons.mp member with rfl | later
  · exact le_refl _
  · exact c.position_lt_behind.le.trans ((List.pairwise_cons.mp rising).1 d later)

theorem exists_placeBehind {cs : List Placed} (filled : cs ≠ []) (start : Position) :
    ∃ c ∈ cs, placeBehind start cs = c.behind := by
  refine ⟨cs.getLast filled, List.getLast_mem filled, ?_⟩
  simp [placeBehind, List.getLast?_eq_some_getLast filled, Placed.behind]

theorem first_le_placeBehind {cs : List Placed} {start : Position}
    (low : ∀ c ∈ cs, start ≤ c.position) : start ≤ placeBehind start cs := by
  by_cases filled : cs = []
  · simp [filled, placeBehind]
  · obtain ⟨c, member, last⟩ := exists_placeBehind filled start
    rw [last]
    exact le_trans (low c member) c.position_lt_behind.le

theorem behind_le_placeBehind {c : Placed} {cs : List Placed} (rising : Rising cs)
    (start : Position) (member : c ∈ cs) : c.behind ≤ placeBehind start cs := by
  rcases List.eq_nil_or_concat cs with rfl | ⟨ds, e, rfl⟩
  · cases member
  · rw [List.concat_eq_append] at rising member ⊢
    have last : placeBehind start (ds ++ [e]) = e.behind := by simp [placeBehind, Placed.behind]
    rw [last]
    rcases List.mem_append.mp member with earlier | here
    · have gap := (List.pairwise_append.mp rising).2.2 c earlier e (List.mem_singleton_self e)
      exact gap.trans e.position_lt_behind.le
    · exact List.mem_singleton.mp here ▸ le_refl _

/-- A token made of characters covers just these. -/
theorem scans_tokenOf {cs : List Placed} {kind : TokenKind} {n : Nat} (rising : Rising cs)
    (positive : 0 < n) (filled : cs ≠ [])
    (body : ∀ mark body, kind = .text mark body → body.Sublist (cs.take n)) :
    Scans cs [tokenOf kind n cs] (cs.drop n) := by
  obtain ⟨c, rest, rfl⟩ := List.exists_cons_of_ne_nil filled
  obtain ⟨m, rfl⟩ := Nat.exists_eq_succ_of_ne_zero positive.ne'
  have own : Rising (c :: rest.take m) := rising.sublist (List.take_sublist (m + 1) (c :: rest))
  have span : (tokenOf kind (m + 1) (c :: rest)).span
      = ⟨c.position, placeBehind c.position (c :: rest.take m)⟩ := rfl
  have inside : Within c.position (placeBehind c.position (c :: rest.take m)) (c :: rest.take m) :=
    fun d member => ⟨position_le_of_rising own member, behind_le_placeBehind own _ member⟩
  have forward : c.position < placeBehind c.position (c :: rest.take m) :=
    c.position_lt_behind.trans_le (inside c List.mem_cons_self).2
  -- The last character of the token is one of all characters, and comes before those left.
  obtain ⟨last, member, ends⟩ : ∃ d ∈ c :: rest.take m,
      placeBehind c.position (c :: rest.take m) = d.behind := by
    refine ⟨(c :: rest.take m).getLast (by simp), List.getLast_mem _, ?_⟩
    rw [placeBehind, List.getLast?_eq_some_getLast (by simp)]
    rfl
  have split : c :: rest = (c :: rest.take m) ++ rest.drop m := by simp
  refine ⟨List.drop_suffix _ _, ⟨?_, List.pairwise_singleton _ _⟩, ?_, ?_, ?_⟩
  · rw [List.forall_mem_singleton]
    refine ⟨forward.le, fun _ => forward, fun mark text made => ?_⟩
    have part := body mark text made
    exact ⟨own.sublist part, span ▸ inside.subset part.subset⟩
  · intro lo low
    rw [List.forall_mem_singleton, span]
    exact low c List.mem_cons_self
  · intro hi high
    rw [List.forall_mem_singleton, span, ends]
    exact high last (split ▸ List.mem_append_left _ member)
  · rw [List.forall_mem_singleton, span, ends]
    rw [split, Rising, List.pairwise_append] at rising
    exact fun d later => rising.2.2 last member d later

/-! ### Steps of the scan -/

theorem suffix_of_takeIndent {kept : Option Nat} {i j : Indent} {cs rest : List Placed}
    (taken : takeIndent kept i cs = some (j, rest)) : rest <:+ cs := by
  fun_induction takeIndent kept i cs with
  | case1 => cases taken; exact List.suffix_refl _
  | case2 kept i p q c cs ih =>
    exact (ih taken).trans ⟨[⟨'\\', p⟩, ⟨'\n', q⟩], rfl⟩
  | case3 kept i c cs _ _ ih => exact (ih taken).trans (List.suffix_cons _ _)
  | case4 kept i c cs _ _ _ ih => exact (ih taken).trans (List.suffix_cons _ _)
  | case5 kept i c cs _ _ _ _ ih => exact (ih taken).trans (List.suffix_cons _ _)
  | case6 => cases taken
  | case7 => cases taken; exact List.suffix_refl _
  | case8 => cases taken; exact List.suffix_refl _

theorem layout_of_closeIndents {i : Indent} {p : Position} {indents left : List Indent}
    {ts : List Token} (closed : closeIndents i p indents = some (ts, left)) :
    ∀ t ∈ ts, ∃ kind, kind.isLayout = true ∧ t = layout kind p := by
  induction indents generalizing ts left with
  | nil =>
    rw [closeIndents] at closed
    split at closed <;> cases closed
    exact List.forall_mem_nil _
  | cons top below ih =>
    rw [closeIndents] at closed
    split at closed
    · obtain ⟨⟨us, rest⟩, deeper, made⟩ := Option.map_eq_some_iff.mp closed
      cases made
      exact List.forall_mem_cons.mpr ⟨⟨.dedent, rfl, rfl⟩, ih deeper⟩
    · split at closed <;> cases closed
      exact List.forall_mem_nil _

theorem layout_of_changeIndent {indents left : List Indent} {i : Indent} {p : Position}
    {ts : List Token} (changed : changeIndent indents i p = some (ts, left)) :
    ∀ t ∈ ts, ∃ kind, kind.isLayout = true ∧ t = layout kind p := by
  unfold changeIndent at changed
  simp only at changed
  split at changed
  · split at changed <;> cases changed
    exact List.forall_mem_singleton.mpr ⟨.indent, rfl, rfl⟩
  · exact layout_of_closeIndents changed

theorem scans_scanFresh {s s' : Scanner} {cs rest : List Placed} {ts : List Token}
    (rising : Rising cs) (scanned : scanFresh s cs = some (ts, s', rest)) : Scans cs ts rest := by
  simp only [scanFresh, Option.bind_eq_bind, Option.bind_eq_some_iff, Prod.exists] at scanned
  obtain ⟨i, indented, taken, scanned⟩ := scanned
  have left := suffix_of_takeIndent taken
  split at scanned
  · cases scanned
    exact scans_nothing left
  next c more =>
    split at scanned
    · cases scanned
      exact scans_nothing (((List.drop_suffix _ _).trans (List.dropWhile_suffix _)).trans left)
    · simp only [Option.bind_eq_some_iff, Prod.exists] at scanned
      obtain ⟨us, indents, changed, made⟩ := scanned
      cases made
      have own : Rising (c :: more) := rising.sublist left.sublist
      exact scans_layout left (left.subset List.mem_cons_self)
        (fun d => position_le_of_rising own) (layout_of_changeIndent changed)

theorem takeLine_split {quote : Char} {escaped : Bool} {cs body rest : List Placed}
    (taken : takeLine quote escaped cs = some (body, rest)) : ∃ d, cs = body ++ d :: rest := by
  fun_induction takeLine quote escaped cs generalizing body rest with
  | case1 => cases taken
  | case2 c cs ih =>
    obtain ⟨⟨b, r⟩, deeper, made⟩ := Option.map_eq_some_iff.mp taken
    cases made
    obtain ⟨d, rfl⟩ := ih deeper
    exact ⟨d, rfl⟩
  | case3 escaped c cs _ _ => cases taken; exact ⟨c, rfl⟩
  | case4 => cases taken
  | case5 escaped c cs _ _ _ ih =>
    obtain ⟨⟨b, r⟩, deeper, made⟩ := Option.map_eq_some_iff.mp taken
    cases made
    obtain ⟨d, rfl⟩ := ih deeper
    exact ⟨d, rfl⟩

theorem takeLines_split {quote : Char} {escaped : Bool} {cs body rest : List Placed}
    (taken : takeLines quote escaped cs = some (body, rest)) :
    ∃ closing, cs = body ++ (closing ++ rest) := by
  induction cs generalizing escaped body rest with
  | nil => cases taken
  | cons c cs ih =>
    unfold takeLines at taken
    simp only at taken
    split at taken
    next closed =>
      cases taken
      split at closed
      next d e more =>
        split at closed <;> cases closed
        exact ⟨[c, d, e], rfl⟩
      next => cases closed
    next =>
      obtain ⟨⟨b, r⟩, deeper, made⟩ := Option.map_eq_some_iff.mp taken
      cases made
      obtain ⟨closing, rfl⟩ := ih deeper
      exact ⟨closing, rfl⟩

theorem takeText_split {cs body rest : List Placed} (taken : takeText cs = some (body, rest)) :
    ∃ a opening closing, cs = a :: (opening ++ (body ++ (closing ++ rest))) := by
  unfold takeText at taken
  split at taken
  next a b c cs =>
    split at taken
    · obtain ⟨closing, rfl⟩ := takeLines_split taken
      exact ⟨a, [b, c], closing, rfl⟩
    · obtain ⟨d, split⟩ := takeLine_split taken
      exact ⟨a, [], [d], by rw [split]; rfl⟩
  next a cs _ =>
    obtain ⟨d, rfl⟩ := takeLine_split taken
    exact ⟨a, [], [d], rfl⟩
  next => cases taken

theorem takeDigits_pos {isDigit : Char → Bool} {c : Char} {cs rest : List Char} {n : Nat}
    (digit : isDigit c = true) (proper : isDigit '_' = false)
    (taken : takeDigits isDigit (c :: cs) = some (n, rest)) : 0 < n := by
  unfold takeDigits at taken
  split at taken
  next nothing => cases nothing
  · simp_all
  · simp_all
  · rw [if_pos (by simp_all)] at taken
    obtain ⟨⟨m, r⟩, -, made⟩ := Option.map_eq_some_iff.mp taken
    cases made
    omega

theorem takeBased_pos {isDigit : Char → Bool} {cs rest : List Char} {n : Nat}
    (taken : takeBased isDigit cs = some (n, rest)) : 0 < n := by
  simp only [takeBased, Option.bind_eq_bind, Option.bind_none, Option.ite_none_left_eq_some,
    Option.bind_eq_some_iff, Option.pure_def, Option.some.injEq, Prod.mk.injEq] at taken
  obtain ⟨-, _, -, -, made, -⟩ := taken
  omega

theorem takeTail_pos {cs rest : List Char} {n : Nat} {more : Bool}
    (taken : takeTail ('.' :: cs) = some (n, rest, more)) : 0 < n := by
  simp only [takeTail, Option.bind_eq_bind, Option.bind_eq_some_iff, Option.pure_def,
    Option.some.injEq, Prod.mk.injEq, Option.map_eq_some_iff] at taken
  obtain ⟨_, ⟨_, -, rfl⟩, _, -, made, -⟩ := taken
  omega

theorem takeDecimal_pos {c : Char} {cs rest : List Char} {n : Nat}
    (starts : c.isDigit = true ∨ c = '.') (taken : takeDecimal (c :: cs) = some (n, rest)) :
    0 < n := by
  simp only [takeDecimal, Option.bind_eq_bind, Option.bind_eq_some_iff, Option.bind_none,
    Option.ite_none_left_eq_some, Option.pure_def, Option.some.injEq, Prod.mk.injEq,
    Prod.exists] at taken
  obtain ⟨k, after, whole, l, left, more, tail, -, made, -⟩ := taken
  rw [takeDigitsIf] at whole
  split at whole
  next digit =>
    have := takeDigits_pos digit rfl whole
    omega
  next plain =>
    obtain rfl : c = '.' := by simpa [plain] using starts
    cases whole
    have := takeTail_pos tail
    omega

theorem numberLength_pos {c : Char} {cs : List Char} {n : Nat}
    (starts : c.isDigit = true ∨ c = '.') (number : numberLength (c :: cs) = some n) : 0 < n := by
  have ends {taken : Option Taken} (positive : ∀ m rest, taken = some (m, rest) → 0 < m)
      (made : (taken.bind fun r => if mayFollowNumber r.2 = true then pure r.1 else none)
        = some n) :
      0 < n := by
    obtain ⟨⟨m, rest⟩, same, made⟩ := Option.bind_eq_some_iff.mp made
    split at made <;> cases made
    exact positive _ _ same
  simp only [numberLength, Option.bind_eq_bind] at number
  split at number
  · split at number
    · exact ends (fun _ _ => takeBased_pos) number
    · split at number
      · exact ends (fun _ _ => takeBased_pos) number
      · split at number
        · exact ends (fun _ _ => takeBased_pos) number
        · exact ends (fun _ _ => takeDecimal_pos starts) number
  · exact ends (fun _ _ => takeDecimal_pos starts) number

theorem scans_scanWord {s s' : Scanner} {cs rest : List Placed} {ts : List Token}
    (rising : Rising cs) (scanned : scanWord s cs = some (ts, s', rest)) : Scans cs ts rest := by
  simp only [scanWord, Option.bind_eq_bind] at scanned
  split at scanned
  · simp only [Option.bind_eq_some_iff, Prod.exists, Option.pure_def, Option.some.injEq,
      Prod.mk.injEq] at scanned
    obtain ⟨body, behind, taken, rfl, -, rfl⟩ := scanned
    obtain ⟨a, opening, closing, quoted⟩ := takeText_split taken
    -- The mark, both quotes and what is between them are the token's own characters.
    generalize cs.takeWhile (fun c => continuesWord c.char) = word at *
    have whole : cs = (cs.take word.length ++ (a :: opening) ++ body ++ closing) ++ behind := by
      conv_lhs => rw [← List.take_append_drop word.length cs, quoted]
      simp
    have inside : body.Sublist (cs.take word.length ++ (a :: opening) ++ body ++ closing) :=
      (List.sublist_append_right _ _).trans (List.sublist_append_left _ _)
    generalize own : cs.take word.length ++ (a :: opening) ++ body ++ closing = letters
      at whole inside
    have filled : letters ≠ [] := by simp [← own]
    have size : cs.length - behind.length = letters.length := by simp [whole]
    have left : cs.drop letters.length = behind := by simp [whole]
    have taken : cs.take letters.length = letters := by simp [whole]
    rw [size]
    conv => rhs; rw [← left]
    refine scans_tokenOf rising (List.length_pos_iff.mpr filled) (by simp [whole, filled]) ?_
    rintro mark _ ⟨⟩
    exact taken.symm ▸ inside
  · simp only [Option.ite_none_right_eq_some, Option.pure_def, Option.some.injEq,
      Prod.mk.injEq] at scanned
    obtain ⟨letters, rfl, -, rfl⟩ := scanned
    have word : cs.takeWhile (fun c => continuesWord c.char) ≠ [] := by
      intro nothing
      simp [nothing] at letters
    have filled : cs ≠ [] := by
      rintro rfl
      exact word rfl
    refine scans_tokenOf rising (List.length_pos_iff.mpr word) filled ?_
    intro mark body text
    split at text <;> cases text

theorem scans_scanSign {s s' : Scanner} {cs rest : List Placed} {ts : List Token}
    (rising : Rising cs) (filled : cs ≠ []) (scanned : scanSign s cs = some (ts, s', rest)) :
    Scans cs ts rest := by
  simp only [scanSign, Option.bind_eq_bind, Option.bind_eq_some_iff, Option.pure_def,
    Option.some.injEq, Prod.mk.injEq] at scanned
  obtain ⟨sign, found, closers, -, rfl, -, rfl⟩ := scanned
  have written : ∀ sign ∈ signs, 0 < sign.length := by decide
  refine scans_tokenOf rising (written sign (List.mem_of_find?_eq_some found)) filled ?_
  exact fun mark body text => by cases text

theorem scans_scanNext {s s' : Scanner} {cs rest : List Placed} {ts : List Token}
    (rising : Rising cs) (scanned : scanNext s cs = some (ts, s', rest)) : Scans cs ts rest := by
  unfold scanNext at scanned
  split at scanned
  · cases scanned
    exact scans_nothing (List.suffix_refl _)
  next c more =>
    split at scanned
    · cases scanned
      exact scans_nothing (List.suffix_cons _ _)
    split at scanned
    · cases scanned
      exact scans_nothing ((List.dropWhile_suffix _).trans (List.suffix_cons _ _))
    split at scanned
    · split at scanned
      · cases scanned
        refine scans_layout (List.suffix_cons _ _) List.mem_cons_self
          (fun d later => position_le_of_rising rising (List.mem_cons_of_mem _ later)) ?_
        exact List.forall_mem_singleton.mpr ⟨.newline, rfl, rfl⟩
      · cases scanned
        exact scans_nothing (List.suffix_cons _ _)
    split at scanned
    · split at scanned
      next p d others =>
        cases scanned
        exact scans_nothing ⟨[c, ⟨'\n', p⟩], rfl⟩
      next => cases scanned
    split at scanned
    next starts =>
      obtain ⟨n, number, made⟩ := Option.map_eq_some_iff.mp scanned
      cases made
      refine scans_tokenOf rising (numberLength_pos ?_ number) (List.cons_ne_nil _ _) ?_
      · simp only [Bool.or_eq_true, Bool.and_eq_true, decide_eq_true_eq] at starts
        exact starts.imp_right And.left
      · exact fun mark body text => by cases text
    split at scanned
    · exact scans_scanWord rising scanned
    · exact scans_scanSign rising (List.cons_ne_nil _ _) scanned

/-! ### The whole scan -/

theorem sorted_scanEnd {s : Scanner} {p : Position} {ts : List Token}
    (ended : scanEnd s p = some ts) : Sorted ts ∧ ∀ t ∈ ts, t.span = ⟨p, p⟩ := by
  unfold scanEnd at ended
  split at ended <;> cases ended
  apply sorted_layout
  intro t member
  simp only [List.mem_append, List.mem_map, List.mem_singleton] at member
  rcases member with (line | ⟨_, -, rfl⟩) | rfl
  · split at line
    · cases line
    · exact ⟨.newline, rfl, List.mem_singleton.mp line⟩
  · exact ⟨.dedent, rfl, rfl⟩
  · exact ⟨.finish, rfl, rfl⟩

theorem sorted_scanAll {p : Position} {fuel : Nat} {s : Scanner} {cs : List Placed}
    {ts : List Token} (rising : Rising cs) (high : ∀ c ∈ cs, c.behind ≤ p)
    (scanned : scanAll p fuel s cs = some ts) :
    Sorted ts ∧ (∀ t ∈ ts, t.span.stop ≤ p)
      ∧ ∀ lo ≤ p, (∀ c ∈ cs, lo ≤ c.position) → ∀ t ∈ ts, lo ≤ t.span.start := by
  fun_induction scanAll p fuel s cs generalizing ts with
  | case1 fuel s =>
    obtain ⟨sorted, span⟩ := sorted_scanEnd scanned
    exact ⟨sorted, fun t member => by rw [span t member],
      fun lo low _ t member => by rw [span t member]; exact low⟩
  | case2 => cases scanned
  | case3 => cases scanned
  | case4 fuel s cs filled us s' rest step ih =>
    obtain ⟨later, deeper, rfl⟩ := Option.map_eq_some_iff.mp scanned
    have scans : Scans cs us rest := by
      unfold scanStep at step
      split at step
      · exact scans_scanFresh rising step
      · exact scans_scanNext rising step
    obtain ⟨sorted, below, above⟩ := ih (rising.sublist scans.left.sublist)
      (fun c member => high c (scans.left.subset member)) deeper
    have stop : ∀ t ∈ us, t.span.stop ≤ p := scans.below p high
    refine ⟨⟨?_, List.pairwise_append.mpr ⟨scans.sorted.ordered, sorted.ordered, ?_⟩⟩, ?_, ?_⟩
    · exact List.forall_mem_append.mpr ⟨scans.sorted.forward, sorted.forward⟩
    · exact fun t member u member' =>
        above t.span.stop (stop t member) (scans.before t member) u member'
    · exact List.forall_mem_append.mpr ⟨stop, below⟩
    · intro lo low each
      exact List.forall_mem_append.mpr ⟨scans.above lo each,
        above lo low fun c member => each c (scans.left.subset member)⟩

/-- The tokens of rising characters are sorted and lie between the first and the last of them. -/
theorem sorted_scanPlaced {s : Scanner} {cs : List Placed} {ts : List Token} (rising : Rising cs)
    (scanned : scanPlaced s cs = some ts) {lo : Position} (least : lo ≤ placeBehind .first cs)
    (low : ∀ c ∈ cs, lo ≤ c.position) :
    Sorted ts ∧ ∀ t ∈ ts, lo ≤ t.span.start ∧ t.span.stop ≤ placeBehind .first cs := by
  have high : ∀ c ∈ cs, c.behind ≤ placeBehind .first cs :=
    fun c member => behind_le_placeBehind rising .first member
  obtain ⟨sorted, below, above⟩ := sorted_scanAll rising high scanned
  exact ⟨sorted, fun t member => ⟨above lo least low t member, below t member⟩⟩

end InlineCheck.Source
