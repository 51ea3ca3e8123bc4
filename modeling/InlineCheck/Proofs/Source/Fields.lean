import InlineCheck.Proofs.Source.Rising

/-! # Fields of formatted texts

The expressions in the braces of a formatted text stand one behind the other inside it.
-/

namespace InlineCheck.Source

/-- What was read is a part of the characters up to some that are left. -/
def Cuts (ps : List Placed) (r : Option (List Placed × List Placed)) : Prop :=
  ∀ own rest, r = some (own, rest) → ps = own ++ rest ∧ rest ≠ []

theorem cuts_none (ps : List Placed) : Cuts ps none := by
  intro own rest taken
  cases taken

theorem cuts_stop (p : Placed) (ps : List Placed) : Cuts (p :: ps) (some ([], p :: ps)) := by
  intro own rest taken
  cases taken
  exact ⟨rfl, List.cons_ne_nil _ _⟩

theorem Cuts.more {ps : List Placed} {r : Option (List Placed × List Placed)} (cuts : Cuts ps r)
    (p : Placed) : Cuts (p :: ps) (r.map fun x => (p :: x.1, x.2)) := by
  intro own rest taken
  obtain ⟨⟨own, rest⟩, deeper, made⟩ := Option.map_eq_some_iff.mp taken
  cases made
  obtain ⟨rfl, filled⟩ := cuts own rest deeper
  exact ⟨rfl, filled⟩

theorem cuts_ite {ps : List Placed} {c : Prop} [Decidable c]
    {r r' : Option (List Placed × List Placed)} :
    Cuts ps (if c then r else r') ↔ (c → Cuts ps r) ∧ (¬c → Cuts ps r') := by
  split <;> simp_all

/-- Every character is refused, ends the field, or is taken into it. -/
theorem cuts_takeField (skip : Nat) (s : FieldScan) (ps : List Placed) :
    Cuts ps (takeField skip s ps) := by
  induction ps generalizing skip s with
  | nil => exact cuts_none _
  | cons p ps ih =>
    have more (skip : Nat) (s : FieldScan) := (ih skip s).more p
    unfold takeField
    dsimp only
    cases skip with
    | succ skip => exact more skip s
    | zero =>
      cases s.quote with
      | some quote => simp [cuts_ite, cuts_none, more]
      | none =>
        cases closerOf (String.ofList [p.char]) with
        | some closer => simp [cuts_ite, cuts_none, more]
        | none =>
          cases s.closers with
          | nil => simp [cuts_ite, cuts_none, cuts_stop, more]
          | cons closer below => simp [cuts_ite, cuts_none, more]

theorem suffix_of_dropConversion {ps left : List Placed} (dropped : dropConversion ps = some left) :
    left <:+ ps := by
  unfold dropConversion at dropped
  extract_lets blanks at dropped
  have shorter : blanks <:+ ps := by
    simp only [blanks]
    split
    · exact (List.dropWhile_suffix _).trans (List.suffix_cons _ _)
    · exact List.suffix_refl _
  refine List.IsSuffix.trans ?_ shorter
  clear_value blanks
  split at dropped
  · split at dropped <;> cases dropped
    exact (List.suffix_cons _ _).trans (List.suffix_cons _ _)
  · cases dropped
  · cases dropped
    exact List.suffix_refl _

/-! ## One field -/

theorem Rising.of_suffix {cs ds : List Placed} (rising : Rising cs) (suffix : ds <:+ cs) :
    Rising ds :=
  List.Pairwise.sublist suffix.sublist rising

theorem Within.of_suffix {lo hi : Position} {cs ds : List Placed} (within : Within lo hi cs)
    (suffix : ds <:+ cs) : Within lo hi ds :=
  within.subset suffix.subset

/-- What follows a character lies behind it. -/
theorem Rising.within_tail {lo hi : Position} {c : Placed} {cs : List Placed}
    (rising : Rising (c :: cs)) (within : Within lo hi (c :: cs)) : Within c.behind hi cs := by
  intro d member
  exact ⟨List.rel_of_pairwise_cons rising member, (within d (List.mem_cons_of_mem _ member)).2⟩

/-- Characters of one list end before those of another begin. -/
def Before (cs ds : List Placed) : Prop :=
  ∀ c ∈ cs, ∀ d ∈ ds, c.behind ≤ d.position

theorem before_of_within {lo mid hi : Position} {cs ds : List Placed} (first : Within lo mid cs)
    (second : Within mid hi ds) : Before cs ds := by
  intro c low d high
  exact le_trans (first c low).2 (second d high).1

theorem behind_narrow_le {c : Char} (narrow : c.utf8Size = 1) (p : Placed) :
    (Placed.mk c p.position).behind ≤ p.behind := by
  have size := p.char.utf8Size_pos
  refine Position.le_iff.mpr (.inr ⟨rfl, ?_⟩)
  simp only [Placed.behind, Position.behind]
  omega

/-- The parentheses around an expression stand for the brace before it and the sign behind it. -/
theorem rising_fieldCells {lo hi : Position} {p q : Placed} {own rest : List Placed}
    (rising : Rising (p :: (own ++ q :: rest))) (within : Within lo hi (p :: (own ++ q :: rest))) :
    Rising (fieldCells p own (q :: rest)) ∧ Within lo q.behind (fieldCells p own (q :: rest)) := by
  have opening : (Placed.mk '(' p.position).behind ≤ p.behind := behind_narrow_le (by decide) p
  have closing : (Placed.mk ')' q.position).behind ≤ q.behind := behind_narrow_le (by decide) q
  obtain ⟨first, rising⟩ := List.pairwise_cons.mp rising
  obtain ⟨inner, -, across⟩ := List.pairwise_append.mp rising
  have last : ∀ c ∈ own, c.behind ≤ q.position := fun c member =>
    across c member q List.mem_cons_self
  have least : lo ≤ p.position := (within p List.mem_cons_self).1
  have between : p.behind ≤ q.position := first q (by simp)
  simp only [fieldCells, List.head?_cons, Option.getD_some]
  constructor
  · refine List.pairwise_cons.mpr ⟨fun c member => le_trans opening ?_, ?_⟩
    · rcases List.mem_append.mp member with own | sign
      · exact first c (by simp [own])
      · rw [List.mem_singleton.mp sign]
        exact between
    · refine List.pairwise_append.mpr ⟨inner, List.pairwise_singleton _ _,
        fun c member d sign => ?_⟩
      rw [List.mem_singleton.mp sign]
      exact last c member
  · have high := q.position_lt_behind
    have low := p.position_lt_behind
    intro c member
    simp only [List.mem_cons, List.mem_append, List.not_mem_nil, or_false] at member
    rcases member with rfl | member | rfl
    · exact ⟨least, by order⟩
    · have begins := first c (by simp [member])
      have ends := last c member
      exact ⟨by order, by order⟩
    · refine ⟨?_, closing⟩
      change lo ≤ q.position
      order

/-! ## Fields in a row -/

/-- The characters of expressions lie in a text one behind the other, and before what is left. -/
structure Spread (lo hi : Position) (body : List Placed) (fs : List (List Placed))
    (left : List Placed) : Prop where
  suffix : left <:+ body
  filled : ∀ f ∈ fs, f ≠ []
  rising : ∀ f ∈ fs, Rising f
  within : ∀ f ∈ fs, Within lo hi f
  ahead : ∀ f ∈ fs, Before f left
  ordered : fs.Pairwise Before

theorem spread_nothing {lo hi : Position} {body left : List Placed} (suffix : left <:+ body) :
    Spread lo hi body [] left :=
  ⟨suffix, by simp, by simp, by simp, by simp, .nil⟩

theorem Spread.of_suffix {lo hi : Position} {cs ds left : List Placed} {fs : List (List Placed)}
    (spread : Spread lo hi ds fs left) (suffix : ds <:+ cs) : Spread lo hi cs fs left :=
  { spread with suffix := spread.suffix.trans suffix }

theorem Within.mono {lo lo' hi hi' : Position} {cs : List Placed} (within : Within lo hi cs)
    (low : lo' ≤ lo) (high : hi ≤ hi') : Within lo' hi' cs :=
  fun c member => ⟨le_trans low (within c member).1, le_trans (within c member).2 high⟩

/-- A field, the fields in its format, and the fields behind its closing brace `r`. -/
theorem Spread.field {lo hi : Position} {p q r : Placed} {own rest others left : List Placed}
    {inner later : List (List Placed)} (rising : Rising (p :: (own ++ q :: rest)))
    (within : Within lo hi (p :: (own ++ q :: rest)))
    (format : Spread q.behind hi (q :: rest) inner (r :: others))
    (behind : Spread r.behind hi others later left) :
    Spread lo hi (p :: (own ++ q :: rest)) (fieldCells p own (q :: rest) :: (inner ++ later))
      left := by
  have tail : q :: rest <:+ p :: (own ++ q :: rest) :=
    (List.suffix_append own _).trans (List.suffix_cons p _)
  have rest_rising := rising.of_suffix tail
  have rest_within := within.of_suffix tail
  obtain ⟨cells_rising, cells_within⟩ := rising_fieldCells rising within
  have lowest : lo ≤ q.behind :=
    le_trans (rest_within q List.mem_cons_self).1 q.position_lt_behind.le
  have highest : q.behind ≤ hi := (rest_within q List.mem_cons_self).2
  have closed : q.behind ≤ r.behind := by
    rcases List.mem_cons.mp (format.suffix.subset List.mem_cons_self) with rfl | later
    · exact le_refl _
    · exact le_trans (List.rel_of_pairwise_cons rest_rising later) r.position_lt_behind.le
  have others_within : Within r.behind hi others :=
    (rest_rising.of_suffix format.suffix).within_tail (rest_within.of_suffix format.suffix)
  have inner_within : ∀ f ∈ inner, Within q.behind r.behind f := by
    intro f member c inside
    have ends := format.ahead f member c inside r List.mem_cons_self
    exact ⟨(format.within f member c inside).1, le_trans ends r.position_lt_behind.le⟩
  have left_within : Within r.behind hi left := others_within.of_suffix behind.suffix
  refine ⟨?_, ?_, ?_, ?_, ?_, ?_⟩
  · exact behind.suffix.trans ((List.suffix_cons r _).trans (format.suffix.trans tail))
  · simp only [List.mem_cons, List.mem_append]
    rintro f (rfl | member | member)
    · exact List.cons_ne_nil _ _
    · exact format.filled f member
    · exact behind.filled f member
  · simp only [List.mem_cons, List.mem_append]
    rintro f (rfl | member | member)
    · exact cells_rising
    · exact format.rising f member
    · exact behind.rising f member
  · simp only [List.mem_cons, List.mem_append]
    rintro f (rfl | member | member)
    · exact cells_within.mono (le_refl _) highest
    · exact (format.within f member).mono lowest (le_refl _)
    · exact (behind.within f member).mono (le_trans lowest closed) (le_refl _)
  · simp only [List.mem_cons, List.mem_append]
    rintro f (rfl | member | member)
    · exact before_of_within (cells_within.mono (le_refl _) closed) left_within
    · exact before_of_within (inner_within f member) left_within
    · exact behind.ahead f member
  · refine List.pairwise_cons.mpr ⟨fun f member => ?_, List.pairwise_append.mpr
      ⟨format.ordered, behind.ordered, fun f inside g outside => ?_⟩⟩
    · rcases List.mem_append.mp member with inside | outside
      · exact before_of_within cells_within (inner_within f inside)
      · exact before_of_within (cells_within.mono (le_refl _) closed) (behind.within f outside)
    · exact before_of_within (inner_within f inside) (behind.within g outside)

/-- The fields come from a shorter text, or begin with one whose format may hold more. -/
theorem fieldsFrom_cases {raw : Bool} {fuel level : Nat} {p : Placed} {ps left : List Placed}
    {fs : List (List Placed)}
    (found : fieldsFrom raw (fuel + 1) level (p :: ps) = some (fs, left)) :
    fs = [] ∧ left = p :: ps ∨
    (∃ cs, cs <:+ ps ∧ fieldsFrom raw fuel level cs = some (fs, left)) ∨
    ∃ own q rest inner r others later, ps = own ++ q :: rest ∧
      (inner = [] ∧ r :: others <:+ q :: rest ∨ ∃ format, format <:+ rest ∧
        fieldsFrom raw fuel (level + 1) format = some (inner, r :: others)) ∧
      fieldsFrom raw fuel level others = some (later, left) ∧
      fs = fieldCells p own (q :: rest) :: (inner ++ later) := by
  have more {cs : List Placed} (suffix : cs <:+ ps)
      (found : fieldsFrom raw fuel level cs = some (fs, left)) :
      ∃ cs, cs <:+ ps ∧ fieldsFrom raw fuel level cs = some (fs, left) := ⟨cs, suffix, found⟩
  unfold fieldsFrom at found
  dsimp only at found
  split at found
  · refine .inr (.inl ?_)
    split at found
    · refine more ?_ found
      exact (List.drop_suffix _ _).trans ((List.dropWhile_suffix _).trans
        ((List.suffix_cons _ _).trans (List.suffix_cons _ _)))
    · exact more (List.suffix_refl _) found
    · exact more (List.suffix_refl _) found
    · exact more (List.suffix_cons _ _) found
    · exact more (List.suffix_refl _) found
  split at found
  · split at found
    · exact .inr (.inl (more (List.drop_suffix _ _) found))
    split at found
    · cases found
    refine .inr (.inr ?_)
    simp only [Option.bind_eq_bind, Option.bind_eq_some_iff, Option.bind_none,
      Option.ite_none_left_eq_some, Prod.exists] at found
    obtain ⟨own, rest, taken, -, behind, dropped, found⟩ := found
    obtain ⟨rfl, filled⟩ := cuts_takeField _ _ _ _ _ taken
    obtain ⟨q, rest, rfl⟩ := List.exists_cons_of_ne_nil filled
    replace dropped := suffix_of_dropConversion dropped
    split at found
    · simp only [Option.bind_eq_some_iff, Prod.exists] at found
      obtain ⟨inner, closing, formatted, found⟩ := found
      split at found
      · simp only [Option.bind_eq_some_iff, Prod.exists] at found
        obtain ⟨later, _, found, made⟩ := found
        cases made
        refine ⟨own, q, rest, inner, _, _, later, rfl, .inr ⟨_, ?_, formatted⟩, found, rfl⟩
        -- The format begins behind a colon, which may be the sign that ended the expression.
        rcases List.suffix_cons_iff.mp dropped with same | deeper
        · cases same
          exact List.suffix_refl _
        · exact (List.suffix_cons _ _).trans deeper
      · cases found
    · simp only [Option.bind_some] at found
      split at found
      · simp only [Option.bind_eq_some_iff, Prod.exists] at found
        obtain ⟨later, _, found, made⟩ := found
        cases made
        exact ⟨own, q, rest, [], _, _, later, rfl, .inl ⟨rfl, dropped⟩, found, rfl⟩
      · cases found
  split at found
  · split at found
    · split at found
      · exact .inr (.inl (more (List.drop_suffix _ _) found))
      · cases found
    · cases found
      exact .inl ⟨rfl, rfl⟩
  · exact .inr (.inl (more (List.suffix_refl _) found))

theorem spread_fieldsFrom {raw : Bool} {fuel level : Nat} {lo hi : Position}
    {body left : List Placed} {fs : List (List Placed)} (rising : Rising body)
    (within : Within lo hi body) (found : fieldsFrom raw fuel level body = some (fs, left)) :
    Spread lo hi body fs left := by
  induction fuel generalizing level lo body fs left with
  | zero => cases found
  | succ fuel ih =>
    cases body with
    | nil =>
      cases found
      exact spread_nothing (List.suffix_refl _)
    | cons p ps =>
      have tail : ps <:+ p :: ps := List.suffix_cons p ps
      rcases fieldsFrom_cases found with ⟨rfl, rfl⟩ | ⟨cs, shorter, found⟩ |
        ⟨own, q, rest, inner, r, others, later, rfl, formatted, behind_found, rfl⟩
      · exact spread_nothing (List.suffix_refl _)
      · have suffix := shorter.trans tail
        exact (ih (rising.of_suffix suffix) (within.of_suffix suffix) found).of_suffix suffix
      · have rest_rising := (rising.of_suffix tail).of_suffix (List.suffix_append own _)
        have rest_within := (within.of_suffix tail).of_suffix (List.suffix_append own _)
        have behind : rest <:+ q :: rest := List.suffix_cons q rest
        have format : Spread q.behind hi (q :: rest) inner (r :: others) := by
          rcases formatted with ⟨rfl, suffix⟩ | ⟨format, suffix, formatted⟩
          · exact spread_nothing suffix
          · have inside := (rest_rising.within_tail rest_within).of_suffix suffix
            have suffix := suffix.trans behind
            exact (ih (rest_rising.of_suffix suffix) inside formatted).of_suffix suffix
        have closing := rest_rising.of_suffix format.suffix
        exact .field rising within format (ih (closing.of_suffix (List.suffix_cons r others))
          (closing.within_tail (rest_within.of_suffix format.suffix)) behind_found)

theorem spread_fields {raw : Bool} {lo hi : Position} {body : List Placed}
    {fs : List (List Placed)} (rising : Rising body) (within : Within lo hi body)
    (found : fields raw body = some fs) : Spread lo hi body fs [] := by
  unfold fields at found
  split at found
  · rename_i found'
    cases found
    exact spread_fieldsFrom rising within found'
  · cases found

end InlineCheck.Source
