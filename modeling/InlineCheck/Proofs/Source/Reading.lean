import InlineCheck.Proofs.Source.Fields

/-! # Reading forward

What a reader makes of sorted tokens lies between the tokens it has read.

* `Node.Nested` — every node of a tree takes up some text, and its parts lie inside it, one behind
  the other. Only the function of a call begins where the call does, and nothing in a call ends
  where the call does but an argument.
* `Passes` and `Reads` — nodes were read on the way from one input to another; in the second case
  some text was read too.
* `Sound` — a reader that reads its node.
-/

namespace InlineCheck.Source

/-! ## Nodes -/

def Kind.isCall : Kind → Bool
  | .call => true
  | _ => false

/-- The function of a call ends before the call does, and its arguments begin behind the beginning
of the call. -/
def CallParts (span : Span) (parts : List Node) : Prop :=
  ∃ function args, parts = function :: args ∧ function.span.stop < span.stop ∧
    ∀ a ∈ args, span.start < a.span.start

/-- Nodes lie between two positions. -/
def Inside (lo hi : Position) (ns : List Node) : Prop :=
  ∀ n ∈ ns, lo ≤ n.span.start ∧ n.span.stop ≤ hi

/-- Every node of a tree takes up some text, and its parts lie inside it in their order. -/
inductive Node.Nested : Node → Prop
  | node {kind : Kind} {span : Span} {parts : List Node} (forth : span.start < span.stop)
    (each : ∀ n ∈ parts, n.Nested) (inside : Inside span.start span.stop parts)
    (ordered : parts.Pairwise fun m n => m.span.stop ≤ n.span.start)
    (call : kind.isCall = true → CallParts span parts) : Nested (.node kind span parts)

/-- Nodes between two positions, one behind the other. -/
structure Strung (lo hi : Position) (ns : List Node) : Prop where
  each : ∀ n ∈ ns, n.Nested
  inside : Inside lo hi ns
  ordered : ns.Pairwise fun m n => m.span.stop ≤ n.span.start

theorem Node.Nested.forth {n : Node} (nested : n.Nested) : n.span.start < n.span.stop := by
  cases nested
  assumption

theorem Node.Nested.strung {n : Node} (nested : n.Nested) :
    Strung n.span.start n.span.stop n.parts := by
  obtain ⟨-, each, inside, ordered, -⟩ := nested
  exact ⟨each, inside, ordered⟩

namespace Strung

variable {lo mid mid' hi : Position} {n : Node} {ns ms : List Node}

theorem nil (lo hi : Position) : Strung lo hi [] :=
  ⟨by simp, by simp [Inside], .nil⟩

theorem widen {lo' hi' : Position} (strung : Strung lo hi ns) (low : lo' ≤ lo) (high : hi ≤ hi') :
    Strung lo' hi' ns :=
  { strung with
    inside := fun n member =>
      ⟨le_trans low (strung.inside n member).1, le_trans (strung.inside n member).2 high⟩ }

theorem sublist (strung : Strung lo hi ns) (part : ms.Sublist ns) : Strung lo hi ms :=
  ⟨fun n member => strung.each n (part.subset member),
    fun n member => strung.inside n (part.subset member), strung.ordered.sublist part⟩

theorem append (first : Strung lo mid ns) (second : Strung mid' hi ms) (low : lo ≤ mid')
    (between : mid ≤ mid') (high : mid ≤ hi) : Strung lo hi (ns ++ ms) := by
  have first' := first.widen (le_refl lo) high
  have second' := second.widen low (le_refl hi)
  refine ⟨?_, ?_, List.pairwise_append.mpr ⟨first.ordered, second.ordered, ?_⟩⟩
  · intro n member
    exact (List.mem_append.mp member).elim (first.each n) (second.each n)
  · intro n member
    exact (List.mem_append.mp member).elim (first'.inside n) (second'.inside n)
  · intro m before n behind
    exact le_trans (first.inside m before).2 (le_trans between (second.inside n behind).1)

/-- The parts of nodes in a row are nodes in a row. -/
theorem parts (strung : Strung lo hi ns) : Strung lo hi (ns.flatMap (·.parts)) := by
  induction ns generalizing lo with
  | nil => exact nil lo hi
  | cons n ns ih =>
    have nested := strung.each n List.mem_cons_self
    have bounds := strung.inside n List.mem_cons_self
    -- The parts of the first node end before the second node begins, and so before its parts.
    have rest : Strung n.span.stop hi ns := by
      have tail := strung.sublist (List.sublist_cons_self n ns)
      refine { tail with inside := fun m member => ⟨?_, (tail.inside m member).2⟩ }
      exact List.rel_of_pairwise_cons strung.ordered member
    have forth := nested.forth
    exact (nested.strung.widen bounds.1 (le_refl _)).append (ih rest) (by order) (le_refl _)
      bounds.2

end Strung

/-! ## Inputs -/

/-- The tokens of an input come one behind the other, and end at the latest at `hi`. -/
structure Input.Ordered (hi : Position) (i : Input) : Prop where
  first : .first ≤ i.last
  high : i.last ≤ hi
  forward : ∀ t ∈ i.rest, t.Forward
  inside : ∀ t ∈ i.rest, i.last ≤ t.span.start ∧ t.span.stop ≤ hi
  ordered : i.rest.Pairwise fun t u => t.span.stop ≤ u.span.start

theorem Input.Ordered.last_le_start {hi : Position} {i : Input} (ordered : i.Ordered hi) :
    i.last ≤ i.start := by
  unfold Input.start
  split
  · rename_i t ts same
    exact (ordered.inside t (by simp [same])).1
  · exact le_refl _

/-- The tokens of rising characters are an ordered input. -/
theorem ordered_of_scanPlaced {s : Scanner} {cs : List Placed} {ts : List Token} {lo : Position}
    (rising : Rising cs) (first : .first ≤ lo) (least : lo ≤ placeBehind .first cs)
    (low : ∀ c ∈ cs, lo ≤ c.position) (scanned : scanPlaced s cs = some ts) :
    Input.Ordered (placeBehind .first cs) { rest := ts } ∧ ∀ t ∈ ts, lo ≤ t.span.start := by
  obtain ⟨sorted, bounds⟩ := sorted_scanPlaced rising scanned least low
  refine ⟨?_, fun t member => (bounds t member).1⟩
  exact
    { first := le_refl _
      high := le_trans first least
      forward := sorted.forward
      inside := fun t member => ⟨le_trans first (bounds t member).1, (bounds t member).2⟩
      ordered := sorted.ordered }

/-- Nodes from one input up to another. -/
structure Advance (hi : Position) (i : Input) (ns : List Node) (j : Input) : Prop where
  ordered : j.Ordered hi
  last : i.last ≤ j.last
  start : i.start ≤ j.start
  strung : Strung i.start j.last ns

/-- Nodes were read on the way to an input. -/
def Passes (i : Input) (ns : List Node) (j : Input) : Prop :=
  ∀ hi, i.Ordered hi → Advance hi i ns j

/-- Nodes were read on the way to an input, and some text. -/
def Reads (i : Input) (ns : List Node) (j : Input) : Prop :=
  ∀ hi, i.Ordered hi → Advance hi i ns j ∧ i.start < j.last

section

variable {i j k : Input} {n : Node} {ns ms args : List Node} {kind : Kind}

theorem Advance.trans {hi : Position} (first : Advance hi i ns j) (second : Advance hi j ms k) :
    Advance hi i (ns ++ ms) k where
  ordered := second.ordered
  last := le_trans first.last second.last
  start := le_trans first.start second.start
  strung := first.strung.append second.strung first.start first.ordered.last_le_start second.last

theorem Reads.passes (reads : Reads i ns j) : Passes i ns j :=
  fun hi ordered => (reads hi ordered).1

theorem Passes.refl (i : Input) : Passes i [] i :=
  fun _ ordered => ⟨ordered, le_refl _, le_refl _, .nil _ _⟩

theorem Passes.trans (first : Passes i ns j) (second : Passes j ms k) : Passes i (ns ++ ms) k :=
  fun hi ordered => (first hi ordered).trans (second hi (first hi ordered).ordered)

theorem Reads.trans (first : Reads i ns j) (second : Passes j ms k) : Reads i (ns ++ ms) k := by
  intro hi ordered
  obtain ⟨advance, forth⟩ := first hi ordered
  have later := second hi advance.ordered
  exact ⟨advance.trans later, lt_of_lt_of_le forth later.last⟩

theorem Passes.reads (first : Passes i ns j) (second : Reads j ms k) : Reads i (ns ++ ms) k := by
  intro hi ordered
  have advance := first hi ordered
  obtain ⟨later, forth⟩ := second hi advance.ordered
  exact ⟨advance.trans later, lt_of_le_of_lt advance.start forth⟩

theorem Reads.skip (first : Reads i ns j) (second : Passes j [] k) : Reads i ns k := by
  simpa using first.trans second

theorem Passes.skip (first : Passes i ns j) (second : Passes j [] k) : Passes i ns k := by
  simpa using first.trans second

theorem Passes.of_strung (passes : Passes i ns j)
    (strung : ∀ lo hi, Strung lo hi ns → Strung lo hi ms) : Passes i ms j :=
  fun hi ordered => { passes hi ordered with strung := strung _ _ (passes hi ordered).strung }

theorem Reads.of_strung (reads : Reads i ns j)
    (strung : ∀ lo hi, Strung lo hi ns → Strung lo hi ms) : Reads i ms j :=
  fun hi ordered => ⟨reads.passes.of_strung strung hi ordered, (reads hi ordered).2⟩

theorem Passes.drop (passes : Passes i ns j) : Passes i [] j :=
  passes.of_strung fun lo hi _ => .nil lo hi

theorem Reads.drop (reads : Reads i ns j) : Reads i [] j :=
  reads.of_strung fun lo hi _ => .nil lo hi

theorem Passes.parts (passes : Passes i ns j) : Passes i (ns.flatMap (·.parts)) j :=
  passes.of_strung fun _ _ strung => strung.parts

theorem Reads.parts (reads : Reads i ns j) : Reads i (ns.flatMap (·.parts)) j :=
  reads.of_strung fun _ _ strung => strung.parts

/-- A node around nodes that were read, unless it is a call. -/
theorem Reads.node (reads : Reads i ns j) (plain : kind.isCall = false) :
    Reads i [i.upTo j kind ns] j := by
  intro hi ordered
  obtain ⟨advance, forth⟩ := reads hi ordered
  obtain ⟨each, inside, strung⟩ := advance.strung
  have nested : (i.upTo j kind ns).Nested :=
    .node forth each inside strung fun call => by simp [plain] at call
  refine ⟨{ advance with strung := ?_ }, forth⟩
  refine ⟨?_, ?_, List.pairwise_singleton _ _⟩
  · simpa using nested
  · simp [Inside, Input.upTo, Node.span]

theorem Reads.call (function : Reads i [n] j) (behind : Reads j args k) :
    Reads i [i.upTo k .call (n :: args)] k := by
  intro hi ordered
  obtain ⟨first, forth⟩ := function hi ordered
  obtain ⟨second, further⟩ := behind hi first.ordered
  obtain ⟨each, inside, strung⟩ := (first.trans second).strung
  have between := first.ordered.last_le_start
  -- The function ends before the parenthesis that opens, and the arguments begin behind it.
  have parts : CallParts ⟨i.start, k.last⟩ (n :: args) := by
    refine ⟨n, args, rfl, ?_, fun a member => ?_⟩
    · exact lt_of_le_of_lt (le_trans (first.strung.inside n List.mem_cons_self).2 between) further
    · have begins := (second.strung.inside a member).1
      change i.start < a.span.start
      order
  have nested : (i.upTo k .call (n :: args)).Nested :=
    .node (lt_of_lt_of_le forth second.last) each inside strung fun _ => parts
  refine ⟨{ first.trans second with strung := ?_ }, lt_of_lt_of_le forth second.last⟩
  refine ⟨?_, ?_, List.pairwise_singleton _ _⟩
  · simpa using nested
  · simp [Inside, Input.upTo, Node.span]

/-! ## Tokens -/

theorem passes_next {t : Token} (next : i.next? = some (t, j)) : Passes i [] j := by
  obtain ⟨rest, last⟩ := i
  cases rest with
  | nil => cases next
  | cons t ts =>
    cases next
    intro hi ordered
    have forth := (ordered.forward t List.mem_cons_self).le
    have bounds := ordered.inside t List.mem_cons_self
    have later : Input.Ordered hi ⟨ts, t.span.stop⟩ :=
      { first := le_trans ordered.first (le_trans bounds.1 forth)
        high := bounds.2
        forward := fun u member => ordered.forward u (List.mem_cons_of_mem t member)
        inside := fun u member =>
          ⟨List.rel_of_pairwise_cons ordered.ordered member,
            (ordered.inside u (List.mem_cons_of_mem t member)).2⟩
        ordered := ordered.ordered.of_cons }
    refine ⟨later, le_trans bounds.1 forth, le_trans forth later.last_le_start, .nil _ _⟩

theorem reads_next {t : Token} (next : i.next? = some (t, j)) (solid : t.kind.isLayout = false) :
    Reads i [] j := by
  intro hi ordered
  refine ⟨passes_next next hi ordered, ?_⟩
  obtain ⟨rest, last⟩ := i
  cases rest with
  | nil => cases next
  | cons t ts =>
    cases next
    exact (ordered.forward t List.mem_cons_self).lt solid

/-- A token with nodes inside it. -/
theorem reads_inside {t : Token} (next : i.next? = some (t, j)) (solid : t.kind.isLayout = false)
    (strung : .first ≤ t.span.start → t.Forward → Strung t.span.start t.span.stop ns) :
    Reads i ns j := by
  intro hi ordered
  obtain ⟨advance, forth⟩ := reads_next next solid hi ordered
  refine ⟨{ advance with strung := ?_ }, forth⟩
  obtain ⟨rest, last⟩ := i
  cases rest with
  | nil => cases next
  | cons t ts =>
    cases next
    exact strung (le_trans ordered.first (ordered.inside t List.mem_cons_self).1)
      (ordered.forward t List.mem_cons_self)

theorem solid_of_sees {word : String} {t : Token} (sees : i.sees word = true)
    (next : i.next? = some (t, j)) : t.kind.isLayout = false := by
  obtain ⟨rest, last⟩ := i
  cases rest with
  | nil => cases next
  | cons t ts =>
    cases next
    simp only [Input.sees, Bool.and_eq_true, Bool.or_eq_true, beq_iff_eq] at sees
    rcases sees.1 with same | same <;> simp [same, TokenKind.isLayout]

theorem reads_take {word : String} (taken : i.take? word = some j) : Reads i [] j := by
  simp only [Input.take?, Option.ite_none_right_eq_some, Option.map_eq_some_iff, Prod.exists,
    exists_eq_right] at taken
  obtain ⟨sees, t, next⟩ := taken
  exact reads_next next (solid_of_sees sees next)

theorem passes_takeOr (word : String) (i : Input) : Passes i [] ((i.take? word).getD i) := by
  cases taken : i.take? word with
  | none => exact .refl i
  | some j => exact (reads_take taken).passes

theorem reads_takeAny {words : List String} {word : String}
    (taken : i.takeAny? words = some (word, j)) : Reads i [] j := by
  unfold Input.takeAny? at taken
  split at taken
  · rename_i found
    simp only [Option.map_eq_some_iff, Prod.exists, Prod.mk.injEq] at taken
    obtain ⟨t, k, next, -, rfl⟩ := taken
    exact reads_next next (solid_of_sees (List.find?_some found) next)
  · cases taken

theorem passes_takeKind {kind : TokenKind} {t : Token} (taken : i.takeKind? kind = some (t, j)) :
    Passes i [] j := by
  simp only [Input.takeKind?, Option.ite_none_right_eq_some] at taken
  exact passes_next taken.2

theorem reads_takeKind {kind : TokenKind} {t : Token} (solid : kind.isLayout = false)
    (taken : i.takeKind? kind = some (t, j)) : Reads i [] j := by
  simp only [Input.takeKind?, Option.ite_none_right_eq_some] at taken
  obtain ⟨sees, next⟩ := taken
  refine reads_next next ?_
  obtain ⟨rest, last⟩ := i
  cases rest with
  | nil => cases next
  | cons t ts =>
    cases next
    simp only [Input.seesKind, beq_iff_eq] at sees
    rw [sees, solid]

end

/-! ## Readers -/

/-- A choice of what to read first, before something that does not depend on the choice. -/
theorem ite_bind {α β : Type} {c : Prop} [Decidable c] {x y : Option α} {f : α → Option β} :
    (if c then x.bind f else y.bind f) = (if c then x else y).bind f := by
  split <;> rfl

/-- A reader that reads its node. -/
def Sound (r : Reader) : Prop :=
  ∀ ⦃i n j⦄, r i = some (n, j) → Reads i [n] j

section

variable {item : Reader} {i j : Input} {ns : List Node} {comma : Bool}

theorem reads_readItems (sound : Sound item) {fuel : Nat}
    (read : readItems item fuel i = some (ns, comma, j)) : Reads i ns j := by
  induction fuel generalizing i ns comma j with
  | zero => cases read
  | succ fuel ih =>
    simp only [readItems, Option.bind_eq_bind, Option.bind_eq_some_iff, Prod.exists] at read
    obtain ⟨n, k, first, read⟩ := read
    have first := sound first
    split at read
    · cases read
      exact first
    · rename_i behind taken
      have first := first.skip (reads_take taken).passes
      split at read
      · cases read
        exact first
      · rename_i deeper
        cases read
        exact first.trans (ih deeper).passes

theorem exists_items_eq (item : Reader) (i : Input) :
    ∃ fuel, i.items item = readItems item fuel i := by
  cases first : item i with
  | none => exact ⟨1, by simp [Input.items, readItems, first]⟩
  | some r =>
    cases taken : r.2.take? "," with
    | none => exact ⟨1, by simp [Input.items, readItems, first, taken]⟩
    | some behind =>
      exact ⟨behind.rest.length + 1, by simp [Input.items, readItems, first, taken]⟩

theorem reads_items (sound : Sound item) (read : i.items item = some (ns, comma, j)) :
    Reads i ns j := by
  obtain ⟨fuel, same⟩ := exists_items_eq item i
  exact reads_readItems sound (same ▸ read)

theorem passes_readMany (sound : Sound item) (fuel : Nat) (i : Input) :
    Passes i (readMany item fuel i).1 (readMany item fuel i).2 := by
  induction fuel generalizing i with
  | zero => exact .refl i
  | succ fuel ih =>
    unfold readMany
    split
    · exact .refl i
    · rename_i n j read
      exact (sound read).passes.trans (ih j)

theorem passes_many (sound : Sound item) (i : Input) :
    Passes i (i.many item).1 (i.many item).2 := by
  unfold Input.many
  split
  · exact .refl i
  · rename_i n j read
    exact (sound read).passes.trans (passes_readMany sound _ j)

theorem reads_some (sound : Sound item) (read : i.some? item = some (ns, j)) : Reads i ns j := by
  unfold Input.some? Input.many at read
  cases first : item i with
  | none => simp [first] at read
  | some r =>
    simp only [first, Option.some.injEq] at read
    cases read
    exact (sound first).trans (passes_readMany sound _ _)

end

end InlineCheck.Source
