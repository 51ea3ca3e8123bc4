import InlineCheck.Proofs.Source.Statements
import InlineCheck.Source.Label
import Mathlib.Data.List.Pairwise

/-! # Calls by their spans

No two calls of a program have the same span, so that a call is found by its span.

* `callsApart_parse` — the calls of a program have spans of their own.
* `callAt_span` — a call is found by its span.
-/

namespace InlineCheck.Source

namespace Node

theorem mem_allOf_iff {ns : List Node} {m : Node} : m ∈ allOf ns ↔ ∃ n ∈ ns, m ∈ n.all := by
  induction ns with
  | nil => simp [allOf]
  | cons n ns ih => simp [allOf, ih]

theorem mem_all_iff {n m : Node} : m ∈ n.all ↔ m = n ∨ ∃ p ∈ n.parts, m ∈ p.all := by
  cases n
  simp [all, parts, mem_allOf_iff]

/-- Every node of a tree lies inside its root. -/
theorem Nested.of_mem {n m : Node} (nested : n.Nested) (member : m ∈ n.all) :
    m.Nested ∧ n.span.start ≤ m.span.start ∧ m.span.stop ≤ n.span.stop := by
  induction nested with
  | node forth each inside ordered call ih =>
    rcases mem_all_iff.mp member with rfl | ⟨p, part, below⟩
    · exact ⟨.node forth each inside ordered call, le_refl _, le_refl _⟩
    · obtain ⟨nested, start, stop⟩ := ih p part below
      have bounds := inside p part
      exact ⟨nested, le_trans bounds.1 start, le_trans stop bounds.2⟩

end Node

/-- Calls among some nodes are the same if their spans are. -/
def CallsApart (ns : List Node) : Prop :=
  ∀ m ∈ ns, ∀ n ∈ ns, m.kind = .call → n.kind = .call → m.span = n.span → m = n

/-- One of two nodes ends before the other begins. -/
def Node.Disjoint (m n : Node) : Prop :=
  m.span.stop ≤ n.span.start ∨ n.span.stop ≤ m.span.start

instance : Std.Symm Node.Disjoint where
  symm _ _ := Or.symm

/-- Nodes below different ones in a row have different spans. -/
theorem span_ne_of_ordered {ns : List Node} (each : ∀ n ∈ ns, n.Nested)
    (ordered : ns.Pairwise fun m n => m.span.stop ≤ n.span.start) {p q m n : Node} (left : p ∈ ns)
    (right : q ∈ ns) (different : p ≠ q) (below : m ∈ p.all) (below' : n ∈ q.all) :
    m.span ≠ n.span := by
  obtain ⟨nested, start, stop⟩ := (each p left).of_mem below
  obtain ⟨nested', start', stop'⟩ := (each q right).of_mem below'
  have forth := nested.forth
  have forth' := nested'.forth
  have disjoint : ns.Pairwise Node.Disjoint := ordered.imp Or.inl
  intro same
  rw [same] at start stop forth
  rcases disjoint.forall left right different with before | behind
  · order
  · order

theorem callsApart_allOf {ns : List Node} (each : ∀ n ∈ ns, n.Nested)
    (ordered : ns.Pairwise fun m n => m.span.stop ≤ n.span.start)
    (apart : ∀ n ∈ ns, CallsApart n.all) : CallsApart (Node.allOf ns) := by
  intro m first n second call call' same
  obtain ⟨p, left, below⟩ := Node.mem_allOf_iff.mp first
  obtain ⟨q, right, below'⟩ := Node.mem_allOf_iff.mp second
  by_cases alike : p = q
  · subst alike
    exact apart p left m below n below' call call' same
  · exact absurd same (span_ne_of_ordered each ordered left right alike below below')

/-- A call has another span than every node below it. -/
theorem span_ne_of_callParts {span : Span} {parts : List Node} (each : ∀ n ∈ parts, n.Nested)
    (call : CallParts span parts) {n : Node} (below : n ∈ Node.allOf parts) : n.span ≠ span := by
  obtain ⟨function, args, rfl, ends, begin⟩ := call
  obtain ⟨p, part, below⟩ := Node.mem_allOf_iff.mp below
  obtain ⟨-, start, stop⟩ := (each p part).of_mem below
  rintro rfl
  rcases List.mem_cons.mp part with rfl | argument
  · order
  · have behind := begin p argument
    order

theorem callsApart_all {n : Node} (nested : n.Nested) : CallsApart n.all := by
  induction nested with
  | @node kind span parts forth each inside ordered call ih =>
    have below := callsApart_allOf each ordered ih
    have root {m : Node} (deeper : m ∈ Node.allOf parts) (called : kind = .call) : m.span ≠ span :=
      span_ne_of_callParts each (call (by rw [called]; rfl)) deeper
    intro m first n second call call' same
    simp only [Node.all, List.mem_cons] at first second
    -- Both calls lie below the root, or one of them is the root.
    rcases first with rfl | deeper <;> rcases second with rfl | deeper'
    · rfl
    · exact absurd same.symm (root deeper' call)
    · exact absurd same (root deeper call')
    · exact below m deeper n deeper' call call' same

theorem callsApart_parse {text : String} {tree : Node} (parsed : parse text = some tree) :
    CallsApart tree.all := by
  obtain ⟨root, lo, hi, strung⟩ := strung_parse parsed
  have below := callsApart_allOf strung.each strung.ordered fun n member =>
    callsApart_all (strung.each n member)
  obtain ⟨kind, span, parts⟩ := tree
  intro m first n second call call' same
  simp only [Node.all, List.mem_cons] at first second
  rcases first with rfl | deeper
  · simp [show kind = .part from root, Node.kind] at call
  rcases second with rfl | deeper'
  · simp [show kind = .part from root, Node.kind] at call'
  · exact below m deeper n deeper' call call' same

/-- A call of a program is found by its span. -/
theorem callAt_span {text : String} {tree call : Node} (parsed : parse text = some tree)
    (member : call ∈ tree.all) (called : call.kind = .call) :
    callAt tree call.span = some call := by
  cases found : callAt tree call.span with
  | none =>
    have missed := List.find?_eq_none.mp found call member
    simp [called] at missed
  | some n =>
    have fits := List.find?_some found
    simp only [Bool.and_eq_true, decide_eq_true_eq] at fits
    have same := callsApart_parse parsed n (List.mem_of_find?_eq_some found) call member fits.1
      called fits.2
    rw [same]

end InlineCheck.Source
