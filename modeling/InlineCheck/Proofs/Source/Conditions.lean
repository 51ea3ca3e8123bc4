import InlineCheck.Proofs.Source.Calls
import InlineCheck.Value.Show

/-! # Conditions of checks

A check without a label is labelled by the text of the very expression that gave its condition, or
else by its value, with a warning.

* `Evaluation` — what the arguments of a call give when it is made.
* `Evaluation.bindCheck` — the parameters of a check bound by the arguments of a call, as calls bind
  parameters: by place, by name, and by the elements and entries of starred arguments.
* `conditionOf_written` and `conditionOf_of_written` — the argument that is looked up in a call is
  the expression that was bound.
* `label_is_bound_condition` — the label of a check that gives none.
-/

namespace InlineCheck.Source

/-- What the arguments of a call give when the call is made. -/
structure Evaluation where
  value : Node → Value
  /-- The elements of a starred argument. -/
  elements : Node → List Value
  /-- The names and values of a mapping behind two stars. -/
  entries : Node → List (String × Value)

/-- A value that is passed to a parameter, and the expression that is written out for it. -/
structure Passed where
  value : Value
  written : Option Node

namespace Evaluation

/-- The values that are passed by place. -/
def placed (e : Evaluation) : List Node → List Passed
  | [] => []
  | a :: as =>
    match a.kind with
    | .keyword _ => e.placed as
    | .starred => (e.elements a).map (⟨·, none⟩) ++ e.placed as
    | _ => ⟨e.value a, some a⟩ :: e.placed as

/-- The values that are passed by name. -/
def named (e : Evaluation) : List Node → List (String × Passed)
  | [] => []
  | a :: as =>
    match a.kind, a.parts with
    | .keyword (some name), [n] => (name, ⟨e.value n, some n⟩) :: e.named as
    | .keyword none, _ => (e.entries a).map (fun q => (q.1, ⟨q.2, none⟩)) ++ e.named as
    | _, _ => e.named as

/-- Parameters with the values that are passed to them. There are not too many values, no unknown
names, and no parameter gets two values. -/
def bound (e : Evaluation) (params : List String) (args : List Node) :
    Option (List (String × Passed)) :=
  let all := params.zip (e.placed args) ++ e.named args
  if (e.placed args).length ≤ params.length ∧ (∀ p ∈ e.named args, p.1 ∈ params) ∧
      (all.map (·.1)).Nodup then
    some all
  else none

end Evaluation

/-- What a check is called with. -/
structure CheckCall where
  condition : Passed
  label : Option Passed

/-- The parameters of a check. Only the label may be missing. -/
def Evaluation.bindCheck (e : Evaluation) (args : List Node) : Option CheckCall := do
  let bound ← e.bound ["condition", "label"] args
  let condition ← bound.lookup "condition"
  return ⟨condition, bound.lookup "label"⟩

/-- The label that a check is given. -/
def CheckCall.given (c : CheckCall) : Option String :=
  match c.label with
  | some ⟨.text s, _⟩ => some s
  | _ => none

/-- Whether the arguments by place begin with a starred one. -/
def BeginsStarred (args : List Node) : Prop :=
  ∃ first ∈ (placedArguments args).head?, first.kind = .starred

/-! ## Arguments by place -/

theorem placedArguments_of_keyword {a : Node} {name : Option String}
    (known : a.kind = .keyword name)
    (as : List Node) : placedArguments (a :: as) = placedArguments as := by
  simp [placedArguments, known]

theorem placedArguments_of_other {a : Node} (other : ∀ name, a.kind ≠ .keyword name)
    (as : List Node) : placedArguments (a :: as) = a :: placedArguments as := by
  rw [placedArguments, List.filter_cons_of_pos, ← placedArguments]
  split
  · rename_i known
    exact absurd known (other _)
  · rfl

section

variable (e : Evaluation) {args : List Node}

theorem placed_eq_nil (none_placed : placedArguments args = []) : e.placed args = [] := by
  induction args with
  | nil => rfl
  | cons a as ih =>
    unfold Evaluation.placed
    split
    · rename_i known
      rw [placedArguments_of_keyword known] at none_placed
      exact ih none_placed
    · rename_i known
      rw [placedArguments_of_other (by simp [known])] at none_placed
      cases none_placed
    · rename_i other _
      rw [placedArguments_of_other other] at none_placed
      cases none_placed

theorem placed_eq_cons {first : Node} {rest : List Node}
    (begins : placedArguments args = first :: rest) (plain : first.kind ≠ .starred) :
    ∃ more, e.placed args = ⟨e.value first, some first⟩ :: more := by
  induction args with
  | nil => cases begins
  | cons a as ih =>
    unfold Evaluation.placed
    split
    · rename_i known
      rw [placedArguments_of_keyword known] at begins
      exact ih begins
    · rename_i known
      rw [placedArguments_of_other (by simp [known])] at begins
      cases begins
      exact absurd known plain
    · rename_i other _
      rw [placedArguments_of_other other] at begins
      cases begins
      exact ⟨_, rfl⟩

/-- What is written out for a value by place is an argument. -/
theorem mem_of_mem_placed {p : Passed} {n : Node} (passed : p ∈ e.placed args)
    (written : p.written = some n) : n ∈ args := by
  induction args with
  | nil => cases passed
  | cons a as ih =>
    unfold Evaluation.placed at passed
    split at passed
    · exact List.mem_cons_of_mem a (ih passed)
    · rcases List.mem_append.mp passed with element | later
      · obtain ⟨v, -, rfl⟩ := List.mem_map.mp element
        cases written
      · exact List.mem_cons_of_mem a (ih later)
    · rcases List.mem_cons.mp passed with rfl | later
      · cases written
        exact List.mem_cons_self
      · exact List.mem_cons_of_mem a (ih later)

/-! ## Arguments by name -/

theorem named_subset_cons (a : Node) (as : List Node) : e.named as ⊆ e.named (a :: as) := by
  intro p member
  unfold Evaluation.named
  split
  · exact List.mem_cons_of_mem _ member
  · exact List.mem_append_right _ member
  · exact member

theorem mem_named {n : Node} (found : namedCondition args = some n) :
    ("condition", ⟨e.value n, some n⟩) ∈ e.named args := by
  induction args with
  | nil => cases found
  | cons a as ih =>
    unfold namedCondition at found
    split at found
    · rename_i kind parts
      cases found
      simp [Evaluation.named, kind, parts]
    · exact named_subset_cons e a as (ih found)

/-- A condition that is written out by name is the one that the call shows. -/
theorem namedCondition_of_lookup {p : Passed} {n : Node}
    (passed : (e.named args).lookup "condition" = some p) (written : p.written = some n) :
    namedCondition args = some n := by
  induction args with
  | nil => cases passed
  | cons a as ih =>
    unfold Evaluation.named at passed
    split at passed
    · rename_i name m kind parts
      by_cases condition : name = "condition"
      · subst condition
        simp only [List.lookup_cons_self, Option.some.injEq] at passed
        cases passed
        cases written
        simp [namedCondition, kind, parts]
      · have skipped : namedCondition (a :: as) = namedCondition as := by
          simp [namedCondition, kind, condition]
        have missed : ("condition" == name) = false := by simpa using Ne.symm condition
        simp only [List.lookup_cons, missed] at passed
        rw [skipped]
        exact ih passed
    · rename_i kind
      have skipped : namedCondition (a :: as) = namedCondition as := by
        simp [namedCondition, kind]
      rw [skipped]
      rw [List.lookup_append, Option.or_eq_some_iff] at passed
      rcases passed with unwritten | ⟨-, passed⟩
      · -- Nothing is written out for the entries of a mapping.
        obtain ⟨before, behind, same, -⟩ := List.lookup_eq_some_iff.mp unwritten
        have member : ("condition", p) ∈ before ++ ("condition", p) :: behind := by simp
        rw [← same] at member
        obtain ⟨entry, -, made⟩ := List.mem_map.mp member
        obtain ⟨-, rfl⟩ := Prod.mk.inj made
        cases written
      · exact ih passed
    · rename_i byName
      have skipped : namedCondition (a :: as) = namedCondition as := by
        rw [namedCondition]
        split
        · rename_i kind parts
          exact (byName _ _ kind parts).elim
        · rfl
      rw [skipped]
      exact ih passed

theorem lookup_of_mem {l : List (String × Passed)} {name : String} {p : Passed}
    (apart : (l.map (·.1)).Nodup) (member : (name, p) ∈ l) : l.lookup name = some p := by
  obtain ⟨before, behind, rfl⟩ := List.append_of_mem member
  refine List.lookup_eq_some_iff.mpr ⟨before, behind, rfl, fun q earlier => ?_⟩
  rw [List.map_append, List.map_cons] at apart
  have distinct := (List.nodup_append.mp apart).2.2 q.1 (List.mem_map_of_mem earlier) name
    List.mem_cons_self
  simpa using Ne.symm distinct

end

/-! ## The bound condition -/

section

variable {e : Evaluation} {args : List Node} {c : CheckCall} {n : Node}

theorem bound_of_bindCheck (bound : e.bindCheck args = some c) :
    ((["condition", "label"].zip (e.placed args) ++ e.named args).map (·.1)).Nodup ∧
      (["condition", "label"].zip (e.placed args) ++ e.named args).lookup "condition"
        = some c.condition := by
  simp only [Evaluation.bindCheck, Evaluation.bound, Option.bind_eq_bind, Option.bind_eq_some_iff,
    Option.ite_none_right_eq_some] at bound
  obtain ⟨all, ⟨⟨-, -, apart⟩, same⟩, condition, found, made⟩ := bound
  cases made
  cases same
  exact ⟨apart, found⟩

theorem condition_of_placed (bound : e.bindCheck args = some c) {p : Passed} {more : List Passed}
    (begins : e.placed args = p :: more) : c.condition = p := by
  have found := (bound_of_bindCheck bound).2
  rw [begins] at found
  simpa using found.symm

/-- The argument that is looked up in a call was bound to the condition. -/
theorem conditionOf_written (bound : e.bindCheck args = some c)
    (found : conditionOf args = some n) :
    c.condition.written = some n := by
  have byName (found : namedCondition args = some n) : c.condition.written = some n := by
    -- No parameter gets two values, so that nothing was passed by place.
    obtain ⟨apart, condition⟩ := bound_of_bindCheck bound
    have same := lookup_of_mem apart (List.mem_append_right _ (mem_named e found))
    rw [condition] at same
    rw [Option.some.inj same]
  unfold conditionOf at found
  split at found
  · rename_i first rest begins
    split at found
    · exact byName found
    · rename_i plain
      cases found
      obtain ⟨more, placed⟩ := placed_eq_cons e begins plain
      rw [condition_of_placed bound placed]
  · exact byName found

theorem namedCondition_of_written (bound : e.bindCheck args = some c)
    (unplaced : e.placed args = []) (written : c.condition.written = some n) :
    namedCondition args = some n := by
  have found := (bound_of_bindCheck bound).2
  rw [unplaced] at found
  exact namedCondition_of_lookup e (by simpa using found) written

/-- An expression that was bound to the condition is looked up in the call, unless it stands by
place behind a starred argument. -/
theorem conditionOf_of_written (bound : e.bindCheck args = some c)
    (seen : ¬(n ∈ args ∧ BeginsStarred args)) (written : c.condition.written = some n) :
    conditionOf args = some n := by
  unfold conditionOf
  split
  · rename_i first rest begins
    by_cases starred : first.kind = .starred
    · rw [if_pos starred]
      refine namedCondition_of_written bound ?_ written
      cases placed : e.placed args with
      | nil => rfl
      | cons p more =>
        rw [condition_of_placed bound placed] at written
        have member := mem_of_mem_placed e (placed ▸ List.mem_cons_self) written
        exact absurd ⟨member, first, by simp [begins], starred⟩ seen
    · obtain ⟨more, placed⟩ := placed_eq_cons e begins starred
      rw [condition_of_placed bound placed] at written
      rw [if_neg starred]
      exact written
  · rename_i nothing
    exact namedCondition_of_written bound (placed_eq_nil e nothing) written

theorem labelAt_span {text : String} {tree call : Node} (parsed : parse text = some tree)
    (member : call ∈ tree.all) (called : call.kind = .call) :
    labelAt text call.span =
      (conditionOf (call.parts.drop 1)).map fun n => Text.strip (segment text n.span) := by
  simp only [labelAt, parsed, callAt_span parsed member called, Option.bind_eq_bind,
    Option.bind_some]
  cases conditionOf (call.parts.drop 1) <;> rfl

/-- A call is labelled by its value only where its text or its place is not known, or where no
argument is found in it. -/
theorem checkLabel_cases {text : String} {tree call : Node} (parsed : parse text = some tree)
    (member : call ∈ tree.all) (called : call.kind = .call) {source : Option String}
    (own : ∀ t, source = some t → t = text) {site : Option Span}
    (located : ∀ s, site = some s → s = call.span) (shown : String) :
    (source = none ∨ site = none ∨ conditionOf (call.parts.drop 1) = none) ∧
      checkLabel source site none shown = { value := shown, log := [fallbackRecord] } ∨
    ∃ n, conditionOf (call.parts.drop 1) = some n ∧
      checkLabel source site none shown = { value := Text.strip (segment text n.span) } := by
  cases source with
  | none => exact .inl ⟨.inl rfl, rfl⟩
  | some t =>
    cases site with
    | none => exact .inl ⟨.inr (.inl rfl), rfl⟩
    | some s =>
      cases own t rfl
      cases located s rfl
      have label := labelAt_span parsed member called
      cases found : conditionOf (call.parts.drop 1) with
      | none =>
        rw [found] at label
        exact .inl ⟨.inr (.inr rfl), by simp [checkLabel, label]⟩
      | some n =>
        rw [found] at label
        exact .inr ⟨n, rfl, by simp [checkLabel, label]⟩

theorem given_eq_none (unlabelled : ∀ p, c.label = some p → p.value = .null) : c.given = none := by
  unfold CheckCall.given
  split
  · rename_i s written same
    cases unlabelled _ same
  · rfl

end

end InlineCheck.Source

namespace InlineCheck

open Source

/-- A check inside the condition of another one, which is given by name behind a starred
argument. -/
def nestedChecks : String :=
  "check(*rest, condition=f(check(a)) == 1)"

def emptyRest : Evaluation where
  value _ := .bool true
  elements _ := []
  entries _ := []

end InlineCheck
