import InlineCheck.Proofs.Session.Course

/-! # Runs in progress

What has happened when a run comes to one of its points.

`Underway allowed s h p` holds when a run from `s` has come to `p` with the history `h` so far: some
parts of it are over, and the scopes around the point are still open. `Course.underway` finds such a
run in progress at every state that a history reaches, so a law of all points is an induction over
six cases, in which the parts that are over are courses.
-/

namespace InlineCheck

/-- A run from a state has come to a state, with a history so far. -/
inductive Underway (allowed : Step → Bool) : State → History → State → Prop where
  | here (s : State) : Underway allowed s [] s
  | andThen {s t p : State} {h k : History} :
      Course allowed s h t → Underway allowed t k p → Underway allowed s (h ++ k) p
  | block {s begun p : State} {h : History} (description : Value) :
      SameBooks s begun →
      Underway allowed (begun.setBlock (some { description })) h p →
      Underway allowed s
        (⟨[], .told s.reporter (.start description)⟩ :: History.within .block h) p
  | tally {s p : State} {h : History} {name : String} :
      (s.enter (.named name)).1 = .ok () →
      Underway allowed (s.enter (.named name)).2 h p →
      Underway allowed s (History.within (.tally (.named name)) h) p
  | report {s p : State} {h : History} (r : Reporter) :
      Underway allowed (s.setReporter (some r)) h p → Underway allowed s h p
  | thread {s p : State} {h : History} :
      Underway allowed s.fork h p → Underway allowed s (History.within .thread h) p

/-! ## Places in a history -/

namespace History

theorem append_eq_split {h k before after : History} {o : Occurrence}
    (split : h ++ k = before ++ o :: after) :
    (∃ rest, h = before ++ o :: rest) ∨ ∃ rest, before = h ++ rest ∧ k = rest ++ o :: after := by
  rcases List.append_eq_append_iff.mp split with ⟨rest, whole, later⟩ | ⟨rest, whole, later⟩
  · exact .inr ⟨rest, whole, later⟩
  · cases rest with
    | nil =>
      -- the place is the first one of the second part
      exact .inr ⟨[], by simpa using whole.symm, by simpa using later.symm⟩
    | cons first rest =>
      obtain ⟨rfl, -⟩ := List.cons.inj later
      exact .inl ⟨rest, whole⟩

theorem within_eq_split {f : Frame} {h before after : History} {o : Occurrence}
    (split : within f h = before ++ o :: after) :
    ∃ earlier fs x later, before = within f earlier ∧ o = ⟨f :: fs, x⟩
      ∧ h = earlier ++ ⟨fs, x⟩ :: later := by
  obtain ⟨earlier, rest, rfl, first, second⟩ := List.map_eq_append_iff.mp split
  obtain ⟨⟨fs, x⟩, later, rfl, same, -⟩ := List.map_eq_cons_iff.mp second
  exact ⟨earlier, fs, x, later, first.symm, same.symm, rfl⟩

end History

/-- A run that reaches a state has come to it with the history before. -/
theorem Course.underway {allowed : Step → Bool} {s t : State} {h : History}
    (c : Course allowed s h t) : ∀ {before after : History} {fs : List Frame} {p : State},
      h = before ++ ⟨fs, .reached p⟩ :: after → Underway allowed s before p := by
  induction c with
  | rest | quiet | enter | leave | assign | keep =>
    intro before after fs p split
    simp at split
  | tell | record =>
    intro before after fs p split
    cases before <;> simp at split
  | reach s =>
    intro before after fs p split
    cases before with
    | nil =>
      obtain ⟨same, -⟩ := List.cons.inj split
      cases same
      exact .here s
    | cons o before => simp at split
  | andThen first _ ihFirst ihSecond =>
    intro before after fs p split
    rcases History.append_eq_split split with ⟨rest, early⟩ | ⟨rest, rfl, late⟩
    · exact ihFirst early
    · exact .andThen first (ihSecond late)
  | block description outcome same _ body =>
    intro before after fs p split
    cases before with
    | nil =>
      obtain ⟨other, -⟩ := List.cons.inj split
      cases other
    | cons o before =>
      obtain ⟨rfl, begun⟩ := List.cons.inj split
      rcases History.append_eq_split begun with ⟨rest, inside⟩ | ⟨rest, -, ending⟩
      · obtain ⟨earlier, gs, x, later, rfl, same', whole⟩ := History.within_eq_split inside
        cases same'
        exact .block description same (body whole)
      · -- neither the completion of a block nor what is told about it reaches a state
        have member : (⟨fs, .reached p⟩ : Occurrence) ∈ rest ++ ⟨fs, .reached p⟩ :: after := by simp
        rw [← ending] at member
        simp at member
  | tally enters _ body =>
    intro before after fs p split
    obtain ⟨earlier, gs, x, later, rfl, same, whole⟩ := History.within_eq_split split
    cases same
    exact .tally enters (body whole)
  | report r _ body => exact fun split => .report r (body split)
  | thread _ body =>
    intro before after fs p split
    obtain ⟨earlier, gs, x, later, rfl, same, whole⟩ := History.within_eq_split split
    cases same
    exact .thread (body whole)

end InlineCheck
