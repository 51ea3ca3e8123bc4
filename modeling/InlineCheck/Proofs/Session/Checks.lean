import InlineCheck.Proofs.Session.Blocks

/-! # Checks

A check is refused before it has touched anything, or it is recorded everywhere before the reporter
is told of it, and nothing lies in between.

* `Value.ReadsAs` — the text that a description is read as.
* `State.Makes`, `State.Refuses`, `State.Refusal` — the assertion that a check makes, and why it
  makes none.
* `State.Records` — an assertion counted once for each time that a tally is active, and kept once
  with the open block.
* `check_all_or_nothing` — what a check does in each case.
-/

namespace InlineCheck

/-- What the description of a block is read as: null as no text, a text as itself, and bytes as the
text that they encode. -/
inductive Value.ReadsAs : Value → Option String → Prop
  | null : ReadsAs .null none
  | text (s : String) : ReadsAs (.text s) (some s)
  | bytes {bs : List UInt8} {s : String} (decoded : Text.decode bs = .ok s) :
    ReadsAs (.bytes bs) (some s)

theorem readOptionalText_eq_ok_iff {v : Value} {d : Option String} :
    AssertionRecord.readOptionalText v = .ok d ↔ v.ReadsAs d := by
  constructor
  · intro read
    cases v with
    | null => cases read; exact .null
    | text s => cases read; exact .text s
    | bytes bs =>
      cases decoded : Text.decode bs with
      | ok s =>
        simp only [AssertionRecord.readOptionalText, Validation.readText, decoded, Except.map,
          Except.ok.injEq] at read
        rw [← read]
        exact .bytes decoded
      | error _ =>
        simp [AssertionRecord.readOptionalText, Validation.readText, decoded, Except.map] at read
    | _ => cases read
  · intro reads
    cases reads with
    | null => rfl
    | text s => rfl
    | bytes decoded =>
      simp [AssertionRecord.readOptionalText, Validation.readText, decoded, Except.map]

theorem readOptionalText_eq_error {v : Value} (unread : ∀ d, ¬ v.ReadsAs d) :
    ∃ p, AssertionRecord.readOptionalText v = .error p := by
  cases read : AssertionRecord.readOptionalText v with
  | ok d => exact absurd (readOptionalText_eq_ok_iff.mp read) (unread d)
  | error p => exact ⟨p, rfl⟩

namespace State

variable {s : State} {label condition : Value} {a : Assertion}

/-! ## What is made -/

/-- An assertion is what a check makes: the text of its label, the truth of its condition, and what
the description of the open block is read as. -/
structure Makes (s : State) (label condition : Value) (a : Assertion) : Prop where
  text : label.display = .ok a.text
  truth : condition.truth = .holds a.passed
  inside : ∀ b, s.context.block = some b → b.description.ReadsAs a.description
  outside : s.context.block = none → a.description = none

/-- The open block has a description that is neither null, nor text, nor bytes that encode text. -/
def Undescribed (s : State) : Prop :=
  ∃ b, s.context.block = some b ∧ ∀ d, ¬ b.description.ReadsAs d

/-- A check makes no assertion. -/
def Refuses (s : State) (label condition : Value) : Prop :=
  (∃ f, label.display = .error f) ∨ condition.truth = .ambiguous ∨ s.Undescribed

/-- The fault of a check that makes no assertion: the label comes first, then the condition, and the
description last. -/
inductive Refusal (s : State) (label condition : Value) : Fault → Prop
  | label {f : Fault} (textless : label.display = .error f) : Refusal s label condition f
  | condition {text : String} (labelled : label.display = .ok text)
    (ambiguous : condition.truth = .ambiguous) : Refusal s label condition .ambiguousTruth
  | description {text : String} {b : OpenBlock} {p : Validation.Problem}
    (labelled : label.display = .ok text) (decided : condition.truth ≠ .ambiguous)
    (inside : s.context.block = some b)
    (unread : AssertionRecord.readOptionalText b.description = .error p) :
    Refusal s label condition
      (.invalid ⟨"AssertionResult", [⟨"test_description", p, b.description⟩]⟩)

theorem blockDescription_of_outside (outside : s.context.block = none) :
    s.blockDescription = .ok none := by
  simp only [blockDescription, outside]

theorem blockDescription_of_read {b : OpenBlock} {d : Option String}
    (inside : s.context.block = some b) (reads : b.description.ReadsAs d) :
    s.blockDescription = .ok d := by
  simp only [blockDescription, inside, readOptionalText_eq_ok_iff.mpr reads]

theorem blockDescription_of_unread {b : OpenBlock} {p : Validation.Problem}
    (inside : s.context.block = some b)
    (unread : AssertionRecord.readOptionalText b.description = .error p) :
    s.blockDescription =
      .error (.invalid ⟨"AssertionResult", [⟨"test_description", p, b.description⟩]⟩) := by
  simp only [blockDescription, inside, unread]

theorem Makes.assertionOf (made : s.Makes label condition a) :
    s.assertionOf label condition = .ok a := by
  have described : s.blockDescription = .ok a.description := by
    cases block : s.context.block with
    | none => rw [made.outside block, blockDescription_of_outside block]
    | some b => exact blockDescription_of_read block (made.inside b block)
  simp only [State.assertionOf, made.text, Value.decideTruth, made.truth, described]
  rfl

theorem Refusal.assertionOf {f : Fault} (refused : s.Refusal label condition f) :
    s.assertionOf label condition = .error f := by
  cases refused with
  | label textless =>
    simp only [State.assertionOf, textless]
    rfl
  | condition labelled ambiguous =>
    simp only [State.assertionOf, labelled, Value.decideTruth, ambiguous]
    rfl
  | description labelled decided inside unread =>
    cases truth : condition.truth with
    | ambiguous => exact absurd truth decided
    | holds passed =>
      simp only [State.assertionOf, labelled, Value.decideTruth, truth,
        blockDescription_of_unread inside unread]
      rfl

/-- A check that is refused has one of the three faults. -/
theorem Refuses.refusal (refuses : s.Refuses label condition) :
    ∃ f, s.Refusal label condition f := by
  cases labelled : label.display with
  | error f => exact ⟨f, .label labelled⟩
  | ok text =>
    by_cases ambiguous : condition.truth = .ambiguous
    · exact ⟨_, .condition labelled ambiguous⟩
    rcases refuses with ⟨f, textless⟩ | ambiguous' | ⟨b, inside, unread⟩
    · cases labelled.symm.trans textless
    · exact absurd ambiguous' ambiguous
    · obtain ⟨p, problem⟩ := readOptionalText_eq_error unread
      exact ⟨_, .description labelled ambiguous inside problem⟩

/-- Every other check makes an assertion. -/
theorem exists_makes (accepted : ¬ s.Refuses label condition) :
    ∃ a, s.Makes label condition a := by
  obtain ⟨labelled, rest⟩ := not_or.mp accepted
  obtain ⟨decided, described⟩ := not_or.mp rest
  obtain ⟨text, shown⟩ : ∃ text, label.display = .ok text := by
    cases display : label.display with
    | error f => exact absurd ⟨f, display⟩ labelled
    | ok text => exact ⟨text, rfl⟩
  cases truth : condition.truth with
  | ambiguous => exact absurd truth decided
  | holds passed =>
    cases block : s.context.block with
    | none => exact ⟨⟨text, passed, none⟩, shown, truth, by simp [block], fun _ => rfl⟩
    | some b =>
      have read : ∃ d, b.description.ReadsAs d := by
        by_contra unread
        exact described ⟨b, block, not_exists.mp unread⟩
      obtain ⟨d, reads⟩ := read
      refine ⟨⟨text, passed, d⟩, shown, truth, ?_, by simp [block]⟩
      intro b' block'
      cases block.symm.trans block'
      exact reads

theorem Makes.not_refuses (made : s.Makes label condition a) : ¬ s.Refuses label condition := by
  intro refuses
  obtain ⟨f, refused⟩ := refuses.refusal
  cases made.assertionOf.symm.trans refused.assertionOf

/-! ## What is recorded -/

/-- A state differs from another only in one more assertion: it is the last one of the open block,
and it is counted once for each time that a tally is active. -/
structure Records (s : State) (a : Assertion) (t : State) : Prop where
  block : t.context.block = s.context.block.map (OpenBlock.collect [a])
  context : { t.context with block := s.context.block } = s.context
  counters : ∀ id held, (t.tallies.get id).counter held =
    (s.tallies.get id).counter held
      + if a.passed = held then (s.context.active.count id : Int) else 0
  blocks : ∀ id, (t.tallies.get id).blocks = (s.tallies.get id).blocks
  activation : ∀ id, (t.tallies.get id).activation = (s.tallies.get id).activation
  clock : t.clock = s.clock
  contexts : t.contexts = s.contexts
  calls : t.calls = s.calls
  events : t.events = s.events

theorem records_record (s : State) (a : Assertion) : s.Records a (s.record a) where
  block := rfl
  context := rfl
  counters := s.counter_record a
  blocks := s.blocks_record a
  activation := s.activation_record a
  clock := rfl
  contexts := rfl
  calls := rfl
  events := rfl

theorem Makes.check (made : s.Makes label condition a) :
    s.check label condition =
      (((s.record a).call s.reporter (.assertion a)).1.map fun () => a,
        ((s.record a).call s.reporter (.assertion a)).2) := by
  have same : (s.record a).reporter = s.reporter := rfl
  simp only [State.check, made.assertionOf, same]
  rcases (s.record a).call s.reporter (.assertion a) with ⟨_ | _, told⟩ <;> rfl

/-- A check that made its assertion fails only when the reporter does. -/
theorem Makes.check_fails_iff (made : s.Makes label condition a) :
    (∃ e, (s.check label condition).1 = .error e)
      ↔ ∃ f, (s.reporter.respond s.calls (.assertion a)).fault = some f := by
  rw [made.check]
  have heard : (s.record a).calls = s.calls := rfl
  simp only [call_fst, heard]
  cases (s.reporter.respond s.calls (.assertion a)).fault <;> simp [Except.map]

theorem Refusal.check {f : Fault} (refused : s.Refusal label condition f) :
    s.check label condition = (.error (.alone f), s) :=
  check_of_error refused.assertionOf

theorem Refusal.checkHistory {f : Fault} (refused : s.Refusal label condition f) :
    s.checkHistory label condition = [] := by
  simp only [State.checkHistory, refused.assertionOf]

theorem Makes.checkHistory (made : s.Makes label condition a) :
    s.checkHistory label condition =
      [⟨[], .recorded a⟩, ⟨[], .told s.reporter (.assertion a)⟩] := by
  simp only [State.checkHistory, made.assertionOf]

theorem check_fails_iff (s : State) (label condition : Value) :
    (∃ e, (s.check label condition).1 = .error e) ↔ s.Refuses label condition
      ∨ ∃ a f, s.Makes label condition a ∧
          (s.reporter.respond s.calls (.assertion a)).fault = some f := by
  by_cases refuses : s.Refuses label condition
  · obtain ⟨f, refused⟩ := refuses.refusal
    refine iff_of_true ⟨.alone f, ?_⟩ (.inl refuses)
    rw [refused.check]
  · obtain ⟨a, made⟩ := exists_makes refuses
    rw [made.check_fails_iff]
    constructor
    · rintro ⟨f, fails⟩
      exact .inr ⟨a, f, made, fails⟩
    · rintro (refused | ⟨a', f, made', fails⟩)
      · exact absurd refused refuses
      · -- a check makes one assertion only
        cases made.assertionOf.symm.trans made'.assertionOf
        exact ⟨f, fails⟩

end State

/-- For every state, label and condition, and every reporter that does not call back into the
session: the check fails exactly when the label has no text, the condition no truth, the open block
no readable description, or the reporter fails when told. In the first three cases the state is as
before and no reporter is told. In every other case the assertion is recorded first, and the
reporter is told of it once, in the state in which it is recorded. -/
theorem check_all_or_nothing (s : State) (label condition : Value) :
    ((∃ e, (s.check label condition).1 = .error e)
      ↔ (∃ f, label.display = .error f) ∨ condition.truth = .ambiguous ∨ s.Undescribed
        ∨ ∃ a f, s.Makes label condition a
          ∧ (s.reporter.respond s.calls (.assertion a)).fault = some f)
    ∧ (s.Refuses label condition → ∃ f, s.Refusal label condition f
        ∧ s.check label condition = (.error (.alone f), s)
        ∧ s.checkHistory label condition = [])
    ∧ (¬ s.Refuses label condition → ∃ a told, s.Makes label condition a
        ∧ s.Records a told
        ∧ s.check label condition =
          ((told.call s.reporter (.assertion a)).1.map fun () => a,
            (told.call s.reporter (.assertion a)).2)
        ∧ s.checkHistory label condition =
          [⟨[], .recorded a⟩, ⟨[], .told s.reporter (.assertion a)⟩]) := by
  refine ⟨?_, ?_, ?_⟩
  · simpa only [State.Refuses, or_assoc] using s.check_fails_iff label condition
  · intro refuses
    obtain ⟨f, refused⟩ := refuses.refusal
    exact ⟨f, refused, refused.check, refused.checkHistory⟩
  · intro accepted
    obtain ⟨a, made⟩ := State.exists_makes accepted
    exact ⟨a, s.record a, made, s.records_record a, made.check, made.checkHistory⟩

/-- A reporter that is interrupted by every assertion. -/
def interrupted : Reporter where
  className := "Interrupted"
  moduleName := "reports"
  respond _ c :=
    match c with
    | .assertion _ => { fault := some (.raised "KeyboardInterrupt" []) }
    | _ => {}

/-- One tally is active twice, a block named by bytes is open, and the reporter fails when it is
told of an assertion. -/
def burdened : State where
  context :=
    { active := [.named "a", .named "b", .named "a"]
      block := some { description := .bytes [97] }
      reporter := some interrupted }

theorem burdened_records_before_failing :
    ¬ burdened.Refuses (.text "x") (.bool true)
    ∧ (∃ e, (burdened.check (.text "x") (.bool true)).1 = .error e)
    ∧ ((burdened.check (.text "x") (.bool true)).2.tallies.get (.named "a")).passed = 2
    ∧ (burdened.check (.text "x") (.bool true)).2.collected = [⟨"x", true, some "a"⟩]
    ∧ burdened.check (.text "x") (.object .ambiguous none "<obj>")
      = (.error (.alone .ambiguousTruth), burdened) := by
  have made : burdened.Makes (.text "x") (.bool true) ⟨"x", true, some "a"⟩ := by
    refine ⟨rfl, rfl, ?_, nofun⟩
    intro b inside
    cases inside
    exact .bytes rfl
  obtain ⟨fails, -, records⟩ := check_all_or_nothing burdened (.text "x") (.bool true)
  obtain ⟨a, told, made', recorded, checked, -⟩ := records made.not_refuses
  cases made.assertionOf.symm.trans made'.assertionOf
  have counted := recorded.counters (.named "a") true
  refine ⟨made.not_refuses, fails.mpr (.inr (.inr (.inr ⟨_, _, made, rfl⟩))), ?_, ?_, ?_⟩
  · rw [checked]
    exact counted
  · rw [checked]
    show told.collected = _
    rw [State.collected, recorded.block]
    rfl
  · have refuses : burdened.Refuses (.text "x") (.object .ambiguous none "<obj>") :=
      .inr (.inl rfl)
    obtain ⟨f, refused, unchanged, -⟩ :=
      (check_all_or_nothing burdened (.text "x") (.object .ambiguous none "<obj>")).2.1 refuses
    rw [unchanged]
    cases refused with
    | label textless => cases textless
    | condition => rfl
    | description labelled decided => exact absurd rfl decided

/-- A block whose description is no text need not make a check fail: bytes are decoded. -/
theorem byteBlock_check_succeeds :
    (∃ b, (({} : State).setBlock (some { description := .bytes [97] })).context.block = some b
      ∧ ∀ text, b.description ≠ .text text)
    ∧ ((({} : State).setBlock (some { description := .bytes [97] })).check
        (.text "x") (.bool true)).1 = .ok ⟨"x", true, some "a"⟩ :=
  ⟨⟨_, rfl, nofun⟩, rfl⟩

end InlineCheck
