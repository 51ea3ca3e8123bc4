import InlineCheck.Proofs.Session.Calls

/-! # Blocks as brackets

The order in which a thread calls its reporters.

* `Bracketed` — calls in which blocks begin and end like brackets, each pair told to one reporter,
  and every assertion carries the description of the innermost block that is open.
* `historyAll_bracketed` — the calls of a thread are bracketed, whatever leaves its blocks, as long
  as no reporter fails when a block begins.

An assertion carries the description as text, and bytes are decoded: the one way in which it can
differ from what the reporter was told when the block began.
-/

namespace InlineCheck

/-- Calls in which blocks begin and end like brackets: what begins is told to be done to the same
reporter, under the same description, and all that began in between is done by then. An assertion
carries what `carries` says about the innermost open block, if there is one. -/
inductive Bracketed (carries : Assertion → Option Value → Prop) :
    Option Value → List (Reporter × Call) → Prop where
  | nil {opened : Option Value} : Bracketed carries opened []
  | assertion {opened : Option Value} {r : Reporter} {a : Assertion} {cs : List (Reporter × Call)} :
      carries a opened → Bracketed carries opened cs →
      Bracketed carries opened ((r, .assertion a) :: cs)
  | block {opened : Option Value} {r : Reporter} {b : Block} {inner cs : List (Reporter × Call)} :
      Bracketed carries (some b.description) inner → Bracketed carries opened cs →
      Bracketed carries opened ((r, .start b.description) :: (inner ++ (r, .complete b) :: cs))

theorem Bracketed.append {carries : Assertion → Option Value → Prop} {opened : Option Value}
    {cs ds : List (Reporter × Call)} (first : Bracketed carries opened cs)
    (second : Bracketed carries opened ds) : Bracketed carries opened (cs ++ ds) := by
  induction first with
  | nil => exact second
  | assertion carried _ ih => exact .assertion carried (ih second)
  | block inside _ _ ih =>
    rw [List.cons_append, List.append_assoc]
    exact .block inside (ih second)

/-- The first assertion in a block carries what `carries` says about that block. -/
theorem Bracketed.carries_first {carries : Assertion → Option Value → Prop} {opened : Option Value}
    {r r' : Reporter} {description : Value} {a : Assertion} {cs : List (Reporter × Call)}
    (bracketed : Bracketed carries opened ((r, .start description) :: (r', .assertion a) :: cs)) :
    carries a (some description) := by
  generalize rest : (r', Call.assertion a) :: cs = later at bracketed
  cases bracketed with
  | block inside _ =>
    cases inside with
    | nil => cases rest
    | assertion carried _ =>
      cases rest
      exact carried
    | block _ _ => cases rest

/-! ## Descriptions -/

/-- An assertion carries the description of the open block as text, and none when no block is
open. -/
def Assertion.Describes (a : Assertion) : Option Value → Prop
  | none => a.description = none
  | some d => ∃ text, Validation.readText d = .ok text ∧ a.description = some text

namespace State

/-- The description of the open block. -/
def opened (s : State) : Option Value :=
  s.context.block.map (·.description)

theorem blockDescription_of_made {s : State} {label condition : Value} {a : Assertion}
    (made : s.assertionOf label condition = .ok a) : s.blockDescription = .ok a.description := by
  unfold assertionOf at made
  cases text : label.display with
  | error f => simp [text, bind, Except.bind] at made
  | ok text' =>
    cases truth : condition.decideTruth with
    | error f => simp [text, truth, bind, Except.bind] at made
    | ok passed =>
      cases described : s.blockDescription with
      | error f => simp [text, truth, described, bind, Except.bind] at made
      | ok description =>
        simp only [text, truth, described, bind, Except.bind, pure, Except.pure,
          Except.ok.injEq] at made
        rw [← made]

theorem readOptionalText_of_ne_null {d : Value} (some : d ≠ .null) :
    AssertionRecord.readOptionalText d = (Validation.readText d).map .some := by
  cases d with
  | null => exact absurd rfl some
  | _ => rfl

theorem describes_of_made {s : State} (named : s.opened ≠ some .null) {label condition : Value}
    {a : Assertion} (made : s.assertionOf label condition = .ok a) : a.Describes s.opened := by
  have described := blockDescription_of_made made
  unfold blockDescription at described
  unfold opened at named ⊢
  cases block : s.context.block with
  | none =>
    rw [block] at described
    exact (Except.ok.inj described).symm
  | some b =>
    rw [block] at described named
    have some : b.description ≠ .null := fun null => named (by simp [null])
    simp only [readOptionalText_of_ne_null some] at described
    cases read : Validation.readText b.description with
    | error p => simp [read, Except.map] at described
    | ok text =>
      simp only [read, Except.map, Except.ok.injEq] at described
      exact ⟨text, read, described.symm⟩

end State

theorem Course.opened {allowed : Step → Bool} {s t : State} {h : History}
    (c : Course allowed s h t) : t.opened = s.opened := by
  unfold State.opened
  rw [c.collects, Option.map_map]
  rfl

/-- A step that does not call a reporter directly. -/
def Step.unprompted : Step → Bool
  | .tell _ | .summary _ => false
  | _ => true

/-! ## Beginnings -/

/-- The reporter that was told of a beginning, and the description. -/
def Happening.start? : Happening → Option (Reporter × Value)
  | .told r (.start description) => some (r, description)
  | _ => none

namespace History

/-- The beginnings of blocks that reporters are told of. -/
def starts (h : History) : List (Reporter × Value) :=
  h.select (fun _ => true) Happening.start?

/-- The reporters that are told of a block that begins never fail then, whatever they were told
before. -/
def BeginsWell (h : History) : Prop :=
  ∀ start ∈ h.starts, ∀ earlier, (start.1.respond earlier (.start start.2)).fault = none

theorem beginsWell_append {h k : History} :
    BeginsWell (h ++ k) ↔ BeginsWell h ∧ BeginsWell k := by
  rw [BeginsWell, starts, select_append]
  exact List.forall_mem_append

theorem beginsWell_within {f : Frame} {h : History} (begins : BeginsWell (within f h)) :
    BeginsWell h := by
  rwa [BeginsWell, starts, select_within] at begins

theorem Part.beginsWell {h k : History} (part : h.Part k) (begins : BeginsWell k) :
    BeginsWell h := by
  intro start member
  obtain ⟨o, inside, begin⟩ := List.mem_filterMap.mp member
  obtain ⟨o', found, same⟩ := part o inside
  rw [← same] at begin
  exact begins start (List.mem_filterMap.mpr ⟨o', found, begin⟩)

end History

/-- A reporter that does not fail lets the block begin. -/
theorem State.announce_of_calm {s : State} {description : Value}
    (calm : ∀ earlier, (s.reporter.respond earlier (.start description)).fault = none)
    (env : Setting) : ∃ begun, s.announce env description = (.ok (), begun) := by
  refine ⟨(s.announce env description).2, ?_⟩
  have fine : (s.announce env description).1 = .ok () := by
    rw [announce, call_fst, calm]
  rw [← fine]

/-! ## Threads -/

namespace History

theorem calls_append (h k : History) : calls (h ++ k) = calls h ++ calls k :=
  onMain_append 0 Happening.call? h k

theorem calls_tally (id : TallyId) (h : History) : calls (within (.tally id) h) = calls h :=
  onMain_tally 0 Happening.call? id h

theorem calls_thread (h : History) : calls (within .thread h) = [] :=
  onMain_thread 0 Happening.call? h

theorem calls_block (h : History) (r : Reporter) (description : Value) (b : Block) :
    calls (⟨[], .told r (.start description)⟩ ::
        (within .block h ++ [⟨[], .completed b⟩, ⟨[], .told r (.complete b)⟩]))
      = (r, .start description) :: (calls h ++ [(r, .complete b)]) := by
  have inside : calls (within .block h) = calls h := onMain_block 0 Happening.call? h
  rw [← List.singleton_append, calls_append, calls_append, inside]
  rfl

end History

theorem checkHistory_bracketed {s : State} (named : s.opened ≠ some .null)
    (label condition : Value) :
    Bracketed Assertion.Describes s.opened (s.checkHistory label condition).calls := by
  unfold State.checkHistory
  cases made : s.assertionOf label condition with
  | error f => exact .nil
  | ok a => exact .assertion (State.describes_of_made named made) .nil

/-- A description that may name a block is not null. -/
theorem ne_null_of_checkDescription {description : Value}
    (named : checkDescription description = .ok ()) : description ≠ .null := by
  rintro rfl
  cases named

theorem blockHistory_bracketed {env : Setting} {description : Value}
    {body : State → Except Raised Unit × State} {inner : State → History} {s : State}
    (begins : (blockHistory env description body inner s).BeginsWell)
    (inside : ∀ p : State, p.opened = some description → description ≠ .null →
      (inner p).BeginsWell →
      Bracketed Assertion.Describes (some description) (inner p).calls) :
    Bracketed Assertion.Describes s.opened (blockHistory env description body inner s).calls := by
  cases named : checkDescription description with
  | error f =>
    rw [blockHistory_of_unnamed named]
    exact .nil
  | ok _ =>
    rcases announced : s.announce env description with ⟨e | _, begun⟩
    · -- the reporter was told that the block begins, and did not fail
      rw [blockHistory_of_refused named announced] at begins
      have calm := begins (s.reporter, description) List.mem_cons_self
      obtain ⟨begun', begun_ok⟩ := State.announce_of_calm calm env
      rw [announced] at begun_ok
      cases begun_ok
    · rw [blockHistory_of_begun named announced rfl] at begins ⊢
      rw [← List.singleton_append, History.beginsWell_append, History.beginsWell_append] at begins
      have nested := inside _ rfl (ne_null_of_checkDescription named)
        (History.beginsWell_within begins.2.1)
      rw [History.calls_block]
      exact .block (b := .ofBody description _ _ _) nested .nil

mutual
theorem Step.history_bracketed (env : Setting) (step : Step)
    (ok : step.every Step.unprompted = true) (s : State) (named : s.opened ≠ some .null)
    (begins : (step.history env s).BeginsWell) :
    Bracketed Assertion.Describes s.opened (step.history env s).calls := by
  cases step with
  | assertion label condition => exact checkHistory_bracketed named label condition
  | check condition label => exact checkHistory_bracketed named label condition
  | runTest description body =>
    refine blockHistory_bracketed begins fun p opened some well => ?_
    have named : p.opened ≠ .some .null := by simpa [opened] using some
    rw [← opened]
    exact historyAll_bracketed env body ok p named well
  | runDemanding description =>
    rw [Step.history] at begins ⊢
    exact blockHistory_bracketed begins fun _ _ _ _ => .nil
  | attempt steps => exact historyAll_bracketed env steps ok s named begins
  | tally name steps =>
    rw [Step.history, tallyHistory] at begins ⊢
    have kept : (s.enter (.named name)).2.opened = s.opened :=
      congrArg (Option.map OpenBlock.description)
        (s.enter_context_view Context.block (fun _ _ => rfl) _)
    rcases enters : s.enter (.named name) with ⟨_ | _, inside⟩
    · exact .nil
    · rw [enters] at begins kept
      rw [History.calls_tally, ← kept]
      rw [← kept] at named
      exact historyAll_bracketed env steps ok inside named (History.beginsWell_within begins)
  | summary name => cases ok
  | tell c => cases ok
  | report choice steps =>
    rw [Step.history] at begins ⊢
    cases resolves : choice.resolve env with
    | error f => exact .nil
    | ok r =>
      rw [resolves] at begins
      exact historyAll_bracketed env steps ok (s.setReporter (some r)) named begins
  | thread steps =>
    rw [Step.history, History.calls_thread]
    exact .nil
  | _ => exact .nil

theorem historyAll_bracketed (env : Setting) (steps : List Step)
    (ok : everyStep Step.unprompted steps = true) (s : State) (named : s.opened ≠ some .null)
    (begins : (historyAll env steps s).BeginsWell) :
    Bracketed Assertion.Describes s.opened (historyAll env steps s).calls := by
  cases steps with
  | nil => exact .nil
  | cons step steps =>
    simp only [everyStep, Bool.and_eq_true] at ok
    rcases ran : step.run env s with ⟨e | reply, t⟩
    · rw [historyAll_of_failed ran, History.beginsWell_append] at begins
      rw [historyAll_of_failed ran, History.calls_append]
      exact Step.history_bracketed env step ok.1 s named begins.2
    · rw [historyAll_of_finished ran, History.beginsWell_append,
        History.beginsWell_append] at begins
      rw [historyAll_of_finished ran, History.calls_append, History.calls_append]
      have first := Step.history_bracketed env step ok.1 s named begins.2.1
      -- after the step the same block is open, whatever happened inside the step
      have same := (Step.run_course env step ok.1 s).opened
      rw [ran] at same
      have kept : (t.emit [.finished step.name reply]).opened = s.opened := same
      have later := historyAll_bracketed env steps ok.2 _ (by rwa [kept]) begins.2.2
      rw [kept] at later
      exact first.append later
end

/-- A reporter that writes nothing and fails with a fault of its own from the second call on, but
for beginnings. -/
def faltering (fault : Fault) : Reporter where
  className := "Faltering"
  moduleName := "reports"
  respond earlier c :=
    match earlier, c with
    | [], _ | _, .start _ => {}
    | _, _ => { fault := some fault }

/-- Two reporters that fail, the inner one when it is told of an assertion and when its block is
done, the outer one after that, and a thread between their calls. -/
def failingReports : List Step :=
  [.report (.given (faltering (.raised "KeyboardInterrupt" [])))
    [.runTest (.text "outer")
      [.report (.given (faltering (.own "Unheard" "" true)))
        [.attempt [.runTest (.text "inner") [.assertion (.text "first") (.bool true)]]],
        .thread [.assertion (.text "aside") (.bool true)],
        .check (.bool false) (.text "second"),
        .surroundings]]]

/-- A block whose description is bytes. -/
def byteNamed : List Step :=
  [.runTest (.bytes [97]) [.assertion (.text "x") (.bool true)]]

end InlineCheck
