import InlineCheck.Proofs.Session.Course

/-! # Test blocks

What a test block holds when its body has run.

The open block follows a run exactly: whatever the run does, `Course.collects` says that afterwards
the same block is open, with the assertions added that the run recorded in its own thread and
outside every block of its own. A block is therefore built from these assertions and from the way
its body ended, and from nothing else.
-/

namespace InlineCheck

namespace History

/-- The assertions recorded in the same thread and outside every test block, in order. -/
def direct (h : History) : List Assertion :=
  h.select (fun fs => .block ∉ fs ∧ .thread ∉ fs) Happening.assertion?

theorem direct_append (h k : History) : direct (h ++ k) = direct h ++ direct k :=
  select_append _ _ h k

theorem direct_recorded (a : Assertion) : direct [⟨[], .recorded a⟩] = [a] := rfl

theorem direct_tally (id : TallyId) (h : History) : direct (within (.tally id) h) = direct h := by
  unfold direct
  rw [select_within]
  simp

theorem direct_thread (h : History) : direct (within .thread h) = [] := by
  unfold direct
  rw [select_within]
  simp [select_never]

theorem direct_block (h : History) (r : Reporter) (description : Value) (b : Block) :
    direct (⟨[], .told r (.start description)⟩ ::
      (within .block h ++ [⟨[], .completed b⟩, ⟨[], .told r (.complete b)⟩])) = [] := by
  unfold direct
  rw [select_assertions_block]
  simp [select_never]

theorem direct_blockHistory {env : Setting} {description : Value}
    {body : State → Except Raised Unit × State} {inner : State → History} {s : State} :
    direct (blockHistory env description body inner s) = [] := by
  cases named : checkDescription description with
  | error f => rw [blockHistory_of_unnamed named]; rfl
  | ok _ =>
    rcases begins : s.announce env description with ⟨e | _, begun⟩
    · rw [blockHistory_of_refused named begins]; rfl
    · rw [blockHistory_of_begun named begins rfl, direct_block]

end History

/-- An open block with more assertions. -/
def OpenBlock.collect (as : List Assertion) (b : OpenBlock) : OpenBlock :=
  { b with results := b.results ++ as }

@[simp] theorem OpenBlock.collect_nil : OpenBlock.collect [] = id := by
  funext b
  simp [collect]

theorem OpenBlock.collect_append (as bs : List Assertion) :
    OpenBlock.collect (as ++ bs) = OpenBlock.collect bs ∘ OpenBlock.collect as := by
  funext b
  simp [collect]

/-- After a run the same block is open, with the assertions added that were recorded in its thread
and outside every block of the run. -/
theorem Course.collects {allowed : Step → Bool} {s t : State} {h : History}
    (c : Course allowed s h t) :
    t.context.block = s.context.block.map (OpenBlock.collect h.direct) := by
  have nothing : History.direct [] = [] := rfl
  induction c with
  | rest | reach | tell | assign | keep =>
    simp [History.direct, History.select, Happening.assertion?]
  | quiet same => rw [same.context, nothing]; simp
  | enter => rw [State.enter_context_view Context.block fun _ _ => rfl, nothing]; simp
  | leave => rw [State.leave_context_view Context.block fun _ _ => rfl, nothing]; simp
  | record made => rw [History.direct_recorded]; rfl
  | andThen _ _ first second =>
    rw [second, first, History.direct_append, OpenBlock.collect_append, Option.map_map]
  | block description outcome same _ _ =>
    -- the body has collected into a block of its own, which is put away again
    rw [History.direct_block, ← same.context]
    simp [State.keep, State.setBlock]
  | tally _ _ body =>
    rw [State.leave_context_view Context.block fun _ _ => rfl, body,
      State.enter_context_view Context.block fun _ _ => rfl, History.direct_tally]
  | report r _ body => exact body
  | thread _ _ => rw [History.direct_thread]; simp [State.setContext]

/-! ## The block of a body -/

theorem collected_after_body (env : Setting) (body : List Step) (s : State) (description : Value) :
    (runAll env body (s.setBlock (some { description }))).2.collected =
      (historyAll env body (s.setBlock (some { description }))).direct := by
  have collects := (runAll_course env body (everyStep_true body)
    (s.setBlock (some { description }))).collects
  unfold State.collected
  rw [collects]
  simp [State.setBlock, OpenBlock.collect]

theorem faultOf_isSome_iff {outcome : Except Raised Unit} :
    (faultOf outcome).isSome ↔ ∃ e, outcome = .error e := by
  cases outcome <;> simp [faultOf]

theorem faultOf_eq_none_iff {outcome : Except Raised Unit} :
    faultOf outcome = none ↔ outcome = .ok () := by
  cases outcome <;> simp [faultOf]

namespace Block

theorem statusOf_eq_error_iff {results : List Assertion} {fault : Option Fault} :
    statusOf results fault = .error ↔ fault.isSome := by
  unfold statusOf
  cases fault with
  | some f => simp
  | none => cases results.any (!·.passed) <;> simp

theorem statusOf_eq_failed_iff {results : List Assertion} {fault : Option Fault} :
    statusOf results fault = .failed ↔ fault = none ∧ ∃ a ∈ results, a.passed = false := by
  unfold statusOf
  cases fault <;> simp

theorem statusOf_eq_passed_iff {results : List Assertion} {fault : Option Fault} :
    statusOf results fault = .passed ↔ fault = none ∧ ∀ a ∈ results, a.passed = true := by
  unfold statusOf
  cases fault <;> simp

theorem passed_add_failed (b : Block) : b.passed + b.failed = b.results.length := by
  have split := List.length_eq_countP_add_countP (fun a : Assertion => a.passed) (l := b.results)
  simpa [Block.passed, Block.failed] using split.symm

/-- A block tells what its body did: it holds what the body recorded in its own thread and outside
every block inside it, and its status is that of the body's end and of these assertions. -/
structure Reports (b : Block) (description : Value) (h : History) (outcome : Except Raised Unit) :
    Prop where
  description : b.description = description
  results : b.results = h.direct
  fault : b.fault = faultOf outcome
  error : b.status = .error ↔ ∃ e, outcome = .error e
  failed : b.status = .failed ↔ outcome = .ok () ∧ ∃ a ∈ b.results, a.passed = false
  passed : b.status = .passed ↔ outcome = .ok () ∧ ∀ a ∈ b.results, a.passed = true
  passedCount : b.passed = b.results.countP (·.passed)
  failedCount : b.failed = b.results.countP (!·.passed)
  partition : b.passed + b.failed = b.results.length

theorem ofBody_reports {description : Value} {began : Nat} {outcome : Except Raised Unit}
    {s : State} {h : History} (collected : s.collected = h.direct) :
    (ofBody description began outcome s).Reports description h outcome where
  description := rfl
  results := collected
  fault := rfl
  error := statusOf_eq_error_iff.trans faultOf_isSome_iff
  failed := statusOf_eq_failed_iff.trans (and_congr_left' faultOf_eq_none_iff)
  passed := statusOf_eq_passed_iff.trans (and_congr_left' faultOf_eq_none_iff)
  passedCount := rfl
  failedCount := rfl
  partition := passed_add_failed _

end Block

/-- Running a test leaves the enclosing block as it was. -/
theorem runTest_keeps_open_block (env : Setting) (s : State) (description : Value)
    (body : List Step) :
    ((Step.runTest description body).run env s).2.context.block = s.context.block := by
  have collects := (Step.run_course env (.runTest description body)
    (everyStep_true body) s).collects
  have nothing : ((Step.runTest description body).history env s).direct = [] :=
    History.direct_blockHistory
  rw [collects, nothing, OpenBlock.collect_nil, Option.map_id_fun, id]

/-- For every state, every description that is true and every body: either the reporter refuses the
block, and then no body is run and no block is built, or one block is built, kept by the tallies
active after the body and told to the reporter, that reports the body. The enclosing block is as it
was in either case. -/
theorem runTest_block_reports_body (env : Setting) (s : State) (description : Value)
    (body : List Step) (truthy : description.decideTruth = .ok true) :
    ((∃ e begun, s.announce env description = (.error e, begun)
        ∧ (Step.runTest description body).run env s = (.error e, begun)
        ∧ (Step.runTest description body).history env s =
          [⟨[], .told s.reporter (.start description)⟩])
      ∨ ∃ begun b, s.announce env description = (.ok (), begun)
        ∧ b.Reports description
          (historyAll env body (begun.setBlock (some { description })))
          (runAll env body (begun.setBlock (some { description }))).1
        ∧ (Step.runTest description body).run env s =
          silent (((runAll env body (begun.setBlock (some { description }))).2.setBlock
            s.context.block).complete s.reporter b
              (runAll env body (begun.setBlock (some { description }))).1)
        ∧ (Step.runTest description body).history env s =
          ⟨[], .told s.reporter (.start description)⟩ ::
            (History.within .block (historyAll env body (begun.setBlock (some { description })))
              ++ [⟨[], .completed b⟩, ⟨[], .told s.reporter (.complete b)⟩]))
    ∧ ((Step.runTest description body).run env s).2.context.block = s.context.block := by
  have named : checkDescription description = .ok () := by
    rw [checkDescription, truthy]
    rfl
  have books : (s.announce env description).2.context.block = s.context.block := rfl
  refine ⟨?_, runTest_keeps_open_block env s description body⟩
  rcases begins : s.announce env description with ⟨e | _, begun⟩
  -- a reporter that fails at the start ends everything before the body
  · refine .inl ⟨e, begun, rfl, ?_, blockHistory_of_refused named begins⟩
    simp only [Step.run, runBlock_of_refused named begins]
    rfl
  · rw [begins] at books
    refine .inr ⟨begun, _, rfl,
      Block.ofBody_reports (collected_after_body env body begun description),
      ?_, blockHistory_of_begun named begins rfl⟩
    simp only [Step.run, runBlock_of_begun named begins]
    rw [books]

/-- A body with a failing block, a failing thread and a caught fault inside. -/
def quietBody : List Step :=
  [.assertion (.text "first") (.bool true),
    .runTest (.text "inner") [.assertion (.text "inside") (.bool false)],
    .thread [.assertion (.text "elsewhere") (.bool false)],
    .attempt [.tally "t" [.check (.bool true) (.text "second"), .fail "KeyboardInterrupt" []]]]

theorem quietBody_block :
    (Value.text "outer").decideTruth = .ok true
    ∧ ∃ b, ⟨[], .completed b⟩ ∈ (Step.runTest (.text "outer") quietBody).history {} {}
      ∧ b.results = [⟨"first", true, some "outer"⟩, ⟨"second", true, some "outer"⟩]
      ∧ b.status = .passed := by
  have truthy : (Value.text "outer").decideTruth = .ok true := rfl
  refine ⟨truthy, ?_⟩
  rcases (runTest_block_reports_body {} {} (.text "outer") quietBody truthy).1 with
    ⟨e, begun, refused, _⟩ | ⟨begun, b, begins, reports, _, history⟩
  · cases congrArg Prod.fst refused
  · cases congrArg Prod.snd begins
    have own : b.results = [⟨"first", true, some "outer"⟩, ⟨"second", true, some "outer"⟩] := by
      rw [reports.results]
      decide +kernel
    refine ⟨b, by rw [history]; simp, own, reports.passed.mpr ⟨?_, by rw [own]; simp⟩⟩
    exact faultOf_eq_none_iff.mp (Option.isNone_iff_eq_none.mp (by decide +kernel))

end InlineCheck
