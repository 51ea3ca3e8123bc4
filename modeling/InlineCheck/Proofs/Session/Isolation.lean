import InlineCheck.Proofs.Session.Nesting
import InlineCheck.Proofs.Session.Oversight
import InlineCheck.Proofs.Session.Progress

/-! # Threads are isolated

What steps that run in a thread can reach outside of it.

A thread has a context of its own, in which nothing is active. It can leave a tally that was entered
elsewhere, but that brings nothing back: only an exit in the context of the entry does. So whatever
is ever active in a thread was entered by the thread itself.

* `State.Numbered` — every activation is of a context that there has been. All runs keep it, so the
  context of a thread is new.
* `State.Lacks` — a tally is not active in contexts of a kind, and no exit there makes it so.
* `runAll_avoids` — steps that do not enter a tally in such contexts keep this, and if they do not
  name it at all they leave it as it is.
-/

namespace InlineCheck

/-! ## Contexts are new -/

/-- Contexts are numbered in order: the present one, and those that tallies remember, are among the
ones that there have been. -/
structure State.Numbered (s : State) : Prop where
  here : s.context.id < s.contexts
  saved : ∀ id a, (s.tallies.get id).activation = some a → a.context < s.contexts

namespace State.Numbered

variable {s t : State}

theorem of_sameActivation (numbered : s.Numbered) (same : SameActivation s t)
    (more : s.contexts ≤ t.contexts) : t.Numbered where
  here := Nat.lt_of_lt_of_le (same.id ▸ numbered.here) more
  saved id a found := Nat.lt_of_lt_of_le (numbered.saved id a (same.activation id ▸ found)) more

theorem enter (numbered : s.Numbered) (id : TallyId) : (s.enter id).2.Numbered := by
  rcases s.enter_cases id with ⟨_, refused⟩ | ⟨_, enters⟩
  · rwa [refused]
  · rw [enters]
    refine ⟨numbered.here, fun id' a found => ?_⟩
    by_cases same : id = id'
    · subst same
      rw [s.activation_entered_self] at found
      cases found
      exact numbered.here
    · rw [s.get_entered_of_ne same] at found
      exact numbered.saved id' a found

theorem leave (numbered : s.Numbered) (id : TallyId) : (s.leave id).2.Numbered := by
  have released : (s.released id).Numbered := by
    refine ⟨numbered.here, fun id' a found => ?_⟩
    by_cases same : id = id'
    · subst same
      rw [s.activation_released_self] at found
      cases found
    · rw [s.get_released_of_ne same] at found
      exact numbered.saved id' a found
  rcases s.leave_cases id with ⟨_, idle⟩ | ⟨_, _, restored⟩ | ⟨_, _, _, foreign⟩
  · rwa [idle]
  · rw [restored]
    exact ⟨released.here, released.saved⟩
  · rwa [foreign]

theorem fork (numbered : s.Numbered) : s.fork.Numbered where
  here := Nat.lt_succ_self _
  saved id a found := Nat.lt_succ_of_lt (numbered.saved id a found)

theorem setBlock (numbered : s.Numbered) (same : SameBooks s t) (b : Option OpenBlock) :
    (t.setBlock b).Numbered := by
  have inside := numbered.of_sameActivation (.of_books same) (Nat.le_of_eq same.contexts.symm)
  exact ⟨inside.here, inside.saved⟩

end State.Numbered

section Courses

variable {allowed : Step → Bool} {s t : State} {h : History}

theorem Course.contexts_le (c : Course allowed s h t) : s.contexts ≤ t.contexts := by
  have entered (s : State) (id : TallyId) : (s.enter id).2.contexts = s.contexts := by
    rcases s.enter_cases id with ⟨_, same⟩ | ⟨_, same⟩ <;> rw [same]
    rfl
  have left (s : State) (id : TallyId) : (s.leave id).2.contexts = s.contexts := by
    rcases s.leave_cases id with ⟨_, same⟩ | ⟨_, _, same⟩ | ⟨_, _, _, same⟩ <;> rw [same] <;> rfl
  induction c with
  | rest | reach | tell | record | assign | keep => exact Nat.le_refl _
  | andThen _ _ first second => exact Nat.le_trans first second
  | quiet same => exact Nat.le_of_eq same.contexts.symm
  | enter => exact Nat.le_of_eq (entered ..).symm
  | leave => exact Nat.le_of_eq (left ..).symm
  | block description outcome same _ body => rw [← same.contexts]; exact body
  | tally _ _ body => rw [entered] at body; rw [left]; exact body
  | report r _ body => exact body
  | thread _ body => exact Nat.le_trans (Nat.le_succ _) body

theorem Course.numbered (c : Course allowed s h t) : s.Numbered → t.Numbered := by
  induction c with
  | rest | reach | tell => exact id
  | andThen _ _ first second => exact second ∘ first
  | quiet same =>
    exact fun numbered =>
      numbered.of_sameActivation (.of_books same) (Nat.le_of_eq same.contexts.symm)
  | record _ =>
    intro numbered
    exact numbered.of_sameActivation ⟨rfl, rfl, State.activation_record _ _⟩ (Nat.le_refl _)
  | enter _ => exact fun numbered => numbered.enter _
  | leave _ => exact fun numbered => numbered.leave _
  | assign _ | keep _ =>
    exact fun numbered => numbered.of_sameActivation (.modify fun _ => rfl) (Nat.le_refl _)
  | block description outcome same inner body =>
    intro numbered
    have inside := body (numbered.setBlock same _)
    exact inside.of_sameActivation ⟨rfl, rfl, State.activation_keep _ _⟩ (Nat.le_refl _)
  | tally _ _ body => exact fun numbered => (body (numbered.enter _)).leave _
  | report r _ body =>
    intro numbered
    have inside := body ⟨numbered.here, numbered.saved⟩
    exact ⟨inside.here, inside.saved⟩
  | thread inner body =>
    intro numbered
    have inside := body numbered.fork
    have more := Nat.le_trans (Nat.le_succ _) inner.contexts_le
    exact ⟨Nat.lt_of_lt_of_le numbered.here more, inside.saved⟩

theorem Underway.numbered (u : Underway allowed s h t) : s.Numbered → t.Numbered := by
  induction u with
  | here => exact id
  | andThen passed _ point => exact fun numbered => point (passed.numbered numbered)
  | block description same _ point => exact fun numbered => point (numbered.setBlock same _)
  | tally _ _ point => exact fun numbered => point (numbered.enter _)
  | report r _ point => exact fun numbered => point ⟨numbered.here, numbered.saved⟩
  | thread _ point => exact fun numbered => point numbered.fork

end Courses

theorem State.numbered_empty : ({} : State).Numbered :=
  ⟨Nat.one_pos, fun id a found => by cases found⟩

/-- At every point of every session the contexts are numbered. -/
theorem session_numbered (env : Setting) (steps : List Step) {o : Occurrence}
    (member : o ∈ historyAll env steps {}) {p : State} (reached : o.happening = .reached p) :
    p.Numbered := by
  obtain ⟨fs, x⟩ := o
  cases reached
  obtain ⟨before, after, split⟩ := List.append_of_mem member
  have course := runAll_course env steps (everyStep_true steps) {}
  exact (course.underway split).numbered State.numbered_empty

/-! ## What steps name -/

mutual
/-- The tallies that a step names, also in its body and in threads that it starts. -/
def Step.named : Step → List TallyId
  | .tally name steps => .named name :: namedAll steps
  | .enter name => [.named name]
  | .leave name => [.named name]
  | .state name => [.named name]
  | .summary name => [.named name]
  | .assign name _ _ => [.named name]
  | .keep name _ => [.named name]
  | .runTest _ body => namedAll body
  | .attempt steps => namedAll steps
  | .report _ steps => namedAll steps
  | .thread steps => namedAll steps
  | _ => []

/-- The tallies that steps name. -/
def namedAll : List Step → List TallyId
  | [] => []
  | step :: steps => step.named ++ namedAll steps
end

mutual
/-- The tallies that a step itself enters, in the thread that it runs in. -/
def Step.enters : Step → List TallyId
  | .tally name steps => .named name :: entersAll steps
  | .enter name => [.named name]
  | .runTest _ body => entersAll body
  | .attempt steps => entersAll steps
  | .report _ steps => entersAll steps
  | _ => []

/-- The tallies that steps themselves enter, in the thread that they run in. -/
def entersAll : List Step → List TallyId
  | [] => []
  | step :: steps => step.enters ++ entersAll steps
end

mutual
theorem Step.named_of_enters {id : TallyId} (step : Step) (enters : id ∈ step.enters) :
    id ∈ step.named := by
  cases step with
  | tally name steps =>
    rcases List.mem_cons.mp enters with rfl | inside
    · exact List.mem_cons_self
    · exact List.mem_cons_of_mem _ (namedAll_of_enters steps inside)
  | enter name => exact enters
  | runTest _ body => exact namedAll_of_enters body enters
  | attempt steps | report _ steps => exact namedAll_of_enters steps enters
  | _ => cases enters

theorem namedAll_of_enters {id : TallyId} (steps : List Step) (enters : id ∈ entersAll steps) :
    id ∈ namedAll steps := by
  cases steps with
  | nil => cases enters
  | cons step steps =>
    rcases List.mem_append.mp enters with first | later
    · exact List.mem_append_left _ (step.named_of_enters first)
    · exact List.mem_append_right _ (namedAll_of_enters steps later)
end

/-! ## Tallies that are not active -/

/-- In contexts of a kind a tally is not active, and leaving another one there does not make it
so. -/
structure State.Lacks (kind : Nat → Prop) (id : TallyId) (s : State) : Prop where
  active : kind s.context.id → id ∉ s.context.active
  saved : ∀ id' a, (s.tallies.get id').activation = some a → kind a.context → id ∉ a.before

namespace State.Lacks

variable {kind : Nat → Prop} {id : TallyId} {s t : State}

theorem of_sameActivation (lacks : s.Lacks kind id) (same : SameActivation s t) :
    t.Lacks kind id where
  active here := by
    rw [same.active]
    exact lacks.active (same.id ▸ here)
  saved id' a found := lacks.saved id' a (same.activation id' ▸ found)

theorem enter (lacks : s.Lacks kind id) {id' : TallyId} (other : kind s.context.id → id ≠ id') :
    (s.enter id').2.Lacks kind id := by
  rcases s.enter_cases id' with ⟨_, refused⟩ | ⟨_, enters⟩
  · rwa [refused]
  · rw [enters]
    refine ⟨fun here member => ?_, fun id'' a found here => ?_⟩
    · rcases List.mem_append.mp member with before | last
      · exact lacks.active here before
      · exact other here (List.mem_singleton.mp last)
    · by_cases same : id' = id''
      · -- what the new tally remembers is what is active now
        subst same
        rw [s.activation_entered_self] at found
        cases found
        exact lacks.active here
      · rw [s.get_entered_of_ne same] at found
        exact lacks.saved id'' a found here

theorem leave (lacks : s.Lacks kind id) (id' : TallyId) : (s.leave id').2.Lacks kind id := by
  have released : (s.released id').Lacks kind id := by
    refine ⟨lacks.active, fun id'' a found => ?_⟩
    by_cases same : id' = id''
    · subst same
      rw [s.activation_released_self] at found
      cases found
    · rw [s.get_released_of_ne same] at found
      exact lacks.saved id'' a found
  rcases s.leave_cases id' with ⟨_, idle⟩ | ⟨before, found, restored⟩ | ⟨_, _, _, foreign⟩
  · rwa [idle]
  · rw [restored]
    exact ⟨lacks.saved id' _ found, released.saved⟩
  · rwa [foreign]

theorem fork (lacks : s.Lacks kind id) : s.fork.Lacks kind id where
  active _ member := nomatch member
  saved := lacks.saved

theorem setContext (lacks : s.Lacks kind id) (after : t.Lacks kind id) :
    (t.setContext s.context).Lacks kind id :=
  ⟨lacks.active, after.saved⟩

end State.Lacks

/-! ## Runs that avoid a tally -/

theorem State.get_record_of_not_mem {s : State} {id : TallyId} (absent : id ∉ s.context.active)
    (a : Assertion) : (s.record a).tallies.get id = s.tallies.get id := by
  show (s.tallies.modifyAll s.context.active (·.count a)).get id = _
  rw [Ledger.get_modifyAll, List.count_eq_zero_of_not_mem absent, Function.iterate_zero, id_eq]

theorem State.get_keep_of_not_mem {s : State} {id : TallyId} (absent : id ∉ s.context.active)
    (b : Block) : (s.keep b).tallies.get id = s.tallies.get id := by
  show (s.tallies.modifyAll s.context.active (·.keep b)).get id = _
  rw [Ledger.get_modifyAll, List.count_eq_zero_of_not_mem absent, Function.iterate_zero, id_eq]

/-- From the context of `s` on, steps that name some tallies have kept one out of contexts of a
kind: it is not active at the points of their own thread, nor can it become so later. If they do not
name it, and all contexts from here on are of the kind, it is as it was. -/
structure Avoids (kind : Nat → Prop) (id : TallyId) (named : List TallyId) (s : State) (h : History)
    (t : State) : Prop where
  lacks : t.Lacks kind id
  points : kind s.context.id → ∀ o ∈ h, .thread ∉ o.frames → ∀ p, o.happening = .reached p →
    id ∉ p.context.active
  kept : id ∉ named → kind s.context.id → (∀ n, s.contexts ≤ n → kind n) →
    t.tallies.get id = s.tallies.get id

namespace Avoids

variable {kind : Nat → Prop} {id : TallyId} {named : List TallyId} {s t u : State} {h k : History}

theorem quiet (lacks : s.Lacks kind id) (same : SameBooks s t) : Avoids kind id named s [] t where
  lacks := lacks.of_sameActivation (.of_books same)
  points _ o member := nomatch member
  kept _ _ _ := by rw [same.tallies]

theorem told (lacks : s.Lacks kind id) (same : SameBooks s t) (r : Reporter) (c : Call) :
    Avoids kind id named s [⟨[], .told r c⟩] t where
  lacks := lacks.of_sameActivation (.of_books same)
  points _ o member _ p reached := by
    cases List.mem_singleton.mp member
    cases reached
  kept _ _ _ := by rw [same.tallies]

theorem call (lacks : s.Lacks kind id) (r : Reporter) (c : Call) :
    Avoids kind id named s [⟨[], .told r c⟩] (s.call r c).2 := by
  have books : SameBooks s (s.call r c).2 := ⟨rfl, rfl, rfl⟩
  exact .told lacks books r c

theorem reached (lacks : s.Lacks kind id) : Avoids kind id named s [⟨[], .reached s⟩] s where
  lacks := lacks
  points here o member _ p reached := by
    cases List.mem_singleton.mp member
    cases reached
    exact lacks.active here
  kept _ _ _ := rfl

theorem andThen (first : Avoids kind id named s h t) (context : t.context.id = s.context.id)
    (more : s.contexts ≤ t.contexts) (second : Avoids kind id named t k u) :
    Avoids kind id named s (h ++ k) u where
  lacks := second.lacks
  points here o member := by
    rcases List.mem_append.mp member with early | late
    · exact first.points here o early
    · exact second.points (context ▸ here) o late
  kept unnamed here later := by
    rw [second.kept unnamed (context ▸ here) fun n le => later n (Nat.le_trans more le),
      first.kept unnamed here later]

theorem weaken {fewer : List TallyId} (avoids : Avoids kind id fewer s h t)
    (among : ∀ i ∈ fewer, i ∈ named) : Avoids kind id named s h t :=
  ⟨avoids.lacks, avoids.points, fun unnamed => avoids.kept fun member => unnamed (among id member)⟩

theorem record (lacks : s.Lacks kind id) (a : Assertion) :
    Avoids kind id named s [⟨[], .recorded a⟩] (s.record a) where
  lacks := lacks.of_sameActivation ⟨rfl, rfl, State.activation_record s a⟩
  points _ o member _ p reached := by
    cases List.mem_singleton.mp member
    cases reached
  kept _ here _ := State.get_record_of_not_mem (lacks.active here) a

theorem modify (lacks : s.Lacks kind id) {id' : TallyId} {f : Tally → Tally}
    (activation : ∀ t, (f t).activation = t.activation) :
    Avoids kind id [id'] s [] { s with tallies := s.tallies.modify id' f } where
  lacks := lacks.of_sameActivation (.modify activation)
  points _ o member := nomatch member
  kept unnamed _ _ := by
    have other : id' ≠ id := fun same => unnamed (List.mem_singleton.mpr same.symm)
    exact Ledger.get_modify_of_ne _ f other

theorem enter (lacks : s.Lacks kind id) {id' : TallyId}
    (barred : kind s.context.id → id ∉ [id']) : Avoids kind id [id'] s [] (s.enter id').2 where
  lacks := lacks.enter fun here same => barred here (List.mem_singleton.mpr same)
  points _ o member := nomatch member
  kept unnamed _ _ := by
    have other : id' ≠ id := fun same => unnamed (List.mem_singleton.mpr same.symm)
    rcases s.enter_cases id' with ⟨_, refused⟩ | ⟨_, enters⟩
    · rw [refused]
    · rw [enters, s.get_entered_of_ne other]

theorem leave (lacks : s.Lacks kind id) (id' : TallyId) :
    Avoids kind id [id'] s [] (s.leave id').2 where
  lacks := lacks.leave id'
  points _ o member := nomatch member
  kept unnamed _ _ := by
    have other : id' ≠ id := fun same => unnamed (List.mem_singleton.mpr same.symm)
    exact s.get_leave_of_ne other

theorem keep (lacks : s.Lacks kind id) (b : Block) :
    Avoids kind id named s [⟨[], .completed b⟩] (s.keep b) where
  lacks := lacks.of_sameActivation ⟨rfl, rfl, State.activation_keep s b⟩
  points _ o member _ p reached := by
    cases List.mem_singleton.mp member
    cases reached
  kept _ here _ := State.get_keep_of_not_mem (lacks.active here) b

theorem setBlock (lacks : s.Lacks kind id) (block : Option OpenBlock) :
    Avoids kind id named s [] (s.setBlock block) where
  lacks := ⟨lacks.active, lacks.saved⟩
  points _ _ member := nomatch member
  kept _ _ _ := rfl

theorem within (avoids : Avoids kind id named s h t) (f : Frame) :
    Avoids kind id named s (History.within f h) t where
  lacks := avoids.lacks
  points here _ member unthreaded := by
    obtain ⟨fs, x, inside, rfl⟩ := History.mem_within.mp member
    exact avoids.points here ⟨fs, x⟩ inside fun thread =>
      unthreaded (List.mem_cons_of_mem f thread)
  kept := avoids.kept

theorem check (lacks : s.Lacks kind id) (label condition : Value) :
    Avoids kind id named s (s.checkHistory label condition) (s.check label condition).2 := by
  unfold State.checkHistory
  cases made : s.assertionOf label condition with
  | error f =>
    rw [State.check_of_error made]
    exact .quiet lacks ⟨rfl, rfl, rfl⟩
  | ok a =>
    rw [State.check_state made]
    have recorded : Avoids kind id named s [⟨[], .recorded a⟩] (s.record a) := .record lacks a
    exact recorded.andThen rfl (Nat.le_refl _) (.call recorded.lacks _ _)

end Avoids

section Scopes

variable {kind : Nat → Prop} {id : TallyId} {named : List TallyId} {s : State}
  {body : State → Except Raised Unit × State} {inner : State → History}

/-- A block avoids a tally when its body does. -/
theorem Avoids.runBlock (lacks : s.Lacks kind id)
    (courses : ∀ inside, Course (fun _ => true) inside (inner inside) (body inside).2)
    (bodies : ∀ inside, inside.context.id = s.context.id → inside.contexts = s.contexts →
      inside.Lacks kind id → Avoids kind id named inside (inner inside) (body inside).2)
    (env : Setting) (description : Value) :
    Avoids kind id named s (blockHistory env description body inner s)
      (runBlock env description body s).2 := by
  have books : SameBooks s (s.announce env description).2 := ⟨rfl, rfl, rfl⟩
  cases described : checkDescription description with
  | error f =>
    rw [blockHistory_of_unnamed described, runBlock_of_unnamed described]
    exact .quiet lacks ⟨rfl, rfl, rfl⟩
  | ok _ =>
    rcases begins : s.announce env description with ⟨e | _, begun⟩
    · rw [blockHistory_of_refused described begins, runBlock_of_refused described begins]
      rw [begins] at books
      exact .told lacks books _ _
    · rw [blockHistory_of_begun described begins rfl, runBlock_of_begun described begins,
        State.complete_state]
      rw [begins] at books
      have context : begun.context.id = s.context.id := by rw [books.context]
      have told : Avoids kind id named s [⟨[], .told s.reporter (.start description)⟩] begun :=
        .told lacks books _ _
      have opened : Avoids kind id named begun [] (begun.setBlock (some { description })) :=
        .setBlock told.lacks _
      have inside := (bodies (begun.setBlock (some { description })) context books.contexts
        opened.lacks).within .block
      have course := courses (begun.setBlock (some { description }))
      generalize body (begun.setBlock (some { description })) = ran at inside course ⊢
      have closed : Avoids kind id named ran.2 [] (ran.2.setBlock begun.context.block) :=
        .setBlock inside.lacks _
      generalize Block.ofBody description begun.clock ran.1 ran.2 = b
      have kept : Avoids kind id named (ran.2.setBlock begun.context.block) [⟨[], .completed b⟩]
          ((ran.2.setBlock begun.context.block).keep b) := .keep closed.lacks b
      have after := closed.andThen rfl (Nat.le_refl _)
        (kept.andThen rfl (Nat.le_refl _) (.call kept.lacks s.reporter (.complete b)))
      exact told.andThen context (Nat.le_of_eq books.contexts.symm)
        (opened.andThen rfl (Nat.le_refl _)
          (inside.andThen course.context_id course.contexts_le after))

/-- The body of a tally avoids another one when its steps do. -/
theorem Avoids.runTally (lacks : s.Lacks kind id) {id' : TallyId}
    (barred : kind s.context.id → id ∉ [id'])
    (courses : ∀ inside, Course (fun _ => true) inside (inner inside) (body inside).2)
    (bodies : ∀ inside, inside.context.id = s.context.id → inside.contexts = s.contexts →
      inside.Lacks kind id → Avoids kind id named inside (inner inside) (body inside).2) :
    Avoids kind id (id' :: named) s (tallyHistory id' inner s) (runTally id' body s).2 := by
  have own : ∀ i ∈ [id'], i ∈ id' :: named := fun i member => by
    rw [List.mem_singleton.mp member]
    exact List.mem_cons_self
  have entered := (Avoids.enter lacks barred).weaken own
  rw [tallyHistory]
  rcases s.enter_cases id' with ⟨_, refused⟩ | ⟨_, enters⟩
  · rw [refused, runTally_of_refused refused]
    exact .quiet lacks ⟨rfl, rfl, rfl⟩
  · rw [enters] at entered
    rw [enters, runTally_state enters]
    have course := courses (s.entered id')
    have context : (body (s.entered id')).2.context.id = s.context.id := course.context_id
    have inside := (bodies (s.entered id') rfl rfl entered.lacks).weaken fun i member =>
      List.mem_cons_of_mem id' member
    have left := (Avoids.leave inside.lacks id').weaken own
    simpa using entered.andThen rfl (Nat.le_refl _)
      ((inside.within (.tally id')).andThen context course.contexts_le left)

end Scopes

/-! ## Steps -/

/-- Steps that enter some tallies, and name some, do not enter a given one in contexts of a kind
when they run from a state: not in its context, and not in those of threads that they start. -/
structure Bars (kind : Nat → Prop) (id : TallyId) (enters named : List TallyId) (s : State) :
    Prop where
  now : kind s.context.id → id ∉ enters
  later : ∀ n, s.contexts ≤ n → kind n → id ∉ named

namespace Bars

variable {kind : Nat → Prop} {id : TallyId} {enters named fewer among : List TallyId} {s t : State}

theorem transfer (bars : Bars kind id enters named s) (context : t.context.id = s.context.id)
    (more : s.contexts ≤ t.contexts) : Bars kind id enters named t where
  now here := bars.now (context ▸ here)
  later n le := bars.later n (Nat.le_trans more le)

theorem mono (bars : Bars kind id enters named s) (own : ∀ i ∈ fewer, i ∈ enters)
    (deep : ∀ i ∈ among, i ∈ named) : Bars kind id fewer among s where
  now here member := bars.now here (own id member)
  later n le here member := bars.later n le here (deep id member)

end Bars

mutual
theorem Step.run_avoids {kind : Nat → Prop} {id : TallyId} (env : Setting) (step : Step) (s : State)
    (lacks : s.Lacks kind id) (bars : Bars kind id step.enters step.named s) :
    Avoids kind id step.named s (step.history env s) (step.run env s).2 := by
  cases step with
  | assertion label condition => exact .check lacks label condition
  | check condition label => exact .check lacks label condition
  | runTest description body =>
    refine .runBlock lacks (runAll_course env body (everyStep_true body)) ?_ env description
    exact fun inside context contexts lacks =>
      runAll_avoids env body inside lacks (bars.transfer context (Nat.le_of_eq contexts.symm))
  | runDemanding description =>
    rw [Step.history, Step.run]
    exact .runBlock lacks (fun inside => .rest inside)
      (fun inside _ _ lacks => .quiet lacks ⟨rfl, rfl, rfl⟩) env description
  | attempt steps => exact runAll_avoids env steps s lacks bars
  | tally name steps =>
    refine .runTally lacks ?_ (runAll_course env steps (everyStep_true steps)) ?_
    · intro here member
      exact bars.now here (List.mem_cons.mpr (.inl (List.mem_singleton.mp member)))
    · intro inside context contexts lacks
      refine runAll_avoids env steps inside lacks ?_
      exact (bars.mono (fun _ => List.mem_cons_of_mem _) fun _ => List.mem_cons_of_mem _).transfer
        context (Nat.le_of_eq contexts.symm)
  | enter name => exact .enter lacks bars.now
  | leave name => exact .leave lacks _
  | assign name passed failed => exact .modify lacks fun _ => rfl
  | keep name block => exact .modify lacks fun _ => rfl
  | report choice steps =>
    unfold Step.history Step.run
    cases choice.resolve env with
    | error f => exact .quiet lacks ⟨rfl, rfl, rfl⟩
    | ok r =>
      have inside := runAll_avoids env steps (s.setReporter (some r)) ⟨lacks.active, lacks.saved⟩
        (bars.transfer rfl (Nat.le_refl _))
      exact ⟨⟨inside.lacks.active, inside.lacks.saved⟩, inside.points, inside.kept⟩
  | thread steps =>
    -- its context is a later one of the caller's, where all that the steps name is barred
    have inside := runAll_avoids env steps s.fork lacks.fork
      ⟨fun here enters => bars.later _ (Nat.le_refl _) here (namedAll_of_enters steps enters),
        fun n le => bars.later n (Nat.le_of_succ_le le)⟩
    refine ⟨lacks.setContext inside.lacks, fun _ o member unthreaded => ?_,
      fun unnamed _ later => ?_⟩
    · obtain ⟨fs, x, _, rfl⟩ := History.mem_within.mp member
      exact absurd List.mem_cons_self unthreaded
    · exact inside.kept unnamed (later _ (Nat.le_refl _)) fun n le => later n (Nat.le_of_succ_le le)
  | print text toErr =>
    unfold Step.history Step.run
    cases text.display with
    | error f => exact .quiet lacks ⟨rfl, rfl, rfl⟩
    | ok t => exact .quiet lacks ⟨rfl, rfl, rfl⟩
  | summary name | tell c => exact .call lacks _ _
  | advance | slice | range | runValue | fail | quit | state | surroundings | arguments =>
    exact .quiet lacks ⟨rfl, rfl, rfl⟩

theorem runAll_avoids {kind : Nat → Prop} {id : TallyId} (env : Setting) (steps : List Step)
    (s : State) (lacks : s.Lacks kind id)
    (bars : Bars kind id (entersAll steps) (namedAll steps) s) :
    Avoids kind id (namedAll steps) s (historyAll env steps s) (runAll env steps s).2 := by
  cases steps with
  | nil => exact .reached lacks
  | cons step steps =>
    have first := (step.run_avoids env s lacks (bars.mono (fun _ => List.mem_append_left _)
      fun _ => List.mem_append_left _)).weaken fun _ => List.mem_append_left (namedAll steps)
    have course := step.run_course env step.every_true s
    have begun := (Avoids.reached lacks).andThen rfl (Nat.le_refl _) first
    rw [runAll]
    rcases ran : step.run env s with ⟨e | reply, t⟩
    · rw [historyAll_of_failed ran]
      rwa [ran] at begun
    · rw [historyAll_of_finished ran]
      rw [ran] at begun course
      have later := runAll_avoids env steps (t.emit [.finished step.name reply])
        ⟨begun.lacks.active, begun.lacks.saved⟩
        ((bars.mono (fun _ => List.mem_append_right _) fun _ => List.mem_append_right _).transfer
          course.context_id course.contexts_le)
      have finished : Avoids kind id (namedAll (step :: steps)) t
          (historyAll env steps (t.emit [.finished step.name reply]))
          (runAll env steps (t.emit [.finished step.name reply])).2 :=
        ⟨later.lacks, later.points, fun unnamed => later.kept fun member =>
          unnamed (List.mem_append_right _ member)⟩
      rw [← List.append_assoc]
      exact begun.andThen course.context_id course.contexts_le finished
end

/-! ## Threads -/

section Threads

variable {s : State} (numbered : s.Numbered) (env : Setting) (steps : List Step) {id : TallyId}
include numbered

/-- In the context of a new thread nothing is active, and no tally remembers an activation of it or
of a later one. -/
theorem State.Numbered.lacks {kind : Nat → Prop} (new : ∀ n, kind n → s.contexts ≤ n) :
    s.fork.Lacks kind id where
  active _ member := nomatch member
  saved id' a found here := by
    have before : a.context < s.contexts := numbered.saved id' a found
    exact absurd (new _ here) (Nat.not_le.mpr before)

/-- A thread leaves every tally as it is that its steps do not name. -/
theorem thread_keeps_unnamed (unnamed : id ∉ namedAll steps) :
    ((Step.thread steps).run env s).2.tallies.get id = s.tallies.get id := by
  have lacks : s.fork.Lacks (s.contexts ≤ ·) id := numbered.lacks fun _ le => le
  have bars : Bars (s.contexts ≤ ·) id (entersAll steps) (namedAll steps) s.fork :=
    ⟨fun _ enters => unnamed (namedAll_of_enters steps enters), fun _ _ _ => unnamed⟩
  exact (runAll_avoids env steps s.fork lacks bars).kept unnamed (Nat.le_refl _)
    fun _ le => Nat.le_of_succ_le le

/-- At every point of a thread, what is active was entered by the thread itself. -/
theorem thread_active_entered {o : Occurrence} (member : o ∈ historyAll env steps s.fork)
    (own : .thread ∉ o.frames) {p : State} (reached : o.happening = .reached p)
    (unentered : id ∉ entersAll steps) : id ∉ p.context.active := by
  have lacks : s.fork.Lacks (· = s.contexts) id :=
    numbered.lacks fun _ same => Nat.le_of_eq same.symm
  -- threads that the steps start have contexts of their own, whatever they enter
  have bars : Bars (· = s.contexts) id (entersAll steps) (namedAll steps) s.fork :=
    ⟨fun _ => unentered, fun n le same => absurd same (Nat.ne_of_gt le)⟩
  exact (runAll_avoids env steps s.fork lacks bars).points rfl o member own p reached

end Threads

/-- The contexts of every state that a session reaches are numbered; and from every such state and
for all steps that run in a new thread: no fault leaves the thread; the caller's context is as it
was, with its active tallies, its open block, what that has collected, and its reporter; every tally
that the steps do not name is as it was, with its counters, its blocks and its activation; and at
every point of the thread itself an assertion reaches no tally that the thread has not itself
entered. -/
theorem threads_isolated :
    (∀ env steps, ∀ o ∈ historyAll env steps {}, ∀ s, o.happening = .reached s → s.Numbered)
    ∧ ∀ (env : Setting) (steps : List Step) (s : State), s.Numbered →
      ((Step.thread steps).run env s).1 = .ok (caught (runAll env steps s.fork).1)
      ∧ ((Step.thread steps).run env s).2.context = s.context
      ∧ (∀ id, id ∉ namedAll steps →
        ((Step.thread steps).run env s).2.tallies.get id = s.tallies.get id)
      ∧ ∀ o ∈ historyAll env steps s.fork, .thread ∉ o.frames → ∀ p, o.happening = .reached p →
        ∀ id, id ∉ entersAll steps →
          id ∉ p.context.active ∧ ∀ a, (p.record a).tallies.get id = p.tallies.get id := by
  refine ⟨fun env steps o member s reached => session_numbered env steps member reached,
    fun env steps s numbered => ⟨rfl, rfl, fun id => thread_keeps_unnamed numbered env steps, ?_⟩⟩
  intro o member own p reached id unentered
  have absent := thread_active_entered numbered env steps member own reached unentered
  exact ⟨absent, State.get_record_of_not_mem absent⟩

/-- A thread that leaves a tally of its caller, enters one of its own, starts another thread, makes
a check that fails, and fails itself. -/
def meddlingThread : List Step :=
  [.attempt [.leave "outer"], .enter "mine", .thread [.enter "theirs", .enter "mine"],
    .assertion (.text "broken") (.bool false), .fail "ValueError" []]

/-- The state of a caller with two active tallies. -/
def callingState : State :=
  (runAll {} [.enter "kept", .enter "outer"] {}).2

theorem meddlingThread_isolated :
    callingState.Numbered
    ∧ ((Step.thread meddlingThread).run {} callingState).2.context.active
      = [.named "kept", .named "outer"]
    ∧ (((Step.thread meddlingThread).run {} callingState).2.tallies.get (.named "kept")).failed = 0
    ∧ (((Step.thread meddlingThread).run {} callingState).2.tallies.get (.named "mine")).failed
      = 1 := by
  have numbered : callingState.Numbered :=
    (runAll_course {} _ (everyStep_true _) {}).numbered State.numbered_empty
  obtain ⟨_, context, kept, _⟩ := threads_isolated.2 {} meddlingThread callingState numbered
  refine ⟨numbered, ?_, ?_, by decide +kernel⟩
  · rw [context]
    decide +kernel
  · rw [kept (.named "kept") (by decide)]
    decide +kernel

end InlineCheck
