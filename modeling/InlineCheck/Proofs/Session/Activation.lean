import Mathlib.Data.List.Induction
import Mathlib.Data.List.Nodup
import InlineCheck.Proofs.Session.Effects

/-! # Entering and leaving by hand

What is active after tallies were entered and left by hand in one context, in any order.

Leaving a tally brings back the whole tuple that was active before it was entered
(`State.active_afterTurns_leave`). So what is active agrees with what was entered and not left as
long as exits are nested, and no longer: `Stacked` is the invariant of nested turns, and the first
exit that is not of the latest entry breaks the agreement.
-/

namespace InlineCheck

/-! ## Turns -/

/-- A call that enters or leaves a tally. -/
inductive Turn where
  | enter (id : TallyId)
  | leave (id : TallyId)
  deriving DecidableEq, Repr

namespace Turn

/-- The state after a call, whether it was refused or not. -/
def apply (s : State) : Turn → State
  | .enter id => (s.enter id).2
  | .leave id => (s.leave id).2

/-- The tallies entered and not left since, after one more call. A tally that is still entered is
not entered again. -/
def track (ids : List TallyId) : Turn → List TallyId
  | .enter id => if id ∈ ids then ids else ids ++ [id]
  | .leave id => ids.filter (· ≠ id)

/-- The tallies whose latest entry has not been followed by an exit, in the order of these
entries. -/
def entered (ts : List Turn) : List TallyId :=
  ts.foldl track []

/-- Every exit of an entered tally is of the one entered last. -/
def Nested (ts : List Turn) : Prop :=
  ∀ before id, before ++ [.leave id] <+: ts → id ∈ entered before →
    (entered before).getLast? = some id

theorem track_leave_of_not_mem {ids : List TallyId} {id : TallyId} (absent : id ∉ ids) :
    track ids (.leave id) = ids := by
  refine List.filter_eq_self.mpr fun id' member => ?_
  have other : id' ≠ id := fun equal => absent (equal ▸ member)
  simpa using other

theorem track_leave_last {before : List TallyId} {id : TallyId} (absent : id ∉ before) :
    track (before ++ [id]) (.leave id) = before := by
  have kept : track before (.leave id) = before := track_leave_of_not_mem absent
  have gone : track [id] (.leave id) = [] := by simp [track]
  calc track (before ++ [id]) (.leave id)
      = track before (.leave id) ++ track [id] (.leave id) := List.filter_append ..
    _ = before := by rw [kept, gone, List.append_nil]

theorem nested_nil : Nested [] := by
  intro before id initial
  simp at initial

theorem entered_concat (ts : List Turn) (t : Turn) :
    entered (ts ++ [t]) = track (entered ts) t := by
  simp [entered]

theorem nested_concat {ts : List Turn} {t : Turn} :
    Nested (ts ++ [t]) ↔ Nested ts ∧ ∀ id, t = .leave id → id ∈ entered ts →
      (entered ts).getLast? = some id := by
  constructor
  · intro nested
    refine ⟨fun before id initial => nested before id
      (initial.trans (List.prefix_append ts [t])), ?_⟩
    rintro id rfl member
    exact nested ts id (List.prefix_refl _) member
  · rintro ⟨nested, last⟩ before id initial member
    rcases List.prefix_concat_iff.mp initial with whole | shorter
    · obtain ⟨rfl, same⟩ := List.append_inj' whole rfl
      exact last id (List.singleton_inj.mp same).symm member
    · exact nested before id shorter member

end Turn

namespace State

/-- The state after calls in a row. -/
def afterTurns (s : State) (ts : List Turn) : State :=
  ts.foldl Turn.apply s

theorem afterTurns_append (s : State) (ts us : List Turn) :
    s.afterTurns (ts ++ us) = (s.afterTurns ts).afterTurns us := by
  simp [afterTurns]

theorem afterTurns_concat (s : State) (ts : List Turn) (t : Turn) :
    s.afterTurns (ts ++ [t]) = t.apply (s.afterTurns ts) := by
  simp [afterTurns]

/-- Nothing is active, here or elsewhere. -/
structure Idle (s : State) : Prop where
  active : s.context.active = []
  activation : ∀ id, (s.tallies.get id).activation = none

/-! ## Any order -/

/-- The entered tallies are those that remember an activation, all of this context. -/
structure Tracks (s : State) (ids : List TallyId) : Prop where
  isSome : ∀ id, (s.tallies.get id).activation.isSome ↔ id ∈ ids
  here : ∀ id a, (s.tallies.get id).activation = some a → a.context = s.context.id

namespace Tracks

theorem of_idle {s : State} (idle : s.Idle) : s.Tracks [] where
  isSome id := by simp [idle.activation id]
  here id a found := by rw [idle.activation id] at found; cases found

theorem enter {s : State} {ids : List TallyId} (tracks : s.Tracks ids) (id : TallyId) :
    (s.enter id).2.Tracks (Turn.track ids (.enter id)) := by
  rcases s.enter_cases id with ⟨active, refused⟩ | ⟨idle, enters⟩
  · have member : id ∈ ids := (tracks.isSome id).mp active
    rw [refused, Turn.track, if_pos member]
    exact tracks
  · have absent : id ∉ ids := fun member => by simpa [idle] using (tracks.isSome id).mpr member
    rw [enters, Turn.track, if_neg absent]
    refine ⟨fun id' => ?_, fun id' a found => ?_⟩
    · by_cases same : id = id'
      · subst same
        simp [s.activation_entered_self]
      · rw [s.get_entered_of_ne same, tracks.isSome id']
        simp [Ne.symm same]
    · by_cases same : id = id'
      · subst same
        rw [s.activation_entered_self] at found
        cases found
        rfl
      · rw [s.get_entered_of_ne same] at found
        exact tracks.here id' a found

theorem leave {s : State} {ids : List TallyId} (tracks : s.Tracks ids) (id : TallyId) :
    (s.leave id).2.Tracks (Turn.track ids (.leave id)) := by
  have released : (s.released id).Tracks (Turn.track ids (.leave id)) := by
    refine ⟨fun id' => ?_, fun id' a found => ?_⟩
    · by_cases same : id = id'
      · subst same
        simp [s.activation_released_self, Turn.track]
      · rw [s.get_released_of_ne same, tracks.isSome id']
        simp [Turn.track, Ne.symm same]
    · by_cases same : id = id'
      · subst same
        rw [s.activation_released_self] at found
        cases found
      · rw [s.get_released_of_ne same] at found
        exact tracks.here id' a found
  rcases s.leave_cases id with ⟨idle, nothing⟩ | ⟨before, _, restored⟩ | ⟨a, found, elsewhere, _⟩
  · have absent : id ∉ ids := fun member => by simpa [idle] using (tracks.isSome id).mpr member
    rw [nothing, Turn.track_leave_of_not_mem absent]
    exact tracks
  · rw [restored]
    exact ⟨released.isSome, released.here⟩
  · exact absurd (tracks.here id a found) elsewhere

theorem afterTurns {s : State} (idle : s.Idle) (ts : List Turn) :
    (s.afterTurns ts).Tracks (Turn.entered ts) := by
  induction ts using List.reverseRecOn with
  | nil => exact of_idle idle
  | append_singleton ts t ih =>
    rw [afterTurns_concat, Turn.entered_concat]
    cases t with
    | enter id => exact ih.enter id
    | leave id => exact ih.leave id

end Tracks

theorem enter_afterTurns_ok_iff {s : State} (idle : s.Idle) (ts : List Turn) (id : TallyId) :
    ((s.afterTurns ts).enter id).1 = .ok () ↔ id ∉ Turn.entered ts := by
  rw [← (Tracks.afterTurns idle ts).isSome id]
  rcases (s.afterTurns ts).enter_cases id with ⟨active, refused⟩ | ⟨inactive, enters⟩
  · rw [refused]; simp [active]
  · rw [enters]; simp [inactive]

theorem activation_afterTurns {s : State} {id : TallyId} {a : Activation}
    (found : (s.tallies.get id).activation = some a) {ts : List Turn} (stays : .leave id ∉ ts) :
    ((s.afterTurns ts).tallies.get id).activation = some a := by
  induction ts using List.reverseRecOn with
  | nil => exact found
  | append_singleton ts t ih =>
    -- a second entry of `id` is refused, and calls on other tallies do not touch its activation
    simp only [List.mem_append, List.mem_singleton, not_or] at stays
    have before := ih stays.1
    rw [afterTurns_concat]
    cases t with
    | enter id' =>
      rcases (s.afterTurns ts).enter_cases id' with ⟨_, refused⟩ | ⟨inactive, enters⟩
      · rwa [Turn.apply, refused]
      · have other : id' ≠ id := by rintro rfl; rw [before] at inactive; cases inactive
        rwa [Turn.apply, enters, get_entered_of_ne _ other]
    | leave id' =>
      have other : id' ≠ id := by rintro rfl; exact stays.2 rfl
      rcases (s.afterTurns ts).leave_cases id' with ⟨_, left⟩ | ⟨_, _, left⟩ | ⟨_, _, _, left⟩ <;>
        rw [Turn.apply, left]
      · exact before
      · exact (congrArg Tally.activation (get_released_of_ne _ other)).trans before
      · exact (congrArg Tally.activation (get_released_of_ne _ other)).trans before

/-- Leaving a tally brings back what was active before it was entered, whatever else was entered
and left in between. -/
theorem active_afterTurns_leave {s : State} (idle : s.Idle) (ts : List Turn) {id : TallyId}
    (accepted : id ∉ Turn.entered ts) {inner : List Turn} (stays : .leave id ∉ inner) :
    (s.afterTurns (ts ++ .enter id :: inner ++ [.leave id])).context.active =
      (s.afterTurns ts).context.active := by
  have tracks := Tracks.afterTurns idle (ts ++ .enter id :: inner)
  have enters := ((s.afterTurns ts).enter_ok ((enter_afterTurns_ok_iff idle ts id).mpr accepted)).2
  have unfolded : s.afterTurns (ts ++ .enter id :: inner) =
      ((s.afterTurns ts).entered id).afterTurns inner := by
    rw [afterTurns_append, ← enters]
    rfl
  have found : ((s.afterTurns (ts ++ .enter id :: inner)).tallies.get id).activation =
      some ⟨(s.afterTurns ts).context.id, (s.afterTurns ts).context.active⟩ := by
    rw [unfolded]
    exact activation_afterTurns (activation_entered_self _ id) stays
  have here : (s.afterTurns ts).context.id = (s.afterTurns (ts ++ .enter id :: inner)).context.id :=
    tracks.here id _ found
  rw [here] at found
  rw [afterTurns_concat, Turn.apply, leave_of_here found]
  rfl

/-! ## Nested exits -/

/-- The entered tallies are active in the order of their entries, and each remembers those before
it. -/
structure Stacked (s : State) (ids : List TallyId) : Prop where
  active : s.context.active = ids
  nodup : ids.Nodup
  saved : ∀ before id after, ids = before ++ id :: after →
    (s.tallies.get id).activation = some ⟨s.context.id, before⟩
  idle : ∀ id, id ∉ ids → (s.tallies.get id).activation = none

namespace Stacked

theorem enter {s : State} {ids : List TallyId} (stacked : s.Stacked ids) (id : TallyId) :
    (s.enter id).2.Stacked (Turn.track ids (.enter id)) := by
  by_cases member : id ∈ ids
  · obtain ⟨before, after, split⟩ := List.append_of_mem member
    rcases s.enter_cases id with ⟨_, refused⟩ | ⟨inactive, _⟩
    · rw [refused, Turn.track, if_pos member]
      exact stacked
    · rw [stacked.saved before id after split] at inactive; cases inactive
  · rcases s.enter_cases id with ⟨active, _⟩ | ⟨_, enters⟩
    · rw [stacked.idle id member] at active; cases active
    · rw [enters, Turn.track, if_neg member]
      refine ⟨congrArg (· ++ [id]) stacked.active, ?_, ?_, ?_⟩
      · exact List.nodup_append.mpr ⟨stacked.nodup, List.nodup_singleton id, by
          rintro a found _ last rfl
          exact member (List.mem_singleton.mp last ▸ found)⟩
      · intro before id' after split
        -- the split is either at the new tally or inside the old ones
        rcases List.eq_nil_or_concat after with rfl | ⟨after, last, rfl⟩
        · obtain ⟨rfl, same⟩ := List.append_inj' split rfl
          cases List.singleton_inj.mp same
          rw [s.activation_entered_self, stacked.active]
          rfl
        · rw [List.concat_eq_append, ← List.cons_append, ← List.append_assoc] at split
          obtain ⟨inside, same⟩ := List.append_inj' split rfl
          have other : id ≠ id' := by
            rintro rfl
            exact member (inside ▸ by simp)
          rw [s.get_entered_of_ne other]
          exact stacked.saved before id' after inside
      · intro id' absent
        simp only [List.mem_append, List.mem_singleton, not_or] at absent
        rw [s.get_entered_of_ne (Ne.symm absent.2)]
        exact stacked.idle id' absent.1

theorem leave {s : State} {ids : List TallyId} (stacked : s.Stacked ids) {id : TallyId}
    (last : id ∈ ids → ids.getLast? = some id) :
    (s.leave id).2.Stacked (Turn.track ids (.leave id)) := by
  by_cases member : id ∈ ids
  · obtain ⟨before, rfl⟩ := List.getLast?_eq_some_iff.mp (last member)
    have absent : id ∉ before := fun again =>
      (List.nodup_append.mp stacked.nodup).2.2 id again id (List.mem_singleton_self id) rfl
    rw [Turn.track_leave_last absent, s.leave_of_here (stacked.saved before id [] rfl)]
    refine ⟨rfl, (List.nodup_append.mp stacked.nodup).1, ?_, ?_⟩
    · -- those below remember what they did before, since only the last one was released
      rintro first id' after rfl
      have other : id ≠ id' := by
        rintro rfl
        exact absent (by simp)
      show ((s.released id).tallies.get id').activation = _
      rw [s.get_released_of_ne other]
      exact stacked.saved first id' (after ++ [id]) (by simp)
    · intro id' missing
      show ((s.released id).tallies.get id').activation = none
      by_cases same : id = id'
      · subst same
        exact s.activation_released_self id
      · rw [s.get_released_of_ne same]
        exact stacked.idle id' (by simp [missing, Ne.symm same])
  · rcases s.leave_cases id with ⟨_, nothing⟩ | ⟨_, found, _⟩ | ⟨_, found, _⟩
    · rw [nothing, Turn.track_leave_of_not_mem member]
      exact stacked
    · rw [stacked.idle id member] at found; cases found
    · rw [stacked.idle id member] at found; cases found

theorem afterTurns {s : State} (idle : s.Idle) {ts : List Turn} (nested : Turn.Nested ts) :
    (s.afterTurns ts).Stacked (Turn.entered ts) := by
  induction ts using List.reverseRecOn with
  | nil =>
    refine ⟨idle.active, List.nodup_nil, fun before id after split => ?_,
      fun id _ => idle.activation id⟩
    cases before <;> cases split
  | append_singleton ts t ih =>
    obtain ⟨shorter, last⟩ := Turn.nested_concat.mp nested
    rw [afterTurns_concat, Turn.entered_concat]
    cases t with
    | enter id => exact (ih shorter).enter id
    | leave id => exact (ih shorter).leave (last id rfl)

end Stacked

/-- Each tally is active once when it is entered, and not at all otherwise. -/
def ActiveAsEntered (s : State) (ts : List Turn) : Prop :=
  ∀ id, (s.afterTurns ts).context.active.count id = if id ∈ Turn.entered ts then 1 else 0

theorem Stacked.activeAsEntered {s : State} {ts : List Turn}
    (stacked : (s.afterTurns ts).Stacked (Turn.entered ts)) : s.ActiveAsEntered ts := by
  intro id
  rw [stacked.active]
  exact stacked.nodup.count

/-- An exit that is not of the latest entry leaves later entries behind that are no longer
active. -/
theorem Stacked.getLast?_of_activeAsEntered {s : State} {ts : List Turn} {id : TallyId}
    (stacked : (s.afterTurns ts).Stacked (Turn.entered ts))
    (agrees : s.ActiveAsEntered (ts ++ [.leave id])) (member : id ∈ Turn.entered ts) :
    (Turn.entered ts).getLast? = some id := by
  obtain ⟨before, after, split⟩ := List.append_of_mem member
  have active : (s.afterTurns (ts ++ [.leave id])).context.active = before := by
    rw [afterTurns_concat, Turn.apply,
      (s.afterTurns ts).leave_of_here (stacked.saved before id after split)]
    rfl
  have distinct := stacked.nodup
  rw [split] at distinct
  cases after with
  | nil => rw [split]; simp
  | cons later rest =>
    -- a later entry is still entered, so it would have to be among the earlier ones
    exfalso
    have other : later ≠ id := by
      rintro rfl
      simp [List.nodup_append] at distinct
    have count := agrees later
    rw [active, Turn.entered_concat, split, if_pos (by simp [Turn.track, other])] at count
    have early : later ∈ before := List.count_pos_iff.mp (by omega)
    exact (List.nodup_append.mp distinct).2.2 later early later (by simp) rfl

/-- What is active agrees with what is entered at every point of a sequence of calls exactly when
every exit of an entered tally is of the one entered last. -/
theorem activeAsEntered_iff_nested {s : State} (idle : s.Idle) (ts : List Turn) :
    (∀ before, before <+: ts → s.ActiveAsEntered before) ↔ Turn.Nested ts := by
  constructor
  · intro agrees
    induction ts using List.reverseRecOn with
    | nil => exact Turn.nested_nil
    | append_singleton ts t ih =>
      have nested := ih fun before initial =>
        agrees before (initial.trans (List.prefix_append ts [t]))
      refine Turn.nested_concat.mpr ⟨nested, ?_⟩
      rintro id rfl member
      exact (Stacked.afterTurns idle nested).getLast?_of_activeAsEntered
        (agrees _ (List.prefix_refl _)) member
  · intro nested before initial
    have shorter : Turn.Nested before := fun first id part => nested first id (part.trans initial)
    exact (Stacked.afterTurns idle shorter).activeAsEntered

end State

/-! ## Calls in any order -/

/-- For all calls that enter and leave tallies in one context, in any order: an entry is accepted
exactly when the tally is not entered, and an exit brings back what was active before the tally's
latest entry, whatever happened in between. What is active is, each once, what is entered, at every
point, if and only if the exits are nested; an assertion then adds one to the total of every
entered tally and nothing to any other. -/
theorem turns_active_as_entered (s : State) (idle : s.Idle) (ts : List Turn) :
    (∀ id, ((s.afterTurns ts).enter id).1 = .ok () ↔ id ∉ Turn.entered ts)
    ∧ (∀ id inner, id ∉ Turn.entered ts → .leave id ∉ inner →
      (s.afterTurns (ts ++ .enter id :: inner ++ [.leave id])).context.active =
        (s.afterTurns ts).context.active)
    ∧ ((∀ before, before <+: ts → s.ActiveAsEntered before) ↔ Turn.Nested ts)
    ∧ (Turn.Nested ts → ∀ a id,
      (((s.afterTurns ts).record a).tallies.get id).total =
        ((s.afterTurns ts).tallies.get id).total + if id ∈ Turn.entered ts then 1 else 0) := by
  refine ⟨s.enter_afterTurns_ok_iff idle ts, fun id inner accepted stays =>
    s.active_afterTurns_leave idle ts accepted stays, s.activeAsEntered_iff_nested idle ts, ?_⟩
  intro nested a id
  have agrees := (s.activeAsEntered_iff_nested idle ts).mpr nested ts (List.prefix_refl ts)
  rw [State.total_record, agrees id]
  split <;> rfl

/-- Two tallies, of which the inner one is left. -/
def nestedTurns : List Turn :=
  [.enter (.named "a"), .enter (.named "b"), .leave (.named "b")]

theorem nestedTurns_totals :
    State.Idle {} ∧ Turn.Nested nestedTurns
    ∧ (((({} : State).afterTurns nestedTurns).record ⟨"x", true, none⟩).tallies.get
      (.named "a")).total = 1
    ∧ (((({} : State).afterTurns nestedTurns).record ⟨"x", true, none⟩).tallies.get
      (.named "b")).total = 0 := by
  have idle : State.Idle {} := ⟨rfl, fun _ => rfl⟩
  have nested : Turn.Nested nestedTurns := by
    have two : Turn.Nested [.enter (.named "a"), .enter (.named "b")] :=
      Turn.nested_concat.mpr ⟨Turn.nested_concat.mpr ⟨Turn.nested_nil, by simp⟩, by simp⟩
    refine Turn.nested_concat.mpr ⟨two, ?_⟩
    rintro id same -
    cases same
    rfl
  obtain ⟨_, _, _, totals⟩ := turns_active_as_entered {} idle nestedTurns
  refine ⟨idle, nested, ?_, ?_⟩
  · rw [totals nested _ (.named "a")]; decide +kernel
  · rw [totals nested _ (.named "b")]; decide +kernel

/-- Two tallies, of which the outer one is left first. -/
def crossedTurns : List Turn :=
  [.enter (.named "a"), .enter (.named "b"), .leave (.named "a"), .leave (.named "b")]

/-- Exits that are not nested break the agreement: a tally that was left is active and counts, and
once it is entered again it is active twice and counts twice. -/
theorem crossedTurns_active_twice :
    ¬ (∀ ts id,
      (({} : State).afterTurns ts).context.active.count id ≤ 1
      ∧ (id ∈ (({} : State).afterTurns ts).context.active ↔ id ∈ Turn.entered ts))
    ∧ (.named "a" ∉ Turn.entered crossedTurns
      ∧ (((({} : State).afterTurns crossedTurns).record ⟨"x", true, none⟩).tallies.get
        (.named "a")).total = 1)
    ∧ (((({} : State).afterTurns (crossedTurns ++ [.enter (.named "a")])).record
        ⟨"x", true, none⟩).tallies.get (.named "a")).total = 2 := by
  refine ⟨fun agrees => ?_, by decide +kernel, by decide +kernel⟩
  have once := (agrees (crossedTurns ++ [.enter (.named "a")]) (.named "a")).1
  exact absurd once (by decide +kernel)

end InlineCheck
