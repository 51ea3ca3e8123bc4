import InlineCheck.Project.FileTree
import InlineCheck.Proofs.Text.Cutting
import Mathlib.Data.List.Infix

/-! # The root of a project

Where a project begins, for every file tree and every path to start from.

* `Linkless` — no link that the system can see stands on the way to a place. Names resolve to such
  places, and these resolve to themselves.
* `Rooted` — what comes out of the search upwards from a place: the nearest directory with a project
  file, the place itself when there is none, or a refusal that the search runs into before.
* `findRoot_eq_iff` — this is what the search gives.
* `Unrefused` — nothing that the search looks at is refused, so that it finds a root.
-/

namespace InlineCheck

theorem mem_stations_iff {place p : Place} : p ∈ stations place ↔ p <+: place ∧ p ≠ [] := by
  simp only [stations, List.mem_map, List.mem_range]
  constructor
  · rintro ⟨i, inside, rfl⟩
    refine ⟨List.take_prefix _ _, fun empty => ?_⟩
    have size := congrArg List.length empty
    rw [List.length_take, List.length_nil] at size
    omega
  · rintro ⟨above, some⟩
    have size := List.length_pos_iff.mpr some
    have fits := above.length_le
    refine ⟨p.length - 1, by omega, ?_⟩
    rw [Nat.sub_add_cancel size]
    exact (List.prefix_iff_eq_take.mp above).symm

/-- A name that can stand in a path: one of a directory, or the way up. -/
def isStep (name : String) : Bool :=
  isName name || name == ".."

theorem isName_of_isStep {name : String} (step : isStep name = true) (down : name ≠ "..") :
    isName name = true := by
  simpa [isStep, down] using step

theorem ne_up_of_isName {name : String} (proper : isName name = true) : name ≠ ".." := by
  rintro rfl
  cases proper

theorem hasNull_of_names {place : Place} (proper : place.all isName = true) :
    hasNull place = false := by
  refine List.any_eq_false.mpr fun name member null => ?_
  have name := List.all_eq_true.mp proper name member
  simp only [isName, null, Bool.not_true, Bool.and_false] at name
  cases name

theorem all_isName_above {place upper : Place} (proper : place.all isName = true)
    (above : upper <+: place) : upper.all isName = true :=
  List.all_eq_true.mpr fun name member => List.all_eq_true.mp proper name (above.subset member)

namespace FileTree

variable (t : FileTree)

/-- No link stands on the way to a place, as far as the system can see. -/
def Linkless (place : Place) : Prop :=
  ∀ p, p <+: place → p ≠ [] → t.isVisible p = true → t.lead? p = none

/-- The system finds a project file in a directory, and no directory of that name. -/
def HasProject (place : Place) : Prop :=
  ∃ file, t.openAt? (place ++ ["pyproject.toml"]) = .ok (some file) ∧ file ≠ .directory

/-- The system finds no project file in a directory. -/
def LacksProject (place : Place) : Prop :=
  t.openAt? (place ++ ["pyproject.toml"]) = .ok none

/-- A place is among those above another one, and all below it lack a project file. -/
structure Nearest (place root : Place) : Prop where
  above : root <+: place
  below : ∀ other, other <+: place → ¬other <+: root → t.LacksProject other

/-- What comes out of a search upwards from a place. -/
inductive Rooted (place : Place) : Except SystemFault Place → Prop where
  | found {root : Place} : t.Nearest place root → t.HasProject root → Rooted place (.ok root)
  | bare : (∀ other, other <+: place → t.LacksProject other) → Rooted place (.ok place)
  | refused {root : Place} {fault : SystemFault} : t.Nearest place root →
      t.openAt? (root ++ ["pyproject.toml"]) = .error fault → Rooted place (.error fault)

/-- Nothing that a search upwards from a place looks at is refused: paths and names are short
enough, and the system shows what lies on the way, also where links lead. -/
structure Unrefused (place : Place) : Prop where
  short : ∀ p, p <+: place → (t.text (p ++ ["pyproject.toml"])).utf8ByteSize ≤ 4095
  visible : ∀ p, p <+: place → t.isVisible (p ++ ["pyproject.toml"]) = true
  leads : ∀ link ∈ t.links, ∀ there, link.2 = .to there → t.isVisible there = true

variable {t}

/-! ## Resolved places -/

theorem Linkless.above {place upper : Place} (linkless : t.Linkless place)
    (above : upper <+: place) : t.Linkless upper :=
  fun p upward => linkless p (upward.trans above)

theorem mem_links_of_lead? {p : Place} {lead : Lead} (found : t.lead? p = some lead) :
    ∃ link ∈ t.links, link.2 = lead := by
  obtain ⟨link, first, last⟩ := Option.map_eq_some_iff.mp found
  exact ⟨link, List.mem_of_find?_eq_some first, last⟩

theorem lead?_of_isSettled {place p : Place} (settled : isSettled t.links place = true)
    (above : p <+: place) (some : p ≠ []) : t.lead? p = none := by
  have none := List.all_eq_true.mp settled p (mem_stations_iff.mpr ⟨above, some⟩)
  rw [lead?, Option.map_eq_none_iff, List.find?_eq_none]
  simpa using none

/-- Resolving names step by step, no place on the way has a link before it. -/
theorem linkless_resolveFrom {place r : Place} {names : List String} (linkless : t.Linkless place)
    (proper : place.all isName = true) (steps : ∀ name ∈ names, isStep name = true)
    (resolved : t.resolveFrom place names = .ok r) : t.Linkless r ∧ r.all isName = true := by
  induction names generalizing place with
  | nil =>
    cases resolved
    exact ⟨linkless, proper⟩
  | cons name names ih =>
    obtain ⟨step, later⟩ := List.forall_mem_cons.mp steps
    unfold resolveFrom at resolved
    split at resolved
    next =>
      have up : place.dropLast <+: place := List.dropLast_prefix place
      exact ih (linkless.above up) (all_isName_above proper up) later resolved
    next down =>
      have own := isName_of_isStep step down
      split at resolved
      next free =>
        refine ih (fun p above some visible => ?_) (by simp [proper, own]) later resolved
        rcases List.prefix_concat_iff.mp above with rfl | before
        · cases lead : t.lead? (place ++ [name]) with
          | none => rfl
          | some lead' => simp [lead, visible] at free
        · exact linkless p before some visible
      next target led =>
        obtain ⟨link, member, leads⟩ := mem_links_of_lead? (Option.filter_eq_some_iff.mp led).1
        obtain ⟨names, settled⟩ := t.settled link member target leads
        exact ih (fun p above some _ => lead?_of_isSettled settled above some) names later resolved
      next => cases resolved

theorem resolveFrom_of_linkless {place : Place} {names : List String}
    (linkless : t.Linkless (place ++ names)) (proper : names.all isName = true) :
    t.resolveFrom place names = .ok (place ++ names) := by
  induction names generalizing place with
  | nil => rw [resolveFrom, List.append_nil]
  | cons name names ih =>
    obtain ⟨own, later⟩ := Bool.and_eq_true_iff.mp (List.all_cons.symm.trans proper)
    have whole : place ++ name :: names = place ++ [name] ++ names := by simp
    have free : (t.lead? (place ++ [name])).filter (fun _ => t.isVisible (place ++ [name]))
        = none := by
      cases visible : t.isVisible (place ++ [name]) with
      | false => simp
      | true =>
        rw [linkless _ (whole ▸ List.prefix_append _ _) (by simp) visible]
        rfl
    rw [whole] at linkless ⊢
    rw [resolveFrom, if_neg (ne_up_of_isName own), free]
    exact ih linkless later

theorem resolveFrom_of_resolve {place : Place} {names : List String}
    (resolved : t.resolve names = .ok place) :
    hasNull names = false ∧ t.resolveFrom [] names = .ok place := by
  unfold resolve at resolved
  split at resolved
  · cases resolved
  next clean => exact ⟨Bool.eq_false_iff.mpr clean, resolved⟩

/-- A place without links on the way resolves to itself. -/
theorem resolve_of_linkless {place : Place} (linkless : t.Linkless place)
    (proper : place.all isName = true) : t.resolve place = .ok place := by
  rw [resolve, hasNull_of_names proper, if_neg Bool.false_ne_true]
  exact resolveFrom_of_linkless linkless proper

/-! ## Places above a place -/

theorem mem_upwards_iff {place other : Place} : other ∈ upwards place ↔ other <+: place := by
  simp only [upwards, List.mem_map, List.mem_range]
  constructor
  · rintro ⟨i, -, rfl⟩
    exact List.take_prefix _ _
  · intro above
    refine ⟨place.length - other.length, by omega, ?_⟩
    rw [Nat.sub_sub_self above.length_le]
    exact (List.prefix_iff_eq_take.mp above).symm

/-- Places come before those above them. -/
theorem pairwise_upwards (place : Place) :
    (upwards place).Pairwise fun lower upper => upper <+: lower := by
  rw [upwards, List.pairwise_map]
  refine List.pairwise_lt_range.imp fun {i j} earlier => ?_
  rw [List.take_isPrefix_take]
  omega

/-! ## The search -/

theorem ne_directory_of_open? {place : Place} {names : List String} {path : String} {file : File}
    (found : t.open? place names path = .ok (some file)) : file ≠ .directory := by
  rintro rfl
  unfold open? at found
  split at found
  · cases found
  · split at found
    · cases found
    · split at found
      next => cases found
      next reached _ =>
        obtain ⟨there, kept, inside⟩ := Option.bind_eq_some_iff.mp (Except.ok.inj found)
        have file := (Option.filter_eq_some_iff.mp kept).2
        simp [isFile, inside] at file

theorem holdsProject_eq (place : Place) :
    t.HasProject place ∧ t.holdsProject place = .ok true
    ∨ t.LacksProject place ∧ t.holdsProject place = .ok false
    ∨ ∃ fault, t.openAt? (place ++ ["pyproject.toml"]) = .error fault
      ∧ t.holdsProject place = .error fault := by
  unfold holdsProject HasProject LacksProject projectFile
  cases opened : t.openAt? (place ++ ["pyproject.toml"]) with
  | error fault => exact .inr (.inr ⟨fault, rfl, rfl⟩)
  | ok found =>
    cases found with
    | none => exact .inr (.inl ⟨rfl, rfl⟩)
    | some file => exact .inl ⟨⟨file, rfl, ne_directory_of_open? opened⟩, rfl⟩

/-- The search stops at the first place that does not lack a project file. -/
theorem firstProject_cases (ps : List Place) :
    (∀ p ∈ ps, t.LacksProject p) ∧ t.firstProject ps = .ok none
    ∨ ∃ before p after, ps = before ++ p :: after ∧ (∀ q ∈ before, t.LacksProject q)
      ∧ (t.HasProject p ∧ t.firstProject ps = .ok (some p)
        ∨ ∃ fault, t.openAt? (p ++ ["pyproject.toml"]) = .error fault
          ∧ t.firstProject ps = .error fault) := by
  induction ps with
  | nil => exact .inl ⟨List.forall_mem_nil _, rfl⟩
  | cons p ps ih =>
    rcases t.holdsProject_eq p with ⟨has, held⟩ | ⟨lacks, held⟩ | ⟨fault, refused, held⟩
    · have first : t.firstProject (p :: ps) = .ok (some p) := by rw [firstProject, held]; rfl
      exact .inr ⟨[], p, ps, rfl, List.forall_mem_nil _, .inl ⟨has, first⟩⟩
    · have next : t.firstProject (p :: ps) = t.firstProject ps := by rw [firstProject, held]; rfl
      rw [next]
      rcases ih with ⟨none, missed⟩ | ⟨before, q, after, rfl, without, stops⟩
      · exact .inl ⟨List.forall_mem_cons.mpr ⟨lacks, none⟩, missed⟩
      · exact .inr ⟨p :: before, q, after, rfl, List.forall_mem_cons.mpr ⟨lacks, without⟩, stops⟩
    · have first : t.firstProject (p :: ps) = .error fault := by rw [firstProject, held]; rfl
      exact .inr ⟨[], p, ps, rfl, List.forall_mem_nil _, .inr ⟨fault, refused, first⟩⟩

theorem nearest_of_split {place p : Place} {before after : List Place}
    (split : upwards place = before ++ p :: after) (without : ∀ q ∈ before, t.LacksProject q) :
    t.Nearest place p := by
  have ordered := pairwise_upwards place
  rw [split, List.pairwise_append, List.pairwise_cons] at ordered
  refine ⟨mem_upwards_iff.mp (by simp [split]), fun other above apart => ?_⟩
  -- what comes after the place in the search lies above it
  have member : other ∈ before ++ p :: after := split ▸ mem_upwards_iff.mpr above
  rcases List.mem_append.mp member with earlier | later
  · exact without other earlier
  · rcases List.mem_cons.mp later with rfl | later
    · exact absurd List.prefix_rfl apart
    · exact absurd (ordered.2.1.1 other later) apart

section

variable {names : List String} {place : Place} (resolved : t.resolve names = .ok place)

include resolved

theorem findRoot_of_resolve :
    t.findRoot names = (t.firstProject (upwards place)).map fun root => root.getD place := by
  have unfolded : t.findRoot names
      = (t.firstProject (upwards place)).bind fun root => .ok (root.getD place) := by
    rw [findRoot, resolved]
    rfl
  rw [unfolded]
  cases t.firstProject (upwards place) <;> rfl

theorem rooted_findRoot : t.Rooted place (t.findRoot names) := by
  rw [findRoot_of_resolve resolved]
  rcases t.firstProject_cases (upwards place) with
    ⟨none, missed⟩ | ⟨before, p, after, split, without, stops⟩
  · rw [missed]
    exact .bare fun other above => none other (mem_upwards_iff.mpr above)
  · have nearest := nearest_of_split split without
    rcases stops with ⟨has, first⟩ | ⟨fault, refused, first⟩
    · rw [first]
      exact .found nearest has
    · rw [first]
      exact .refused nearest refused

end

theorem not_lacks_of_hasProject {place : Place} (has : t.HasProject place) :
    ¬t.LacksProject place := by
  obtain ⟨file, found, -⟩ := has
  intro lacks
  cases found.symm.trans lacks

theorem not_lacks_of_refused {place : Place} {fault : SystemFault}
    (refused : t.openAt? (place ++ ["pyproject.toml"]) = .error fault) : ¬t.LacksProject place :=
  fun lacks => nomatch refused.symm.trans lacks

theorem Nearest.unique {place p q : Place} (nearest : t.Nearest place p)
    (nearest' : t.Nearest place q) (holds : ¬t.LacksProject p) (holds' : ¬t.LacksProject q) :
    p = q := by
  have up : p <+: q := not_not.mp fun apart => holds (nearest'.below p nearest.above apart)
  have down : q <+: p := not_not.mp fun apart => holds' (nearest.below q nearest'.above apart)
  exact up.eq_of_length_le down.length_le

theorem Nearest.between {place root lower : Place} (nearest : t.Nearest place root)
    (down : root <+: lower) (up : lower <+: place) : t.Nearest lower root :=
  ⟨down, fun other above => nearest.below other (above.trans up)⟩

/-- A search has one outcome. -/
theorem Rooted.unique {place : Place} {r r' : Except SystemFault Place} (rooted : t.Rooted place r)
    (rooted' : t.Rooted place r') : r = r' := by
  cases rooted with
  | found nearest has =>
    have holds := not_lacks_of_hasProject has
    cases rooted' with
    | found nearest' has' => rw [nearest.unique nearest' holds (not_lacks_of_hasProject has')]
    | bare none => exact absurd (none _ nearest.above) holds
    | refused nearest' refused =>
      obtain rfl := nearest.unique nearest' holds (not_lacks_of_refused refused)
      obtain ⟨file, found, -⟩ := has
      cases found.symm.trans refused
  | bare none =>
    cases rooted' with
    | found nearest has => exact absurd (none _ nearest.above) (not_lacks_of_hasProject has)
    | bare => rfl
    | refused nearest refused => exact absurd (none _ nearest.above) (not_lacks_of_refused refused)
  | refused nearest refused =>
    have holds := not_lacks_of_refused refused
    cases rooted' with
    | found nearest' has =>
      obtain rfl := nearest.unique nearest' holds (not_lacks_of_hasProject has)
      obtain ⟨file, found, -⟩ := has
      cases found.symm.trans refused
    | bare none => exact absurd (none _ nearest.above) holds
    | refused nearest' refused' =>
      obtain rfl := nearest.unique nearest' holds (not_lacks_of_refused refused')
      cases refused.symm.trans refused'
      rfl

/-- The search gives what comes out of it. -/
theorem findRoot_eq_iff {names : List String} {place : Place}
    (resolved : t.resolve names = .ok place)
    (r : Except SystemFault Place) : t.findRoot names = r ↔ t.Rooted place r :=
  ⟨fun same => same ▸ rooted_findRoot resolved,
    fun rooted => (rooted_findRoot resolved).unique rooted⟩

/-! ## Refusals -/

theorem refuses?_of_isVisible {place p : Place} (visible : t.isVisible place = true)
    (above : p <+: place) (some : p ≠ []) : t.refuses? p = none := by
  simpa using List.all_eq_true.mp visible p (mem_stations_iff.mpr ⟨above, some⟩)

theorem isVisible_above {place p : Place} (visible : t.isVisible place = true)
    (above : p <+: place) : t.isVisible p = true := by
  refine List.all_eq_true.mpr fun q member => ?_
  obtain ⟨upward, some⟩ := mem_stations_iff.mp member
  exact List.all_eq_true.mp visible q (mem_stations_iff.mpr ⟨upward.trans above, some⟩)

theorem reachFrom_of_isVisible {place : Place} {names : List String}
    (visible : t.isVisible (place ++ names) = true) :
    ∃ found, t.reachFrom place names = .ok found := by
  induction names generalizing place with
  | nil => exact ⟨_, rfl⟩
  | cons name names ih =>
    have whole : place ++ name :: names = place ++ [name] ++ names := by simp
    rw [whole] at visible
    have shown := refuses?_of_isVisible visible (List.prefix_append _ _) (by simp)
    unfold reachFrom
    split
    · exact ⟨_, rfl⟩
    · simp only [shown]
      exact ih visible

/-- Only the last of some names may be a link, and the way to where it leads is not refused. -/
theorem seekFrom_of_isVisible (leads : ∀ link ∈ t.links, ∀ there, link.2 = .to there →
      t.isVisible there = true) {place : Place} {names : List String} {last : String}
    (linkless : t.Linkless (place ++ names)) (proper : names.all isName = true)
    (known : isName last = true) (visible : t.isVisible (place ++ names ++ [last]) = true) :
    ∃ found, t.seekFrom place (names ++ [last]) = .ok found := by
  induction names generalizing place with
  | nil =>
    rw [List.append_nil] at visible
    have shown := refuses?_of_isVisible visible List.prefix_rfl (by simp)
    simp only [List.nil_append, seekFrom, if_neg (ne_up_of_isName known), shown]
    split
    · exact ⟨_, rfl⟩
    · split
      · exact ⟨_, rfl⟩
      · exact ⟨_, rfl⟩
      next target led =>
        obtain ⟨link, member, same⟩ := mem_links_of_lead? led
        obtain ⟨found, reached⟩ : ∃ found, t.reachFrom [] target = .ok found :=
          reachFrom_of_isVisible (leads link member target same)
        rw [reached]
        cases found <;> exact ⟨_, rfl⟩
  | cons name names ih =>
    obtain ⟨own, later⟩ := Bool.and_eq_true_iff.mp (List.all_cons.symm.trans proper)
    have whole : place ++ name :: names = place ++ [name] ++ names := by simp
    rw [whole] at linkless visible
    have above : place ++ [name] <+: place ++ [name] ++ names ++ [last] :=
      (List.prefix_append _ _).trans (List.prefix_append _ _)
    have shown := refuses?_of_isVisible visible above (by simp)
    have free := linkless _ (List.prefix_append _ _) (by simp) (isVisible_above visible above)
    simp only [List.cons_append, seekFrom, if_neg (ne_up_of_isName own), shown, free]
    split
    · exact ⟨_, rfl⟩
    · exact ih linkless later visible

theorem Unrefused.openAt? {place : Place} (unrefused : t.Unrefused place)
    (linkless : t.Linkless place) (proper : place.all isName = true) {p : Place}
    (above : p <+: place) : ∃ found, t.openAt? (p ++ ["pyproject.toml"]) = .ok found := by
  obtain ⟨found, reached⟩ : ∃ found, t.seekFrom [] (p ++ ["pyproject.toml"]) = .ok found :=
    seekFrom_of_isVisible unrefused.leads (linkless.above above) (all_isName_above proper above) rfl
      (unrefused.visible p above)
  have room : ¬pathLimit < (t.text (p ++ ["pyproject.toml"])).utf8ByteSize :=
    Nat.not_lt.mpr (unrefused.short p above)
  simp only [FileTree.openAt?, FileTree.open?, if_neg room, reached]
  split
  · exact ⟨_, rfl⟩
  · exact ⟨_, rfl⟩

end FileTree

/-! ## Paths -/

/-- A place as a path from the top. -/
def written (place : Place) : String :=
  "/" ++ joinWith "/" place

theorem isStep_of_mem_pathNames {path name : String} (member : name ∈ pathNames path)
    (clean : name.toList.contains (Char.ofNat 0) = false) : isStep name = true := by
  obtain ⟨piece, kept⟩ := List.mem_filter.mp member
  obtain ⟨cs, cut, rfl⟩ := List.mem_map.mp piece
  have slash := Text.not_mem_of_mem_splitAt cut
  rw [Bool.and_eq_true] at kept
  by_cases up : String.ofList cs = ".."
  · simp [isStep, up]
  · have null : Char.ofNat 0 ∉ cs := by simpa using clean
    simp [isStep, isName, kept.1, kept.2, up, slash, null]

theorem isStep_of_mem_namesFrom {here : Place} (proper : here.all isName = true)
    {start : Option String} (clean : hasNull (namesFrom here start) = false) :
    ∀ name ∈ namesFrom here start, isStep name = true := by
  have own : ∀ name ∈ here, isStep name = true := fun name member => by
    simp [isStep, List.all_eq_true.mp proper name member]
  intro name member
  have whole : name.toList.contains (Char.ofNat 0) = false := by
    simpa using List.any_eq_false.mp clean name member
  cases start with
  | none => exact own name member
  | some path =>
    unfold namesFrom at member
    simp only at member
    split at member
    · exact isStep_of_mem_pathNames member whole
    · rcases List.mem_append.mp member with before | after
      · exact own name before
      · exact isStep_of_mem_pathNames after whole

theorem pathNames_written {place : Place} (proper : place.all isName = true) :
    pathNames (written place) = place := by
  have toList : (written place).toList = '/' :: ['/'].intercalate (place.map String.toList) := by
    simp [written, joinWith, String.toList_intercalate]
  have each {name : String} (member : name ∈ place) :
      '/' ∉ name.toList ∧ (name != "" && name != ".") = true := by
    have known := List.all_eq_true.mp proper name member
    simp only [isName, Bool.and_eq_true, Bool.not_eq_true'] at known
    exact ⟨by simpa using known.1.2, by simp [known.1.1.1.1, known.1.1.1.2]⟩
  -- No name contains a slash, so cutting at the slashes gives the names back.
  have pieces : Text.splitAt '/' (['/'].intercalate (place.map String.toList))
      = if place = [] then [[]] else place.map String.toList := by
    rw [Text.splitAt_eq_splitOn]
    split
    next empty => simp [empty]
    next names =>
      refine List.splitOn_intercalate _ ?_ (by simpa using names)
      intro cs member
      obtain ⟨name, inside, rfl⟩ := List.mem_map.mp member
      exact (each inside).1
  rw [pathNames, toList, Text.splitAt, if_pos rfl, pieces]
  split
  next empty => simp [empty]
  next names =>
    rw [List.map_cons, List.filter_cons_of_neg (by simp), List.map_map]
    have back : place.map (String.ofList ∘ String.toList) = place := by simp [Function.comp_def]
    rw [back, List.filter_eq_self]
    exact fun name member => (each member).2

theorem namesFrom_written (elsewhere : Place) {place : Place} (proper : place.all isName = true) :
    namesFrom elsewhere (some (written place)) = place := by
  have slash : isAbsolute (written place) = true := by
    simp [isAbsolute, written, Text.startsWith, Text.dropPrefix?]
  rw [namesFrom, if_pos slash, pathNames_written proper]

theorem namesFrom_of_isName (here : Place) {name : String} (known : isName name = true) :
    namesFrom here (some name) = here ++ [name] := by
  simp only [isName, Bool.and_eq_true, Bool.not_eq_true'] at known
  obtain ⟨⟨⟨⟨empty, point⟩, -⟩, slash⟩, -⟩ := known
  have free : '/' ∉ name.toList := by simpa using slash
  have whole : pathNames name = [name] := by
    rw [pathNames, Text.splitAt_eq_splitOn, List.splitOn_eq_singleton free]
    simp [empty, point]
  have relative : ¬isAbsolute name = true := by
    rw [isAbsolute, Text.startsWith_iff]
    exact fun begins => free (begins.subset List.mem_cons_self)
  rw [namesFrom, if_neg relative, whole]

/-! ## Roots from paths -/

/-- A project with a directory inside that is named like a project file, and a link into it. -/
def linkedTree : FileTree where
  files := [(["a", "pyproject.toml"], .text ""), (["a", "b", "pyproject.toml"], .directory)]
  links := [(["x"], .to ["a", "b"])]
  settled := by simp +decide

/-- A name with more bytes than the system allows is refused before any project is found. -/
theorem FileTree.findRoot_of_long {t : FileTree} {name : String} (known : isName name = true)
    (long : nameLimit < name.utf8ByteSize)
    (short : (t.text [name, "pyproject.toml"]).utf8ByteSize ≤ pathLimit)
    (top : t.isDirectory [] = true) (free : t.links = []) :
    t.findRoot [name]
      = .error (.refused .nameTooLong (t.text [name, "pyproject.toml"])) := by
  have proper : [name].all isName = true := by rw [List.all_cons, known]; rfl
  have resolved : t.resolve [name] = .ok [name] :=
    resolve_of_linkless (fun _ _ _ _ => by rw [lead?, free]; rfl) proper
  have clean : hasNull [name, "pyproject.toml"] = false :=
    hasNull_of_names (by rw [List.all_cons, known]; rfl)
  have refused : t.openAt? ([name] ++ ["pyproject.toml"])
      = .error (.refused .nameTooLong (t.text [name, "pyproject.toml"])) := by
    simp [openAt?, open?, clean, Nat.not_lt.mpr short, seekFrom, ne_up_of_isName known, refuses?,
      Nat.not_le.mpr long, top]
  exact (findRoot_eq_iff resolved _).mpr
    (.refused ⟨List.prefix_rfl, fun _ above apart => absurd above apart⟩ refused)

theorem isName_letters (n : Nat) : isName (String.ofList (List.replicate (n + 1) 'a')) = true := by
  have other {s : String} (apart : s.toList.head? ≠ some 'a') :
      String.ofList (List.replicate (n + 1) 'a') ≠ s := by
    rintro rfl
    simp [List.replicate_succ] at apart
  have point : String.ofList (List.replicate (n + 1) 'a') ≠ "." := other (by decide)
  have up : String.ofList (List.replicate (n + 1) 'a') ≠ ".." := other (by decide)
  simp [isName, point, up]

def topProject : FileTree where
  files := [(["pyproject.toml"], .text "")]

end InlineCheck
