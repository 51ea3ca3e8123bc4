import InlineCheck.Proofs.Settings.Effective

/-! # Forms of values

What an environment file makes of its variables can be said before the environment is known: a value
is a row of characters and of references that no earlier line of the file answers.

* `Part` and `fill` — such a row, and the text that an environment makes of it.
* `outline` — the rows of a file, line by line.
* `resolve_fills` — the variables of a file are its rows, filled from the environment.
* `borrowed` — the names that a variable takes from the environment, directly or through others.
* `fill_congr` and `count_fill_letters` — its value depends on these names and on each of them.
-/

namespace InlineCheck.EnvFile

open Variables (find?_set find?_update)

/-- A character of a value, or a reference that is left to the environment. -/
inductive Part where
  | own (c : Char)
  | outer (name default : List Char)
  deriving DecidableEq, Repr

namespace Part

def fill (environment : Variables) : Part → List Char
  | .own c => [c]
  | .outer name default => referenceText environment name default

def outerName? : Part → Option String
  | .own _ => none
  | .outer name _ => some (String.ofList name)

end Part

/-- The text that an environment makes of a form. -/
def fill (environment : Variables) (form : List Part) : String :=
  String.ofList (form.flatMap (Part.fill environment))

/-- What is known of variables before the environment is: the form of the value, if there is one. -/
abbrev Outline := String → Option (Option (List Part))

def referenceForm (known : Outline) (name default : List Char) : List Part :=
  match known (String.ofList name) with
  | some (some form) => form
  | some none => []
  | none => [.outer name default]

/-- The form of a value; `skip` characters belong to a reference already taken. -/
def formFrom (known : Outline) (skip : Nat) : List Char → List Part
  | [] => []
  | c :: cs =>
    match skip with
    | skip + 1 => formFrom known skip cs
    | 0 =>
      match (if c = '$' then reference? cs else none) with
      | some (name, default, size) => referenceForm known name default ++ formFrom known size cs
      | none => .own c :: formFrom known 0 cs

/-- What is known of variables after a line that sets one. -/
def Outline.set (name : String) (value : Option String) (known : Outline) : Outline :=
  fun other =>
    if other = name then some (value.map fun text => formFrom known 0 text.toList) else known other

/-- What is known of variables after lines. -/
def outline (known : Outline) : List Binding → Outline
  | [] => known
  | .entry name value :: bs => outline (known.set name value) bs
  | _ :: bs => outline known bs

/-! ## Filling -/

/-- Variables are what is known of them, filled from an environment. -/
structure Fills (environment : Variables) (known : Outline) (vs : Variables) : Prop where
  distinct : (vs.map Prod.fst).Nodup
  found : ∀ name, vs.find? name = (known name).map (Option.map (fill environment))

theorem nodup_set {vs : Variables} (distinct : (vs.map Prod.fst).Nodup) (name : String)
    (value : Option String) : ((Variables.set name value vs).map Prod.fst).Nodup := by
  -- setting a name brings in no other one
  have names (other : String) (vs : Variables) (apart : other ≠ name) :
      other ∈ (Variables.set name value vs).map Prod.fst → other ∈ vs.map Prod.fst := by
    induction vs with
    | nil => simp [Variables.set, apart]
    | cons e vs ih =>
      by_cases here : e.1 = name
      · simp [Variables.set, here, apart]
      · intro member
        simp only [Variables.set, beq_iff_eq, here, if_false, List.map_cons,
          List.mem_cons] at member
        rcases member with first | later
        · simp [first]
        · exact List.mem_cons_of_mem _ (ih later)
  induction vs with
  | nil => simp [Variables.set]
  | cons e vs ih =>
    obtain ⟨fresh, later⟩ := List.nodup_cons.mp distinct
    by_cases here : e.1 = name
    · simpa [Variables.set, here] using distinct
    · simp only [Variables.set, beq_iff_eq, here, if_false, List.map_cons]
      exact List.nodup_cons.mpr ⟨fun member => fresh (names e.1 vs here member), ih later⟩

section

variable {environment : Variables} {known : Outline} {vs : Variables}

/-- A reference means an earlier line, whose form stands for it, or it is left over. -/
theorem Fills.reference (fills : Fills environment known vs) (name default : List Char) :
    referenceText (environment.update vs) name default
      = (referenceForm known name default).flatMap (Part.fill environment) := by
  -- earlier lines are asked before the environment is
  have found := fills.found (String.ofList name)
  unfold referenceText referenceForm
  rw [find?_update fills.distinct, found]
  cases known (String.ofList name) with
  | none => simp [Part.fill, referenceText]
  | some form? =>
    cases form? with
    | none => rfl
    | some form => simp [fill]

theorem Fills.expandFrom (fills : Fills environment known vs) (skip : Nat) (cs : List Char) :
    expandFrom (environment.update vs) skip cs
      = (formFrom known skip cs).flatMap (Part.fill environment) := by
  induction cs generalizing skip with
  | nil => rfl
  | cons c cs ih =>
    cases skip with
    | succ skip => exact ih skip
    | zero =>
      simp only [EnvFile.expandFrom, formFrom]
      cases (if c = '$' then reference? cs else none) with
      | none => simp [Part.fill, ih]
      | some taken =>
        obtain ⟨name, default, size⟩ := taken
        simp [fills.reference, ih]

/-- A line keeps variables filled. -/
theorem Fills.set (fills : Fills environment known vs) (name : String) (value : Option String) :
    Fills environment (known.set name value)
      (Variables.set name (value.map (expand (environment.update vs))) vs) where
  distinct := nodup_set fills.distinct name _
  found other := by
    rw [find?_set, Outline.set]
    by_cases here : other = name
    · cases value with
      | none => simp [here]
      | some text => simp [here, expand, fill, fills.expandFrom]
    · simp [here, fills.found]

theorem resolve_fills (fills : Fills environment known vs) (bs : List Binding) :
    Fills environment (outline known bs) (resolve environment bs vs) := by
  induction bs generalizing known vs with
  | nil => exact fills
  | cons b bs ih =>
    cases b with
    | entry name value => exact ih (fills.set name value)
    | nothing | bad => exact ih fills

end

/-- What is known of the variables of a file. -/
def outlineOf (cs : List Char) : Outline :=
  outline (fun _ => none) (bindings cs)

theorem find?_read (environment : Variables) (cs : List Char) (name : String) :
    (read environment cs).value.find? name
      = (outlineOf cs name).map (Option.map (fill environment)) := by
  have nothing : Fills environment (fun _ => none) [] := ⟨List.nodup_nil, fun _ => rfl⟩
  exact (resolve_fills nothing (bindings cs)).found name

/-! ## Borrowed names -/

/-- The names that the form of a variable leaves to the environment. -/
def borrowed (cs : List Char) (name : String) : List String :=
  match outlineOf cs name with
  | some (some form) => form.filterMap Part.outerName?
  | _ => []

theorem fill_congr {environment environment' : Variables} {form : List Part}
    (same : ∀ name ∈ form.filterMap Part.outerName?,
      environment.find? name = environment'.find? name) :
    fill environment form = fill environment' form := by
  have parts : ∀ p ∈ form, p.fill environment = p.fill environment' := by
    intro p member
    cases p with
    | own c => rfl
    | outer name default =>
      have found := same (String.ofList name) (List.mem_filterMap.mpr ⟨_, member, rfl⟩)
      simp [Part.fill, referenceText, found]
  rw [fill, fill, List.flatMap_def, List.flatMap_def, List.map_congr_left parts]

theorem find?_read_congr {environment environment' : Variables} {cs : List Char} {name : String}
    (same : ∀ other ∈ borrowed cs name, environment.find? other = environment'.find? other) :
    (read environment cs).value.find? name = (read environment' cs).value.find? name := by
  rw [find?_read, find?_read]
  unfold borrowed at same
  cases known : outlineOf cs name with
  | none => rfl
  | some form? =>
    cases form? with
    | none => rfl
    | some form =>
      rw [known] at same
      simp [fill_congr same]

/-- An environment with a single variable, of so many letters. -/
def lettered (name : String) (size : Nat) : Variables :=
  [(name, some (String.ofList (List.replicate size 'a')))]

/-- Letters in the environment come out as often as their variable is referred to. -/
theorem count_fill_letters (name : String) (size : Nat) (form : List Part) :
    (fill (lettered name size) form).toList.count 'a'
      = (fill (lettered name 0) form).toList.count 'a'
        + (form.filterMap Part.outerName?).count name * size := by
  simp only [fill, String.toList_ofList]
  induction form with
  | nil => simp
  | cons p form ih =>
    cases p with
    | own c =>
      have named : (Part.own c :: form).filterMap Part.outerName?
          = form.filterMap Part.outerName? := rfl
      rw [named, List.flatMap_cons, List.flatMap_cons, List.count_append, List.count_append, ih]
      simp only [Part.fill]
      omega
    | outer other default =>
      -- a reference to the name brings in all of its letters, any other one its default
      have find (size : Nat) : (lettered name size).find? (String.ofList other)
          = if name = String.ofList other
            then some (some (String.ofList (List.replicate size 'a'))) else none := by
        by_cases same : name = String.ofList other
        · simp [lettered, Variables.find?, same]
        · simp [lettered, Variables.find?, same]
      have named : (Part.outer other default :: form).filterMap Part.outerName?
          = String.ofList other :: form.filterMap Part.outerName? := rfl
      rw [named, List.flatMap_cons, List.flatMap_cons, List.count_append, List.count_append, ih,
        List.count_cons]
      simp only [Part.fill, referenceText, find]
      by_cases same : name = String.ofList other
      · simp [← same, Nat.add_mul]
        omega
      · simp [same, Ne.symm same]
        omega

end InlineCheck.EnvFile
