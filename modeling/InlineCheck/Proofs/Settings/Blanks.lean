import InlineCheck.Proofs.Settings.Dependence

/-! # Empty variables

A variable that is set to the empty text decides nothing, and still it is set: in the environment it
hides what the environment file says, and the project table decides instead.

* `blanks` — the variables of fields, all set to the empty text.
* `variableText?_blanks` — what variables say when blanks are put over them.
* `blank_variables_unset_iff` — blanks count as unset exactly where the environment file has nothing
  for them to hide.
-/

namespace InlineCheck

open Validation

namespace Settings

/-- The variables of fields, set to the empty text. -/
def blanks (fs : List Field) : EnvFile.Variables :=
  fs.map fun f => (variableName f.name, some "")

theorem find?_blanks (fs : List Field) (vs : EnvFile.Variables) (f : Field) :
    (vs.update (blanks fs)).find? (variableName f.name)
      = if f ∈ fs then some (some "") else vs.find? (variableName f.name) := by
  induction fs generalizing vs with
  | nil => simp [blanks, EnvFile.Variables.update]
  | cons g fs ih =>
    have step : vs.update (blanks (g :: fs))
        = (EnvFile.Variables.set (variableName g.name) (some "") vs).update (blanks fs) := rfl
    rw [step, ih, EnvFile.Variables.find?_set]
    by_cases here : f = g
    · simp [here]
    · simp [here, variableName_inj]

theorem variableText?_blanks (fs : List Field) (vs : EnvFile.Variables) (f : Field) :
    variableText? (vs.update (blanks fs)) f.name
      = if f ∈ fs then none else variableText? vs f.name := by
  unfold variableText?
  rw [find?_blanks]
  by_cases blanked : f ∈ fs
  · simp [blanked]
  · simp [blanked]

theorem find?_mem_unset_iff (vs : EnvFile.Variables) (f : Field) :
    vs.find? (variableName f.name) ∈ [none, some none, some (some "")]
      ↔ variableText? vs f.name = none := by
  unfold variableText?
  rcases vs.find? (variableName f.name) with _ | _ | text <;> simp

/-! ## A table that tells -/

/-- A project file whose table has no value that a field could take. -/
def emptyTableFor (f : Field) : String :=
  "[tool.tally." ++ f.name ++ "]"

theorem tableFor_emptyTableFor (f : Field) (environment : String) :
    tableFor (.ofTexts (emptyTableFor f) environment) [] = .ok [(.text f.name, .dict [])] := by
  have parsed : Toml.parse (emptyTableFor f)
      = .ok [(.text "tool", .dict [(.text "tally", .dict [(.text f.name, .dict [])])])] := by
    cases f <;> rfl
  rw [tableFor_ofTexts, tableOf, parsed]
  rfl

theorem Field.complains_of_dict (f : Field) :
    ∃ x ∈ f.complaints (some (.dict [])), x.input = .dict [] := by
  cases f <;> exact ⟨_, List.mem_singleton.mpr rfl, rfl⟩

theorem lookup_emptyTable {f g : Field} (other : g ≠ f) :
    Value.lookup (.text g.name) [(.text f.name, .dict [])] = none := by
  cases f <;> cases g <;> first | rfl | exact absurd rfl other

/-- When a variable decides about a field, the entry of the field is never looked at. -/
theorem input_of_overridden {f : Field} {env : EnvFile.Variables}
    (decided : variableText? env f.name ≠ none) {x : Finding}
    (wrong : x ∈ complaints (merged [(.text f.name, .dict [])] env)) : x.input ≠ .dict [] := by
  rcases mem_complaints_iff.mp wrong with ⟨g, found⟩ | extra
  · rw [lookup_merged, rawValue_eq_or] at found
    cases spoken : variableText? env g.name with
    | some text =>
      rw [spoken, Option.map_some, Option.some_or] at found
      rw [Field.input_of_complaint found]
      nofun
    | none =>
      -- this is another field, which has no entry
      have other : g ≠ f := by
        rintro rfl
        exact decided spoken
      rw [spoken, Option.map_none, Option.none_or, lookup_emptyTable other] at found
      cases found
  · have known : unexpected [(.text f.name, .dict [])] = [] := by cases f <;> rfl
    rw [unexpected_merged, known] at extra
    cases extra

/-- Two environments that disagree on whether a variable decides about a field are told apart by a
project that has only an entry for it, and one that it refuses. -/
theorem load_emptyTableFor_ne {text : String} {f : Field} {cs : List Char}
    (read : environmentText (.ofTexts (emptyTableFor f) text) [] = .ok cs)
    {process environ environ' : EnvFile.Variables}
    (decided : variableText? (overlaid process environ cs) f.name ≠ none)
    (undecided : variableText? (overlaid process environ' cs) f.name = none) :
    (load (.ofTexts (emptyTableFor f) text) [] process environ').value
      ≠ (load (.ofTexts (emptyTableFor f) text) [] process environ).value := by
  intro same
  have valid := validate_eq_of_load (tableFor_emptyTableFor f text) read same
  obtain ⟨x, wrong, input⟩ := f.complains_of_dict
  have told :
      x ∈ complaints (merged [(.text f.name, .dict [])] (overlaid process environ' cs)) := by
    refine mem_complaints_iff.mpr (.inl ⟨f, ?_⟩)
    rw [lookup_merged, rawValue_eq_or, undecided]
    simpa [Value.lookup, Value.same] using wrong
  rw [complaints_eq_of_validate valid] at told
  exact input_of_overridden decided told input

end Settings

/-- Setting variables of fields that the environment lacks to the empty text makes no difference to
any project with an environment file exactly when that file leaves them unset, without a value or
empty. -/
theorem blank_variables_unset_iff (t : FileTree) (place : Place)
    (process environ : EnvFile.Variables) (fs : List Settings.Field)
    (lacking : ∀ f ∈ fs, environ.find? (Settings.variableName f.name) = none) :
    (∀ t' place', Settings.environmentText t' place' = Settings.environmentText t place →
        (Settings.load t' place' process (environ ++ Settings.blanks fs)).value
          = (Settings.load t' place' process environ).value)
      ↔ ∀ cs, Settings.environmentText t place = .ok cs → ∀ f ∈ fs,
          (EnvFile.read process cs).value.find? (Settings.variableName f.name)
            ∈ [none, some none, some (some "")] := by
  have blanked (cs : List Char) (f : Settings.Field) :
      Settings.variableText? (Settings.overlaid process (environ ++ Settings.blanks fs) cs) f.name
        = if f ∈ fs then none
          else Settings.variableText? (Settings.overlaid process environ cs) f.name := by
    rw [Settings.overlaid, EnvFile.Variables.update_append, Settings.variableText?_blanks]
    rfl
  simp only [Settings.find?_mem_unset_iff]
  constructor
  · intro same cs read f member
    apply Classical.byContradiction
    intro decided
    rw [← Settings.variableText?_overlaid (lacking f member)] at decided
    obtain ⟨text, reads⟩ := Settings.environmentText_ofTexts read
    apply Settings.load_emptyTableFor_ne (reads _) decided ((blanked cs f).trans (if_pos member))
    exact same _ [] ((reads _).trans read.symm)
  · intro hidden t' place' text
    apply Settings.load_congr
    intro cs read f
    rw [blanked cs f]
    by_cases member : f ∈ fs
    · rw [if_pos member, Settings.variableText?_overlaid (lacking f member)]
      exact (hidden cs (text ▸ read) f member).symm
    · rw [if_neg member]

/-- An environment file with one variable that is empty and one that has no value. -/
def sparseFile : FileTree where
  files := [
    (["pyproject.toml"], .text "[tool.tally]\nverbosity = 1\nsummary = false\n"),
    ([".env"], .text "TALLY_SUMMARY=\nTALLY_ADDOPTS\nTALLY_REPORTER=ConsoleReporter\n")]

theorem sparseFile_blanks_unset :
    (∀ f ∈ [Settings.Field.summary, .verbosity, .addopts],
      EnvFile.Variables.find? [("HOME", some "/")] (Settings.variableName f.name) = none)
    ∧ (Settings.load sparseFile [] [] [("HOME", some "/"), ("TALLY_SUMMARY", some ""),
        ("TALLY_VERBOSITY", some ""), ("TALLY_ADDOPTS", some "")]).value
      = (Settings.load sparseFile [] [] [("HOME", some "/")]).value := by
  have lacking : ∀ f ∈ [Settings.Field.summary, .verbosity, .addopts],
      EnvFile.Variables.find? [("HOME", some "/")] (Settings.variableName f.name) = none := by
    decide +kernel
  refine ⟨lacking, (blank_variables_unset_iff sparseFile [] [] _ _ lacking).mpr ?_ _ [] rfl⟩
  intro cs read f member
  cases read
  revert f
  decide +kernel

/-- An environment file with a verbosity. -/
def spokenFile : FileTree where
  files := [(["pyproject.toml"], .text ""), ([".env"], .text "TALLY_VERBOSITY=2\n")]

/-- An empty variable does not count as unset: it hides the one of the environment file. -/
theorem blank_verbosity_hides_file :
    EnvFile.Variables.find? [] (Settings.variableName Settings.Field.verbosity.name) = none
    ∧ (Settings.load spokenFile [] [] []).value = .ok { verbosity := 2 }
    ∧ (Settings.load spokenFile [] [] [("TALLY_VERBOSITY", some "")]).value = .ok {} := by
  refine ⟨rfl, ?_, ?_⟩
  · rfl
  · rfl

end InlineCheck
