import InlineCheck.Proofs.Project.Forms
import InlineCheck.Proofs.Settings.Dependence
import InlineCheck.Proofs.Text.Cutting

/-! # Settings that borrow

An environment that is given in place of the process's own overrides settings in its stead. The
environment file is still expanded from the process's own, so that one can show through.

* `load_congr_borrowed` — a load depends on the process only through the names that the variables of
  fields borrow.
* `Field.tells_letters` — every field tells variables with different numbers of letters apart.
* `load_ones_ne` — so a variable that borrows shows what the process has.
* `process_environment_hidden_iff` — the process does not count exactly where nothing is borrowed.
-/

namespace InlineCheck

open Validation

/-! ## Letters -/

namespace Validation

theorem boolOfText?_of_long {s : String} (long : 6 ≤ s.toList.length) : boolOfText? s = none := by
  have size : (String.ofList (s.toList.map Char.toLower)).length = s.toList.length := by simp
  have unlisted (ws : List String) (bounded : ∀ word ∈ ws, word.length < 6) :
      ws.contains (String.ofList (s.toList.map Char.toLower)) = false := by
    rw [Bool.eq_false_iff, Ne, List.contains_iff_mem]
    intro listed
    have := bounded _ listed
    omega
  have untrue := unlisted ["1", "t", "y", "on", "yes", "true"] (by decide)
  have unfalse := unlisted ["0", "f", "n", "no", "off", "false"] (by decide)
  simp only [boolOfText?, untrue, unfalse]
  rfl

/-! Of a text that is read as a number, nothing but blanks, signs, zeros, underscores and points is
dropped on the way to its digits, and a letter is never one of those. -/

theorem plainInt?_of_letter {cs : List Char} (letter : 'a' ∈ cs) : plainInt? cs = none := by
  have undigits (negative : Bool) {ds : List Char} (letter : 'a' ∈ ds) :
      plainInt?.digits? negative ds = none := by
    have mixed : ds.all Char.isDigit = false := by
      rw [List.all_eq_false]
      exact ⟨'a', letter, by decide⟩
    simp [plainInt?.digits?, mixed]
  unfold plainInt?
  split
  · exact undigits true (by simpa using letter)
  · exact undigits false letter

theorem letter_mem_zeros {last : Char} {cs ds : List Char} (letter : 'a' ∈ cs)
    (dropped : dropLeadingZeros.zeros last cs = some ds) : 'a' ∈ ds := by
  induction cs generalizing last with
  | nil => cases letter
  | cons c cs ih =>
    simp only [dropLeadingZeros.zeros] at dropped
    split at dropped
    next zero =>
      have other : 'a' ≠ c := by
        rintro rfl
        exact absurd zero (by decide)
      exact ih (by simpa [other] using letter) dropped
    next =>
      split at dropped
      next =>
        cases dropped
        exact letter
      next =>
        split at dropped
        next =>
          cases dropped
          exact List.mem_cons_of_mem _ letter
        next => cases dropped

theorem letter_mem_dropLeadingZeros {cs ds : List Char} (letter : 'a' ∈ cs)
    (dropped : dropLeadingZeros cs = some ds) : 'a' ∈ ds := by
  cases cs with
  | nil => cases letter
  | cons c cs =>
    simp only [dropLeadingZeros] at dropped
    split at dropped
    next =>
      cases dropped
      exact letter
    next =>
      split at dropped
      next zero =>
        have other : 'a' ≠ c := by
          rintro rfl
          exact absurd zero (by decide)
        exact letter_mem_zeros (by simpa [other] using letter) dropped
      next => cases dropped

theorem letter_mem_dropUnderscores {cs ds : List Char} (letter : 'a' ∈ cs)
    (dropped : dropUnderscores cs = some ds) : 'a' ∈ ds := by
  unfold dropUnderscores at dropped
  split at dropped
  · cases dropped
    exact letter
  · split at dropped
    · cases dropped
    · cases dropped
      exact List.mem_filter.mpr ⟨letter, by decide⟩

theorem letter_mem_dropZeroFraction {cs : List Char} (letter : 'a' ∈ cs) :
    'a' ∈ dropZeroFraction cs := by
  unfold dropZeroFraction
  split
  next whole fraction found =>
    split
    next zeros =>
      -- the letter is no zero, so it stands before the point
      rw [(Text.cutFirst?_eq_some found).1, List.mem_append, List.mem_cons] at letter
      rcases letter with before | point | after
      · exact before
      · cases point
      · rw [Bool.and_eq_true, List.all_eq_true] at zeros
        exact absurd (zeros.2 _ after) (by decide)
    next => exact letter
  next => exact letter

theorem looseInt?_of_letter {cs : List Char} (letter : 'a' ∈ cs) : looseInt? cs = none := by
  have trimmed : 'a' ∈ Text.trim Text.isSpace cs := Text.mem_trim_of_neg (by decide) letter
  have rest {ds : List Char} (letter : 'a' ∈ ds) :
      (do
        let ds ← dropLeadingZeros ds
        let ds ← dropUnderscores ds
        plainInt? (dropZeroFraction ds)) = none := by
    cases zeros : dropLeadingZeros ds with
    | none => rfl
    | some ds' =>
      have second := letter_mem_dropLeadingZeros letter zeros
      cases underscores : dropUnderscores ds' with
      | none => simp [underscores]
      | some ds'' =>
        have third := letter_mem_dropUnderscores second underscores
        simp [underscores, plainInt?_of_letter (letter_mem_dropZeroFraction third)]
  unfold looseInt?
  dsimp only
  generalize Text.trim Text.isSpace cs = ds at trimmed
  split
  next signed =>
    split
    · rfl
    · exact rest (by simpa using trimmed)
  next => exact rest trimmed

theorem readIntText_of_letter {s : String} (letter : 'a' ∈ s.toList) :
    readIntText s = .error .intUnread := by
  simp [readIntText, plainInt?_of_letter letter, looseInt?_of_letter letter]

end Validation

namespace Settings

open EnvFile (borrowed lettered)

/-- Every field tells texts with different numbers of letters apart, be it in its value or in what
it complains about. -/
theorem Field.tells_letters {f : Field} {s s' : String} (many : 6 ≤ s.toList.count 'a')
    (many' : 6 ≤ s'.toList.count 'a') (apart : s.toList.count 'a' ≠ s'.toList.count 'a') :
    readField f.name (f.value {}) f.read (some (variableValue f.name s))
      ≠ readField f.name (f.value {}) f.read (some (variableValue f.name s')) := by
  have other : s ≠ s' := by
    rintro rfl
    exact apart rfl
  have long {s : String} (many : 6 ≤ s.toList.count 'a') : boolOfText? s = none :=
    boolOfText?_of_long (Nat.le_trans many List.count_le_length)
  have letter {s : String} (many : 6 ≤ s.toList.count 'a') : readIntText s = .error .intUnread :=
    readIntText_of_letter (List.count_pos_iff.mp (by omega))
  intro same
  cases f with
  | reporter =>
    exact other (by simpa [readField, read, single, readText, variableValue, name,
      Except.mapError] using same)
  | summary =>
    exact other (by simpa [readField, read, single, readBool, readBoolText, long many, long many',
      variableValue, name, Except.mapError] using same)
  | verbosity =>
    exact other (by simpa [readField, read, single, readInt, letter many, letter many',
      variableValue, name, Except.mapError] using same)
  | addopts =>
    have words : Text.words s = Text.words s' := by
      simpa [readField, read, readTexts, readItems_texts, variableValue, name,
        Except.mapError] using same
    apply apart
    rw [← Text.count_words, words, Text.count_words]

/-! ## One field at a time -/

theorem exists_validate_iff (es : List (Value × Value)) :
    (∃ s, validate es = .ok s) ↔ unexpected es = []
      ∧ ∀ f : Field, ∃ x, f.Reads x (Value.lookup (.text f.name) es) := by
  simp only [validate_eq_ok_iff, ← unexpected_eq_nil_iff]
  constructor
  · rintro ⟨s, known, reads⟩
    exact ⟨known, fun f => ⟨_, reads f⟩⟩
  · rintro ⟨known, reads⟩
    obtain ⟨values, reads⟩ := Classical.skolem.mp reads
    refine ⟨Field.record values, known, fun f => ?_⟩
    rw [Field.value_record]
    exact reads f

/-- When nothing is wrong elsewhere, an outcome shows how a field was read. -/
theorem readField_eq_of_validate {f : Field} {es es' : List (Value × Value)}
    (known : unexpected es = []) (known' : unexpected es' = [])
    (others : ∀ g, g ≠ f → ∃ x, g.Reads x (Value.lookup (.text g.name) es))
    (others' : ∀ g, g ≠ f → ∃ x, g.Reads x (Value.lookup (.text g.name) es'))
    (same : validate es = validate es') :
    readField f.name (f.value {}) f.read (Value.lookup (.text f.name) es)
      = readField f.name (f.value {}) f.read (Value.lookup (.text f.name) es') := by
  cases valid : validate es with
  | ok s =>
    have reads := ((validate_eq_ok_iff es s).mp valid).2 f
    have reads' := ((validate_eq_ok_iff es' s).mp (same ▸ valid)).2 f
    rw [(readField_eq_ok_iff f _ _).mpr reads, (readField_eq_ok_iff f _ _).mpr reads']
  | error report =>
    have alone {es : List (Value × Value)} (known : unexpected es = [])
        (others : ∀ g, g ≠ f → ∃ x, g.Reads x (Value.lookup (.text g.name) es))
        (invalid : validate es = .error report) :
        readField f.name (f.value {}) f.read (Value.lookup (.text f.name) es)
          = .error (complaints es) := by
      -- all complaints are about this field, and it must have some
      have silent (g : Field) (other : g ≠ f) :
          g.complaints (Value.lookup (.text g.name) es) = [] := by
        obtain ⟨x, reads⟩ := others g other
        exact Field.complaints_of_reads reads
      have all : complaints es = f.complaints (Value.lookup (.text f.name) es) := by
        cases f <;> simp [complaints, silent, known]
      cases read : readField f.name (f.value {}) f.read (Value.lookup (.text f.name) es) with
      | error fs => rw [all, Field.complaints, read, findings]
      | ok x =>
        have reads : ∀ g : Field, ∃ x, g.Reads x (Value.lookup (.text g.name) es) := by
          intro g
          by_cases here : g = f
          · subst here
            exact ⟨x, (readField_eq_ok_iff g _ x).mp read⟩
          · exact others g here
        obtain ⟨s, valid⟩ := (exists_validate_iff es).mpr ⟨known, reads⟩
        rw [invalid] at valid
        cases valid
    rw [alone known others valid, alone known' others' (same ▸ valid),
      complaints_eq_of_validate same]

/-- An environment that gives every field but one a value that it can be read from. -/
def ones (f : Field) : EnvFile.Variables :=
  ([.reporter, .summary, .verbosity, .addopts].filter (· ≠ f)).map fun g : Field =>
    (variableName g.name, some "1")

theorem find?_ones (f g : Field) :
    (ones f).find? (variableName g.name) = if g = f then none else some (some "1") := by
  cases f <;> cases g <;> rfl

theorem Field.reads_one (f : Field) : ∃ x, f.Reads x (some (variableValue f.name "1")) := by
  cases f <;> exact ⟨_, rfl⟩

theorem reads_of_ones {f g : Field} (other : g ≠ f) (process : EnvFile.Variables) (cs : List Char) :
    ∃ x, g.Reads x (Value.lookup (.text g.name) (merged [] (overlaid process (ones f) cs))) := by
  have distinct : ((ones f).map Prod.fst).Nodup := by cases f <;> decide
  have one : variableText? (overlaid process (ones f) cs) g.name = some "1" := by
    unfold variableText? overlaid
    rw [EnvFile.Variables.find?_update distinct, find?_ones, if_neg other]
    rfl
  rw [lookup_merged, rawValue_eq_or, one]
  exact g.reads_one

/-! ## What is borrowed -/

/-- Of the process, only the names count that variables of fields borrow, where the environment does
not have these variables itself. -/
theorem load_congr_borrowed {t : FileTree} {place : Place}
    {process process' environ : EnvFile.Variables}
    (same : ∀ cs, environmentText t place = .ok cs → ∀ f : Field,
      environ.find? (variableName f.name) = none → ∀ name ∈ borrowed cs (variableName f.name),
        process.find? name = process'.find? name) :
    (load t place process environ).value = (load t place process' environ).value := by
  apply load_congr
  intro cs read f
  unfold variableText? overlaid
  rw [EnvFile.Variables.find?_update_congr]
  intro lacking
  exact EnvFile.find?_read_congr (same cs read f lacking)

/-- A borrowed name shows in a project without a table, when the other fields are given. -/
theorem load_ones_ne {text : String} {cs : List Char}
    (read : environmentText (.ofTexts "" text) [] = .ok cs) {f : Field} {name : String}
    (borrows : name ∈ borrowed cs (variableName f.name)) :
    (load (.ofTexts "" text) [] (lettered name 6) (ones f)).value
      ≠ (load (.ofTexts "" text) [] (lettered name 7) (ones f)).value := by
  obtain ⟨form, known, member⟩ : ∃ form,
      EnvFile.outlineOf cs (variableName f.name) = some (some form)
        ∧ name ∈ form.filterMap EnvFile.Part.outerName? := by
    unfold borrowed at borrows
    split at borrows
    next form known => exact ⟨form, known, borrows⟩
    next => cases borrows
  have count (size : Nat) := EnvFile.count_fill_letters name size form
  have often := Nat.mul_le_mul_right 6 (List.count_pos_iff.mpr member)
  have often' := Nat.mul_le_mul_right 7 (List.count_pos_iff.mpr member)
  have six := count 6
  have seven := count 7
  have entry (size : Nat) (some' : 0 < (EnvFile.fill (lettered name size) form).toList.count 'a') :
      Value.lookup (.text f.name) (merged [] (overlaid (lettered name size) (ones f) cs))
        = some (variableValue f.name (EnvFile.fill (lettered name size) form)) := by
    have full : EnvFile.fill (lettered name size) form ≠ "" := by
      intro empty
      rw [empty] at some'
      cases some'
    have missing : (ones f).find? (variableName f.name) = none := by rw [find?_ones, if_pos rfl]
    rw [lookup_merged, rawValue_eq_or, variableText?_overlaid missing, variableText?,
      EnvFile.find?_read, known]
    simp [full]
  intro same
  have tabled : tableFor (.ofTexts "" text) [] = .ok [] := rfl
  have valid := validate_eq_of_load tabled read same
  have fields := readField_eq_of_validate (unexpected_merged [] _) (unexpected_merged [] _)
    (fun g other => reads_of_ones other _ cs) (fun g other => reads_of_ones other _ cs) valid
  rw [entry 6 (by omega), entry 7 (by omega)] at fields
  exact Field.tells_letters (by omega) (by omega) (by omega) fields

end Settings

/-- The process's own environment does not count for any project with an environment file exactly
when the variables of fields in that file borrow no name from it. In any case it counts for these
names only, and only where the given environment lacks the variable. -/
theorem process_environment_hidden_iff (t : FileTree) (place : Place) :
    ((∀ t' place', Settings.environmentText t' place' = Settings.environmentText t place →
        ∀ environ process process', (Settings.load t' place' process environ).value
          = (Settings.load t' place' process' environ).value)
      ↔ ∀ cs, Settings.environmentText t place = .ok cs → ∀ f : Settings.Field,
          EnvFile.borrowed cs (Settings.variableName f.name) = [])
    ∧ ∀ environ process process' : EnvFile.Variables,
        (∀ cs, Settings.environmentText t place = .ok cs → ∀ f : Settings.Field,
          environ.find? (Settings.variableName f.name) = none →
            ∀ name ∈ EnvFile.borrowed cs (Settings.variableName f.name),
              process.find? name = process'.find? name) →
        (Settings.load t place process environ).value
          = (Settings.load t place process' environ).value := by
  refine ⟨⟨?_, ?_⟩, fun environ process process' same => Settings.load_congr_borrowed same⟩
  · intro same cs read f
    rw [List.eq_nil_iff_forall_not_mem]
    intro name borrows
    obtain ⟨text, reads⟩ := Settings.environmentText_ofTexts read
    apply Settings.load_ones_ne (reads "") borrows
    exact same _ [] ((reads "").trans read.symm) _ _ _
  · intro nothing t' place' text environ process process'
    apply Settings.load_congr_borrowed
    intro cs read f _ name borrows
    rw [nothing cs (text ▸ read) f] at borrows
    cases borrows

/-- An environment file that refers to itself, and to the process in two variables. -/
def lentText : String :=
  "QUIET=0\nTALLY_SUMMARY=$\x7bQUIET\x7d\n"
    ++ "PATHS=$\x7bHOME\x7d/bin\nTALLY_REPORTER=$\x7bSHELL:-zsh\x7d\n"

def lentFile : FileTree where
  files := [(["pyproject.toml"], .text "[tool.tally]\nverbosity = 1\n"), ([".env"], .text lentText)]

theorem lentFile_process_hidden :
    (Settings.load lentFile [] [] [("TALLY_REPORTER", some "ConsoleReporter")]).value.toOption
      = some { reporter := "ConsoleReporter", summary := false, verbosity := 1 }
    ∧ ∀ process process' : EnvFile.Variables,
        (Settings.load lentFile [] process [("TALLY_REPORTER", some "ConsoleReporter")]).value
          = (Settings.load lentFile [] process'
              [("TALLY_REPORTER", some "ConsoleReporter")]).value := by
  refine ⟨by decide +kernel, fun process process' => ?_⟩
  apply (process_environment_hidden_iff lentFile []).2
  intro cs read f lacking name borrows
  cases read
  have reporter : f = .reporter := by
    have others : ∀ f : Settings.Field, f = .reporter ∨ EnvFile.borrowed
        (Text.unifyNewlines lentText.toList) (Settings.variableName f.name) = [] := by
      decide +kernel
    rcases others f with reporter | nothing
    · exact reporter
    · rw [nothing] at borrows
      cases borrows
  rw [reporter] at lacking
  cases lacking

/-- An environment file whose verbosity is borrowed. -/
def borrowingFile : FileTree where
  files := [(["pyproject.toml"], .text ""), ([".env"], .text "TALLY_VERBOSITY=$\x7bLEVEL\x7d\n")]

/-- A given environment does not replace the process's own: the environment file still sees that. -/
theorem borrowed_verbosity_shows_process :
    (Settings.load borrowingFile [] [("LEVEL", some "2")] []).value = .ok { verbosity := 2 }
    ∧ (Settings.load borrowingFile [] [] []).value = .ok {} := by
  constructor
  · rfl
  · rfl

end InlineCheck
