import InlineCheck.Proofs.Command.Complaints
import InlineCheck.Proofs.Command.Summary
import InlineCheck.Proofs.Text.Cutting

/-! # Whom a word is for

A command line that runs a script mixes switches of the command with words and options of the
script, in any order.

* `Token` — what such a command line is made of.
* `Word.ofText_unfamiliar` — an option that begins none of the command's switches is left alone.
* `Token.readWords_step` and `readCommand_tokens` — the command reads one token after another.
* `run_routes_tokens` — so every token reaches the one it is for.
-/

namespace InlineCheck

namespace CommandLine

/-! ## Tokens -/

/-- A letter that makes a command say more, or less. -/
inductive Letter where
  | v
  | q
  deriving DecidableEq, Repr

namespace Letter

def char : Letter → Char
  | .v => 'v'
  | .q => 'q'

def switch : Letter → Switch
  | .v => .verbose
  | .q => .quiet

def long : Letter → String
  | .v => "--verbose"
  | .q => "--quiet"

theorem placeholder_switch (l : Letter) : l.switch.placeholder = none := by
  cases l <;> rfl

theorem find?_char (l : Letter) : Form.run.find? (String.ofList ['-', l.char]) = some l.switch := by
  cases l <;> rfl

end Letter

/-- A word that does not begin like a switch. -/
def Undashed (text : String) : Prop :=
  text.toList.head? ≠ some '-'

instance (text : String) : Decidable (Undashed text) :=
  inferInstanceAs (Decidable (_ ≠ _))

/-- The long spellings of a command's switches. -/
def longNames : List String :=
  ["--reporter", "--no-summary", "--quiet", "--verbose", "--help"]

/-- A long option, perhaps with a value, whose name begins none of the command's long switches. -/
structure Unfamiliar (text : String) : Prop where
  dashed : ['-', '-'] <+: text.toList
  spaceless : ' ' ∉ text.toList
  apart : ∀ long ∈ longNames, ¬ text.toList.takeWhile (· != '=') <+: long.toList

/-- A part of a command line that runs a script. -/
inductive Token where
  | letters (first : Letter) (more : List Letter)
  | spelled (letter : Letter)
  | noSummary
  | attached (name : String) (given : name ≠ "")
  | reporter (name : String) (given : name ≠ "") (undashed : Undashed name)
  | word (text : String) (undashed : Undashed text)
  | option (text : String) (unfamiliar : Unfamiliar text)

namespace Token

/-- How a token is written. -/
def words : Token → List String
  | .letters first more => [String.ofList ('-' :: (first :: more).map Letter.char)]
  | .spelled letter => [letter.long]
  | .noSummary => ["--no-summary"]
  | .attached name _ => ["--reporter=" ++ name]
  | .reporter name .. => ["--reporter", name]
  | .word text _ => [text]
  | .option text _ => [text]

def volume : Token → List Letter
  | .letters first more => first :: more
  | .spelled letter => [letter]
  | _ => []

def isNoSummary : Token → Bool
  | .noSummary => true
  | _ => false

def reporter? : Token → Option String
  | .attached name _ => some name
  | .reporter name .. => some name
  | _ => none

def word? : Token → Option String
  | .word text _ => some text
  | _ => none

/-- What a token is to the script, unless it names the script. -/
def handed? : Token → Option String
  | .word text _ => some text
  | .option text _ => some text
  | _ => none

/-! ## Words one by one -/

/-- How the words of a token are read. -/
def reading : Token → List Word
  | .letters first more =>
    [.switch first.switch true
      (if more.isEmpty then none else some (String.ofList (more.map Letter.char)))]
  | .spelled letter => [.switch letter.switch false none]
  | .noSummary => [.switch .noSummary false none]
  | .attached name _ => [.switch .reporter false (some name)]
  | .reporter name .. => [.switch .reporter false none, .operand name]
  | .word text _ => [.operand text]
  | .option text _ => [.unknown text]

end Token

theorem find?_run_eq_none {text : String} (unspelled : ∀ e ∈ Form.run.spellings, e.1 ≠ text) :
    Form.run.find? text = none := by
  have missing : Form.run.spellings.find? (·.1 == text) = none := by
    refine List.find?_eq_none.mpr fun e member => ?_
    simpa using unspelled e member
  rw [Form.find?, missing]
  rfl

/-- A switch of the command has one of the long spellings, or one without two dashes. -/
theorem spelling_cases {e : String × Switch} (member : e ∈ Form.run.spellings) :
    e.1 ∈ longNames ∨ ¬ ['-', '-'] <+: e.1.toList := by
  have listed : ∀ e ∈ Form.run.spellings, e.1 ∈ longNames ∨ ¬ ['-', '-'] <+: e.1.toList := by decide
  exact listed e member

namespace Word

theorem ofText_undashed {text : String} (undashed : Undashed text) :
    ofText .run text = .ok (.operand text) := by
  have bare : Text.startsWith ['-'] text.toList = false := by
    rw [Bool.eq_false_iff, Ne, Text.startsWith_iff]
    rintro ⟨rest, split⟩
    exact undashed (by rw [← split]; rfl)
  simp [ofText, bare]

theorem isNegativeNumber_dashed (rest : List Char) :
    isNegativeNumber ('-' :: '-' :: rest) = false := by
  obtain ⟨tail, kept⟩ : ∃ tail, (if ('-' :: rest).getLast? = some '\n' then ('-' :: rest).dropLast
      else '-' :: rest) = '-' :: tail := by
    cases rest with
    | nil => exact ⟨[], rfl⟩
    | cons c rest =>
      split
      · exact ⟨_, rfl⟩
      · exact ⟨_, rfl⟩
  have sign : Text.isDecimal '-' = false := by decide
  simp only [isNegativeNumber, kept, List.dropWhile_cons, sign, Bool.false_eq_true, if_false]
  rfl

theorem splitAttached_name (text : String) :
    (splitAttached text).1.toList = text.toList.takeWhile (· != '=') := by
  unfold splitAttached
  cases cut : Text.cutFirst? '=' text.toList with
  | none =>
    refine (List.takeWhile_eq_self_iff.mpr fun c member => ?_).symm
    have other : c ≠ '=' := by
      rintro rfl
      exact Text.cutFirst?_eq_none_iff.mp cut member
    simpa using other
  | some parts => simpa using (Text.cutFirst?_eq_some cut).2

section

variable {text : String} (unfamiliar : Unfamiliar text)
include unfamiliar

theorem unspelled_of_unfamiliar {name : String} (dashed : ['-', '-'] <+: name.toList)
    (begins : text.toList.takeWhile (· != '=') <+: name.toList) : Form.run.find? name = none := by
  apply find?_run_eq_none
  rintro e member rfl
  rcases spelling_cases member with long | short
  · exact unfamiliar.apart e.1 long begins
  · exact short dashed

/-- An option that begins none of the command's switches is no switch, and no operand either. -/
theorem ofText_unfamiliar : ofText .run text = .ok (.unknown text) := by
  obtain ⟨rest, split⟩ : ∃ rest, text.toList = '-' :: '-' :: rest := by
    obtain ⟨rest, split⟩ := unfamiliar.dashed
    exact ⟨rest, split.symm⟩
  rcases attached : splitAttached text with ⟨name, value⟩
  have named : name.toList = text.toList.takeWhile (· != '=') := by
    rw [← splitAttached_name, attached]
  have dashed : ['-', '-'] <+: name.toList := ⟨_, by rw [named, split]; rfl⟩
  have whole : Form.run.find? text = none :=
    unspelled_of_unfamiliar unfamiliar unfamiliar.dashed ⟨_, List.takeWhile_append_dropWhile⟩
  have part : Form.run.find? name = none :=
    unspelled_of_unfamiliar unfamiliar dashed ⟨[], by rw [named, List.append_nil]⟩
  -- so no switch can be meant by it, not even one that is cut short
  have unmatched : Form.run.spellings.filter
      (fun e => Text.startsWith name.toList e.1.toList) = [] := by
    refine List.filter_eq_nil_iff.mpr fun e member => ?_
    rw [Text.startsWith_iff]
    intro begins
    rcases spelling_cases member with long | short
    · rw [named] at begins
      exact unfamiliar.apart e.1 long begins
    · exact short (dashed.trans begins)
  have fragment : ofFragment .run text = .ok (.unknown text) := by
    have spaceless : text.toList.contains ' ' = false := by simpa using unfamiliar.spaceless
    rw [split] at spaceless
    simp only [ofFragment, split, attached, unmatched, List.map_nil, isNegativeNumber_dashed,
      spaceless, Bool.or_false, Bool.false_eq_true, if_false]
  have starts : Text.startsWith ['-'] text.toList = true := by rw [split]; rfl
  have long : text ≠ "-" := by
    rintro rfl
    cases split
  cases value with
  | none => simp [ofText, starts, whole, long, attached, fragment]
  | some value => simp [ofText, starts, whole, long, attached, part, fragment]

end

/-- Letters behind one dash are read as the first of them, with the others attached to it. -/
theorem ofText_letters (first : Letter) (more : List Letter) :
    ofText .run (String.ofList ('-' :: (first :: more).map Letter.char))
      = .ok (.switch first.switch true
        (if more.isEmpty then none else some (String.ofList (more.map Letter.char)))) := by
  cases more with
  | nil => cases first <;> rfl
  | cons second more =>
    have written : (String.ofList ('-' :: (first :: second :: more).map Letter.char)).toList
        = '-' :: first.char :: second.char :: more.map Letter.char := String.toList_ofList
    generalize String.ofList ('-' :: (first :: second :: more).map Letter.char) = text at written
    have letter (l : Letter) : l.char ≠ '-' ∧ l.char ≠ '=' := by cases l <;> decide
    have whole : Form.run.find? text = none := by
      -- a spelling has another dash, or it is shorter
      have listed : ∀ e ∈ Form.run.spellings,
          e.1.toList[1]? = some '-' ∨ e.1.toList.length = 2 := by decide
      apply find?_run_eq_none
      rintro e member rfl
      have cases := listed e member
      simp [written, (letter first).1] at cases
    have unattached : splitAttached text = (text, none) := by
      have free : '=' ∉ text.toList := by
        rw [written]
        have others : '=' ∉ more.map Letter.char := by
          intro member
          obtain ⟨l, _, same⟩ := List.mem_map.mp member
          exact (letter l).2 same
        simp [(letter first).2.symm, (letter second).2.symm, others]
      rw [splitAttached, Text.cutFirst?_eq_none_iff.mpr free]
    have fragment : ofFragment .run text = .ok (.switch first.switch true
        (some (String.ofList ((second :: more).map Letter.char)))) := by
      cases first <;> simp only [ofFragment, written, Letter.char] <;> rfl
    have starts : Text.startsWith ['-'] text.toList = true := by rw [written]; rfl
    have long : text ≠ "-" := by
      rintro rfl
      cases written
    simp [ofText, starts, whole, long, unattached, fragment]

theorem ofText_attached (name : String) :
    ofText .run ("--reporter=" ++ name) = .ok (.switch .reporter false (some name)) := by
  have cut : splitAttached ("--reporter=" ++ name) = ("--reporter", some name) := by
    have found := Text.cutFirst?_append (by decide : '=' ∉ "--reporter".toList) name.toList
    have written : ("--reporter=" ++ name).toList = "--reporter".toList ++ '=' :: name.toList := by
      simp
    rw [splitAttached, written, found]
    simp
  have whole : Form.run.find? ("--reporter=" ++ name) = none := by
    apply find?_run_eq_none
    intro e member same
    have plain : ∀ e ∈ Form.run.spellings, '=' ∉ e.1.toList := by decide
    apply plain e member
    rw [same]
    simp
  have starts : Text.startsWith ['-'] ("--reporter=" ++ name).toList = true := by
    rw [String.toList_append]
    rfl
  have long : "--reporter=" ++ name ≠ "-" := by
    intro same
    have lengths := congrArg String.toList same
    simp at lengths
  have known : Form.run.find? "--reporter" = some .reporter := rfl
  simp only [ofText, starts, whole, long, cut, known]
  rfl

end Word

namespace Token

/-! ## Reading tokens -/

theorem mapM_ofText (t : Token) : t.words.mapM (Word.ofText .run) = .ok t.reading := by
  have alone {text : String} {w : Word} (read : Word.ofText .run text = .ok w) :
      [text].mapM (Word.ofText .run) = .ok [w] := by
    rw [List.mapM_cons, read]
    rfl
  cases t with
  | letters first more => exact alone (Word.ofText_letters first more)
  | spelled letter => cases letter <;> rfl
  | noSummary => rfl
  | attached name => exact alone (Word.ofText_attached name)
  | reporter name _ undashed =>
    have known : Word.ofText .run "--reporter" = .ok (.switch .reporter false none) := rfl
    rw [words, List.mapM_cons, known, alone (Word.ofText_undashed undashed)]
    rfl
  | word text undashed => exact alone (Word.ofText_undashed undashed)
  | option text unfamiliar => exact alone (Word.ofText_unfamiliar unfamiliar)

theorem mapM_ofText_tokens (ts : List Token) :
    (ts.flatMap words).mapM (Word.ofText .run) = .ok (ts.flatMap reading) := by
  induction ts with
  | nil => rfl
  | cons t ts ih =>
    rw [List.flatMap_cons, List.mapM_append, mapM_ofText, ih]
    rfl

/-- What a token adds to the flags. -/
def flags (t : Token) (flags : Flags) : Flags where
  reporter := t.reporter?.or flags.reporter
  noSummary := flags.noSummary || t.isNoSummary
  quiet := flags.quiet + t.volume.count .q
  verbose := flags.verbose + t.volume.count .v

/-- What a token adds to a reading. The first word is the script, and everything else that is not
for the command is left over. -/
def step (t : Token) (r : Reading) : Reading where
  flags := t.flags r.flags
  operand := r.operand.or t.word?
  rest := r.rest ++ (if r.operand.isNone && t.word?.isSome then none else t.handed?).toList

theorem cluster_letters (first : Letter) (more : List Letter) :
    cluster .run first.switch (more.map Letter.char) = .ok ((first :: more).map Letter.switch) := by
  induction more generalizing first with
  | nil => rfl
  | cons second more ih =>
    simp only [List.map_cons, cluster, Letter.find?_char, ih]
    rfl

/-- Letters add up. -/
theorem foldlM_letters (ls : List Letter) (flags : Flags) :
    (ls.map Letter.switch).foldlM (Flags.add .run) flags
      = .ok { flags with
          quiet := flags.quiet + ls.count .q
          verbose := flags.verbose + ls.count .v } := by
  induction ls generalizing flags with
  | nil => rfl
  | cons l ls ih =>
    rw [List.map_cons, List.foldlM_cons]
    cases l with
    | v =>
      show List.foldlM _ { flags with verbose := flags.verbose + 1 } _ = _
      rw [ih]
      simp
      omega
    | q =>
      show List.foldlM _ { flags with quiet := flags.quiet + 1 } _ = _
      rw [ih]
      simp
      omega

theorem addWord_letters (first : Letter) (more : List Letter) (flags : Flags) :
    flags.addWord .run first.switch true
        (if more.isEmpty then none else some (String.ofList (more.map Letter.char)))
      = .ok ((Token.letters first more).flags flags) := by
  have added : ((first :: more).map Letter.switch).foldlM (Flags.add .run) flags
      = .ok ((Token.letters first more).flags flags) := by
    rw [foldlM_letters]
    simp [Token.flags, reporter?, isNoSummary, volume]
  rw [← added]
  -- a letter by itself has nothing attached to it, and more of them are a cluster
  cases more with
  | nil => cases first <;> rfl
  | cons second more =>
    have clustered := cluster_letters first (second :: more)
    simp only [List.map_cons] at clustered
    simp [Flags.addWord, first.placeholder_switch, clustered, Except.bind]

theorem readWords_switch {s : Switch} {short : Bool} {attached : Option String} {r : Reading}
    {flags : Flags} (complete : s.placeholder = none ∨ attached ≠ none)
    (added : r.flags.addWord .run s short attached = .ok flags) (ws : List Word) :
    readWords .run none (.switch s short attached :: ws) r
      = readWords .run none ws { r with flags } := by
  have whole : (s.placeholder.isSome && attached.isNone) = false := by
    rcases complete with valueless | valued
    · simp [valueless]
    · cases attached with
      | none => exact absurd rfl valued
      | some => simp
  simp only [readWords, whole, added, Bool.false_eq_true, if_false]
  rfl

/-- A token that is for the command changes only the flags. -/
theorem step_of_own {t : Token} (own : t.handed? = none) (r : Reading) :
    t.step r = { r with flags := t.flags r.flags } := by
  have wordless : t.word? = none := by cases t <;> first | rfl | cases own
  simp [step, own, wordless]

/-- Reading the words of a token is a step. -/
theorem readWords_step (t : Token) (ws : List Word) (r : Reading) :
    readWords .run none (t.reading ++ ws) r = readWords .run none ws (t.step r) := by
  cases t with
  | letters first more =>
    rw [step_of_own rfl]
    exact readWords_switch (.inl first.placeholder_switch) (addWord_letters first more r.flags) ws
  | spelled letter =>
    have added : r.flags.addWord .run letter.switch false none
        = .ok ((Token.spelled letter).flags r.flags) := by
      cases letter <;>
        simp [Flags.addWord, Flags.add, Letter.switch, Token.flags, reporter?, isNoSummary, volume]
    rw [step_of_own rfl]
    exact readWords_switch (.inl letter.placeholder_switch) added ws
  | noSummary =>
    have added : r.flags.addWord .run .noSummary false none
        = .ok (Token.noSummary.flags r.flags) := by
      simp [Flags.addWord, Flags.add, Token.flags, reporter?, isNoSummary, volume]
    rw [step_of_own rfl]
    exact readWords_switch (.inl rfl) added ws
  | attached name given =>
    have added : r.flags.addWord .run .reporter false (some name)
        = .ok ((Token.attached name given).flags r.flags) := by
      simp [Flags.addWord, Flags.addValue, Token.flags, reporter?, isNoSummary, volume]
    rw [step_of_own rfl]
    exact readWords_switch (.inr (Option.some_ne_none name)) added ws
  | reporter name given undashed =>
    -- the switch waits for the next word, whatever that is
    have added : r.flags.addValue .run .reporter name
        = .ok ((Token.reporter name given undashed).flags r.flags) := by
      simp [Flags.addValue, Token.flags, reporter?, isNoSummary, volume]
    have waits : readWords .run none ((Token.reporter name given undashed).reading ++ ws) r
        = readWords .run (some .reporter) (.operand name :: ws) r := rfl
    rw [step_of_own rfl, waits, readWords]
    simp only [added]
    rfl
  | word text undashed =>
    show (r.addOperand .run text).bind (readWords .run none ws) = _
    cases taken : r.operand with
    | none =>
      simp [Reading.addOperand, taken, Form.choices, Except.bind, step, Token.flags, word?,
        reporter?, isNoSummary, volume]
    | some script =>
      simp [Reading.addOperand, taken, Except.bind, step, Token.flags, word?, handed?, reporter?,
        isNoSummary, volume]
  | option text unfamiliar =>
    show readWords .run none ws { r with rest := r.rest ++ [text] } = _
    simp [step, Token.flags, word?, handed?, reporter?, isNoSummary, volume]

theorem readWords_tokens (ts : List Token) (r : Reading) :
    readWords .run none (ts.flatMap reading) r = .ok (ts.foldl (fun r t => t.step r) r) := by
  induction ts generalizing r with
  | nil => rfl
  | cons t ts ih => rw [List.flatMap_cons, readWords_step, ih, List.foldl_cons]

theorem readCommand_tokens (ts : List Token) :
    readCommand .run (ts.flatMap words) = .ok (ts.foldl (fun r t => t.step r) {}) := by
  rw [readCommand, mapM_ofText_tokens]
  exact readWords_tokens ts {}

/-! ## What tokens come to -/

theorem flags_foldl_step (ts : List Token) (r : Reading) :
    (ts.foldl (fun r t => t.step r) r).flags
      = { reporter := (ts.filterMap reporter?).getLast?.or r.flags.reporter
          noSummary := r.flags.noSummary || ts.any isNoSummary
          quiet := r.flags.quiet + (ts.flatMap volume).count .q
          verbose := r.flags.verbose + (ts.flatMap volume).count .v } := by
  induction ts generalizing r with
  | nil => simp
  | cons t ts ih =>
    rw [List.foldl_cons, ih]
    simp only [step, flags, List.flatMap_cons, List.count_append, List.any_cons, Bool.or_assoc,
      Nat.add_assoc, List.filterMap_cons]
    cases t.reporter? with
    | none => rfl
    | some name =>
      rw [List.getLast?_cons]
      cases (ts.filterMap reporter?).getLast? <;> rfl

theorem operand_foldl_step (ts : List Token) (r : Reading) :
    (ts.foldl (fun r t => t.step r) r).operand = r.operand.or (ts.findSome? word?) := by
  induction ts generalizing r with
  | nil => simp
  | cons t ts ih =>
    rw [List.foldl_cons, ih, List.findSome?_cons, step]
    cases t.word? <;> simp

theorem rest_foldl_step (ts : List Token) (r : Reading) :
    (ts.foldl (fun r t => t.step r) r).rest
      = r.rest
        ++ (if r.operand.isSome then ts else ts.eraseP (·.word?.isSome)).filterMap handed? := by
  induction ts generalizing r with
  | nil => simp
  | cons t ts ih =>
    have split (ts : List Token) :
        (t :: ts).filterMap handed? = t.handed?.toList ++ ts.filterMap handed? := by
      rw [List.filterMap_cons]
      cases t.handed? <;> rfl
    rw [List.foldl_cons, ih, step]
    -- only the first word is kept back
    cases taken : r.operand with
    | some script => simp [split]
    | none =>
      cases named : t.word? with
      | none => simp [named, split]
      | some script => simp [named]

theorem ne_dashes_of_mem {t : Token} {text : String} (member : text ∈ t.words) : text ≠ "--" := by
  rintro rfl
  have dashed : ¬ Undashed "--" := by decide
  have familiar : ¬ Unfamiliar "--" := by
    intro unfamiliar
    exact unfamiliar.apart "--help" (by decide) (by decide)
  cases t with
  | letters first more =>
    have second := congrArg (fun s => s.toList[1]?) (List.mem_singleton.mp member)
    cases first <;> simp [Letter.char] at second
  | spelled letter => cases letter <;> exact absurd member (by decide)
  | noSummary => exact absurd member (by decide)
  | attached name =>
    have third := congrArg (fun s => s.toList[2]?) (List.mem_singleton.mp member)
    simp at third
  | reporter name _ undashed =>
    rcases List.mem_cons.mp member with switch | value
    · exact absurd switch (by decide)
    · rw [← List.mem_singleton.mp value] at undashed
      exact dashed undashed
  | word text undashed =>
    rw [← List.mem_singleton.mp member] at undashed
    exact dashed undashed
  | option text unfamiliar =>
    rw [← List.mem_singleton.mp member] at unfamiliar
    exact familiar unfamiliar

theorem ne_empty_of_reporter? {t : Token} {name : String} (given : t.reporter? = some name) :
    name ≠ "" := by
  cases t with
  | attached _ nonempty | reporter _ nonempty =>
    cases given
    exact nonempty
  | _ => cases given

end Token

/-- Words behind two dashes, if there are any. -/
def behindDashes : Option (List String) → List String
  | none => []
  | some words => "--" :: words

theorem splitDashes_tokens (ts : List Token) (extra : Option (List String)) :
    splitDashes ("run" :: (ts.flatMap Token.words ++ behindDashes extra))
      = ("run" :: ts.flatMap Token.words, extra.getD []) := by
  have own : ∀ word ∈ "run" :: ts.flatMap Token.words, (word != "--") = true := by
    intro word member
    rcases List.mem_cons.mp member with rfl | inside
    · decide
    · obtain ⟨t, _, written⟩ := List.mem_flatMap.mp inside
      simpa using Token.ne_dashes_of_mem written
  rw [splitDashes, ← List.cons_append, List.takeWhile_append_of_pos own,
    List.dropWhile_append_of_pos own]
  cases extra <;> simp [behindDashes]

/-- What a command line of tokens asks for. -/
theorem ofWords_tokens {options : List String} (unadded : options = []) {ts : List Token}
    {script : String} (named : ts.findSome? Token.word? = some script)
    (extra : Option (List String)) :
    Request.ofWords options ("run" :: (ts.flatMap Token.words ++ behindDashes extra))
      = .ok (.run script
          { reporter := (ts.filterMap Token.reporter?).getLast?
            noSummary := ts.any Token.isNoSummary
            quiet := (ts.flatMap Token.volume).count .q
            verbose := (ts.flatMap Token.volume).count .v }
          ((ts.eraseP (·.word?.isSome)).filterMap Token.handed? ++ extra.getD [])) := by
  have unchanged (words : List String) : addOptions [] ("run" :: words) = "run" :: words := rfl
  have command : Word.ofText .program "run" = .ok (.operand "run") := rfl
  have flags := Token.flags_foldl_step ts {}
  have operand := Token.operand_foldl_step ts {}
  have rest := Token.rest_foldl_step ts {}
  rw [named] at operand
  rw [unadded, Request.ofWords, unchanged, splitDashes_tokens]
  simp only [readProgram, command, readRun, Token.readCommand_tokens, Except.bind, flags, operand,
    rest]
  simp

end CommandLine

open CommandLine

/-- The plan that tokens and settings make. -/
def Plan.ofTokens (settings : Settings) (ts : List Token) : Plan where
  verbosity := settings.verbosity + (ts.flatMap Token.volume).count .v
    - (ts.flatMap Token.volume).count .q
  summary := settings.summary && !ts.any Token.isNoSummary
  reporterName := (ts.filterMap Token.reporter?).getLast?.getD settings.reporter

namespace Workplace

theorem conclude_events (plan : Plan) (r : Reporter) (code : Option Value) (s : State) :
    (conclude plan r code s).events = s.events
      ++ if plan.summary then (r.respond s.calls (.summary (s.tallies.get .command))).events
        else [] := by
  cases summed : plan.summary with
  | true => exact (conclude_sums summed r code s).events
  | false => simp [conclude, summed]

theorem make_tokens (settings : Settings) (ts : List Token) :
    Plan.make settings
        { reporter := (ts.filterMap Token.reporter?).getLast?
          noSummary := ts.any Token.isNoSummary
          quiet := (ts.flatMap Token.volume).count .q
          verbose := (ts.flatMap Token.volume).count .v }
      = Plan.ofTokens settings ts := by
  cases last : (ts.filterMap Token.reporter?).getLast? with
  | none => simp [Plan.make, Plan.ofTokens, last]
  | some name =>
    obtain ⟨t, _, given⟩ := List.mem_filterMap.mp (List.mem_of_getLast? last)
    simp [Plan.make, Plan.ofTokens, last, Token.ne_empty_of_reporter? given]

end Workplace

/-- A command line that runs a script, made of tokens with a word among them and perhaps of words
behind two dashes: the first word is the script, the other words and the unfamiliar options are its
arguments in their order, with what stands behind the dashes after them, and all other tokens make
the plan. The script runs with these arguments, and at its end the reporter is told the summary when
the plan has one, and only then. -/
theorem run_routes_tokens (w : Workplace) (settings : Settings) (ts : List Token) (script : String)
    (extra : Option (List String))
    (loads : (Settings.load w.files w.place w.environment w.environment).value = .ok settings)
    (unadded : settings.addopts = []) (named : ts.findSome? Token.word? = some script) :
    let plan := Plan.ofTokens settings ts
    let arguments := (ts.eraseP (·.word?.isSome)).filterMap Token.handed? ++ extra.getD []
    let early := earlyEvents (Settings.load w.files w.place w.environment w.environment).log
    let outcome := w.run ("run" :: (ts.flatMap Token.words ++ behindDashes extra))
    outcome = (w.withReporter plan fun r => w.runScript plan r script arguments).after early
    ∧ ∀ r file ended s,
        w.catalog.resolve w.screen plan.reporterName plan.verbosity = .ok r →
        w.script? (tidyPath script) = some file →
        Workplace.counted r (Script.run (w.setting plan (tidyPath script :: arguments)) file)
          = (ended, s) →
        Workplace.concluding? ended ≠ none →
        outcome.events
          = early ++ ((s.log (w.setting plan (tidyPath script :: arguments))
              (Workplace.endRecords (tidyPath script) ended)).events
            ++ if plan.summary then (r.respond s.calls (.summary (s.tallies.get .command))).events
              else []) := by
  intro plan arguments early outcome
  have asks := ofWords_tokens unadded named extra
  have same : outcome
      = (w.withReporter plan fun r => w.runScript plan r script arguments).after early := by
    show w.run _ = _
    rw [Workplace.run_of_request loads asks, Workplace.carryOut, Workplace.make_tokens]
  refine ⟨same, fun r file ended s resolves found ran concludes => ?_⟩
  obtain ⟨asked, concludes⟩ := Option.ne_none_iff_exists'.mp concludes
  rw [same, Workplace.withReporter_of_resolved w plan resolves,
    Workplace.runScript_of_concluding found ran concludes, Outcome.after, Workplace.conclude_events]
  rfl

/-- Every kind of token, in no order. -/
def mixedTokens : List Token :=
  [.option "--fast" ⟨by decide, by decide, by decide⟩, .letters .v [.q, .v],
    .reporter "ConsoleReporter" (by decide) (by decide), .word "s" (by decide), .spelled .v,
    .word "a b" (by decide), .noSummary, .attached "TraceReporter" (by decide),
    .option "--level=2" ⟨by decide, by decide, by decide⟩]

/-- A script that shows its arguments. -/
def showingPlace : Workplace where
  files := { files := [(["s"], .script [.arguments])] }

theorem mixedTokens_routed :
    mixedTokens.findSome? Token.word? = some "s"
    ∧ Plan.ofTokens {} mixedTokens
      = { verbosity := 2, summary := false, reporterName := "TraceReporter" }
    ∧ (showingPlace.run ["run", "--fast", "-vqv", "--reporter", "ConsoleReporter", "s",
        "--verbose", "a b", "--no-summary", "--reporter=TraceReporter", "--level=2",
        "--", "-q", "--", "x"]).events
      = [.finished "argv" (.texts ["s", "--fast", "a b", "--level=2", "-q", "--", "x"])] := by
  have named : mixedTokens.findSome? Token.word? = some "s" := rfl
  have planned : Plan.ofTokens {} mixedTokens
      = { verbosity := 2, summary := false, reporterName := "TraceReporter" } := by decide
  have routed := (run_routes_tokens showingPlace {} mixedTokens "s" (some ["-q", "--", "x"]) rfl rfl
    named).2 (.trace false) (.script [.arguments]) (.ok ()) _ rfl rfl rfl nofun
  exact ⟨named, planned, routed⟩

end InlineCheck
