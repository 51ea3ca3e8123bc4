import InlineCheck.CommandLine.Switch
import InlineCheck.Text.Blank
import InlineCheck.Text.Decimals

/-! # Words of a command line

How a single word is read by a form.

* `Word` — an operand, a switch of the form, or something that looks like a switch.
* `Word.ofText` — how a word is read. A long switch may be cut short as long as one fits.
-/

namespace InlineCheck.CommandLine

inductive Word where
  | operand (text : String)
  /-- A switch, spelled short or long, with the text attached to it. -/
  | switch (s : Switch) (short : Bool) (attached : Option String)
  /-- A switch that the form does not know. -/
  | unknown (text : String)
  deriving DecidableEq, Repr

/-- Whether a word is a number below zero: digits after the sign, or a fraction. -/
def isNegativeNumber (word : List Char) : Bool :=
  match word with
  | '-' :: rest =>
    let rest := if rest.getLast? = some '\n' then rest.dropLast else rest
    let fraction := rest.dropWhile Text.isDecimal
    match fraction with
    | [] => !rest.isEmpty
    | '.' :: ds => !ds.isEmpty && ds.all Text.isDecimal
    | _ => false
  | _ => false

def splitAttached (word : String) : String × Option String :=
  match Text.cutFirst? '=' word.toList with
  | some (name, value) => (String.ofList name, some (String.ofList value))
  | none => (word, none)

namespace Word

/-- Reads a word that begins like a switch and spells none in full: long switches that it begins,
or a short one that it begins with. -/
def ofFragment (f : Form) (word : String) : Except UsageFault Word :=
  let candidates : List (String × Word) :=
    match word.toList with
    | '-' :: '-' :: _ =>
      let (name, value) := splitAttached word
      (f.spellings.filter fun (spelling, _) => Text.startsWith name.toList spelling.toList).map
        fun (spelling, s) => (spelling, .switch s false value)
    | '-' :: c :: rest =>
      (f.find? (String.ofList ['-', c])).toList.map
        fun s => (String.ofList ['-', c], .switch s true (some (String.ofList rest)))
    | _ => []
  match candidates with
  | [(_, w)] => .ok w
  | [] =>
    -- a number, and a text with a blank, are no switches for all their dash
    .ok (if isNegativeNumber word.toList || word.toList.contains ' ' then .operand word
      else .unknown word)
  | several => .error (.ambiguous word (several.map (·.1)))

def isShort (spelling : String) : Bool :=
  !Text.startsWith ['-', '-'] spelling.toList

def ofText (f : Form) (word : String) : Except UsageFault Word :=
  if !Text.startsWith ['-'] word.toList then .ok (.operand word)
  else
    match f.find? word with
    | some s => .ok (.switch s (isShort word) none)
    | none =>
      if word = "-" then .ok (.operand word)
      else
        match splitAttached word with
        | (name, some value) =>
          match f.find? name with
          | some s => .ok (.switch s (isShort name) (some value))
          | none => ofFragment f word
        | (_, none) => ofFragment f word

end Word

end InlineCheck.CommandLine
