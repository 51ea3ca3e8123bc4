import InlineCheck.Value.Show

/-! # Faults of TOML documents

What can be wrong with a document, and where. A fault keeps the text that was left when it was
found; its place is counted from the whole document.
-/

namespace InlineCheck.Toml

inductive Cause where
  | invalidStatement
  | invalidValue
  | invalidDate
  | expectedEquals
  | expectedBracket
  | expectedBrackets
  | expectedLineEnd
  | invalidKeyStart
  | declaredTwice (key : List String)
  | overwritten
  | immutable (key : List String)
  | redefined (key : List String)
  | duplicateKey (key : String)
  | unclosedArray
  | unclosedTable
  | unterminated
  | expected (delimiter : String)
  | illegal (c : Char)
  | invalidChar (c : Char)
  | unescaped
  | invalidHex
  | notScalar
  deriving DecidableEq, Repr

def shownKey (key : List String) : String :=
  (Value.tuple (key.map .text)).shown

def Cause.message : Cause → String
  | .invalidStatement => "Invalid statement"
  | .invalidValue => "Invalid value"
  | .invalidDate => "Invalid date or datetime"
  | .expectedEquals => "Expected '=' after a key in a key/value pair"
  | .expectedBracket => "Expected ']' at the end of a table declaration"
  | .expectedBrackets => "Expected ']]' at the end of an array declaration"
  | .expectedLineEnd => "Expected newline or end of document after a statement"
  | .invalidKeyStart => "Invalid initial character for a key part"
  | .declaredTwice key => s!"Cannot declare {shownKey key} twice"
  | .overwritten => "Cannot overwrite a value"
  | .immutable key => s!"Cannot mutate immutable namespace {shownKey key}"
  | .redefined key => s!"Cannot redefine namespace {shownKey key}"
  | .duplicateKey key => "Duplicate inline table key " ++ Text.quoted key
  | .unclosedArray => "Unclosed array"
  | .unclosedTable => "Unclosed inline table"
  | .unterminated => "Unterminated string"
  | .expected delimiter => "Expected " ++ Text.quoted delimiter
  | .illegal c => "Illegal character " ++ Text.quoted c.toString
  | .invalidChar c => "Found invalid character " ++ Text.quoted c.toString
  | .unescaped => "Unescaped '\\' in a string"
  | .invalidHex => "Invalid hex value"
  | .notScalar => "Escaped character is not a Unicode scalar value"

inductive Fault where
  | bad (cause : Cause) (rest : List Char)
  /-- An integer with more digits than are read. -/
  | integerTooLong (digits : Nat)
  deriving Repr

/-- The line and column, both from one, that follow the given text. -/
def placeAfter (before : List Char) : Nat × Nat :=
  (before.count '\n' + 1, (before.reverse.takeWhile (· != '\n')).length + 1)

def placeText (document rest : List Char) : String :=
  if rest.isEmpty then "end of document"
  else
    let (line, column) := placeAfter (document.take (document.length - rest.length))
    s!"line {line}, column {column}"

/-- A reader takes what it reads from the front of the text left. -/
abbrev Reader (α : Type) := List Char → Except Fault (α × List Char)

end InlineCheck.Toml
