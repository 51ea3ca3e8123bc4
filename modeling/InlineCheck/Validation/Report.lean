import InlineCheck.Value.Show

/-! # Validation reports

What can be wrong with a value that is meant for a field, and the report that lists it.

* `Problem` — one thing wrong with one value, with its short code and its message.
* `Finding` — a problem at a place, with the value found there.
* `Report` — all findings for one record type, and its text.
-/

namespace InlineCheck.Validation

/-- What is wrong with a text or byte string meant as a UUID. -/
inductive UuidProblem where
  | length (found : Nat)
  | character (found : Char) (at_ : Nat)
  | groupCount (found : Nat)
  | groupLength (group expected found : Nat)
  | byteLength (found : Nat)
  deriving DecidableEq, Repr

def UuidProblem.message : UuidProblem → String
  | .length found => s!"invalid length: found {found}"
  | .character found place => "invalid character: found `" ++ found.toString ++ s!"` at {place}"
  | .groupCount found => s!"invalid group count: expected 5, found {found}"
  | .groupLength group expected found =>
    s!"invalid group length in group {group}: expected {expected}, found {found}"
  | .byteLength found => s!"invalid length: expected 16 bytes, found {found}"

inductive Problem where
  | missing
  | unexpected
  | notText
  | textNotUnicode
  | notBool
  | boolUnread
  | notInt
  | intUnread
  | intTooLong
  | intFractional
  | notFinite
  | notList
  | notUuid
  | uuidUnread (problem : UuidProblem)
  deriving DecidableEq, Repr

namespace Problem

def code : Problem → String
  | .missing => "missing"
  | .unexpected => "extra_forbidden"
  | .notText => "string_type"
  | .textNotUnicode => "string_unicode"
  | .notBool => "bool_type"
  | .boolUnread => "bool_parsing"
  | .notInt => "int_type"
  | .intUnread => "int_parsing"
  | .intTooLong => "int_parsing_size"
  | .intFractional => "int_from_float"
  | .notFinite => "finite_number"
  | .notList => "list_type"
  | .notUuid => "uuid_type"
  | .uuidUnread _ => "uuid_parsing"

def message : Problem → String
  | .missing => "Field required"
  | .unexpected => "Extra inputs are not permitted"
  | .notText => "Input should be a valid string"
  | .textNotUnicode =>
    "Input should be a valid string, unable to parse raw data as a unicode string"
  | .notBool => "Input should be a valid boolean"
  | .boolUnread => "Input should be a valid boolean, unable to interpret input"
  | .notInt => "Input should be a valid integer"
  | .intUnread => "Input should be a valid integer, unable to parse string as an integer"
  | .intTooLong => "Unable to parse input string as an integer, exceeded maximum size"
  | .intFractional => "Input should be a valid integer, got a number with a fractional part"
  | .notFinite => "Input should be a finite number"
  | .notList => "Input should be a valid list"
  | .notUuid => "UUID input should be a string, bytes or UUID object"
  | .uuidUnread problem => "Input should be a valid UUID, " ++ problem.message

end Problem

/-- A problem at a place. -/
structure Finding where
  place : String
  problem : Problem
  input : Value
  deriving Repr

/-- The shown form of an input; beyond fifty bytes only its first 25 and last 24 are kept. -/
def excerpt (shown : String) : String :=
  let cs := shown.toList
  if Text.byteCount cs ≤ 50 then shown
  else
    String.ofList (Text.takeBytes 25 cs) ++ "..." ++ String.ofList (Text.takeLastBytes 24 cs)

def told (v : Value) : String :=
  excerpt (if v.writable then v.shown else s!"<unprintable {v.typeName} object>")

def Finding.text (f : Finding) : String :=
  f.place ++ "\n  " ++ f.problem.message ++ " [type=" ++ f.problem.code ++ ", input_value="
    ++ told f.input ++ ", input_type=" ++ f.input.typeName
    ++ "]\n    For further information visit https://errors.pydantic.dev/2.14/v/" ++ f.problem.code

/-- All findings for a value of a record type. -/
structure Report where
  subject : String
  findings : List Finding
  deriving Repr

def Report.text (r : Report) : String :=
  let n := r.findings.length
  s!"{n} validation error" ++ (if n = 1 then "" else "s") ++ " for " ++ r.subject
    ++ String.join (r.findings.map fun f => "\n" ++ f.text)

end InlineCheck.Validation
