import InlineCheck.Assertion.Basic
import InlineCheck.Assertion.Json
import InlineCheck.Validation.Field
import InlineCheck.Validation.Uuid

/-! # Assertion records

An assertion with its identity, as made from named values and written as text.

* `AssertionRecord.ofFields` — validates named values; every problem is reported.
* `AssertionRecord.write` — the JSON text, with an optional cut of long labels.
* `AssertionRecord.shown`, `AssertionRecord.summary` — the two texts a record is shown as.
-/

namespace InlineCheck

open Validation

/-- An assertion with its identity. -/
structure AssertionRecord extends Assertion where
  id : Uuid
  deriving DecidableEq, Repr

namespace AssertionRecord

def field? (fields : List (String × Value)) (name : String) : Option Value :=
  (fields.find? (·.1 == name)).map (·.2)

def required {α : Type} (fields : List (String × Value)) (name : String)
    (read : Value → Except Problem α) : Except Finding α :=
  match field? fields name with
  | none =>
    .error ⟨name, .missing, .dict (fields.map fun (k, v) => (.text k, v))⟩
  | some v => (read v).mapError fun p => ⟨name, p, v⟩

def optional {α : Type} (fields : List (String × Value)) (name : String) (default : α)
    (read : Value → Except Problem α) : Except Finding α :=
  match field? fields name with
  | none => .ok default
  | some v => (read v).mapError fun p => ⟨name, p, v⟩

def readOptionalText : Value → Except Problem (Option String)
  | .null => .ok none
  | v => (readText v).map some

def problem {α : Type} : Except Finding α → List Finding
  | .ok _ => []
  | .error f => [f]

/-- Makes a record from named values; `fresh` is the identity of a record that is given none.
Names that are not fields are ignored. -/
def ofFields (fresh : Uuid) (fields : List (String × Value)) : Except Fault AssertionRecord :=
  let id := optional fields "assertion_id" fresh readUuid
  let text := required fields "condition_text" readText
  let passed := required fields "passed" readBool
  let description := optional fields "test_description" none readOptionalText
  match id, text, passed, description with
  | .ok id, .ok text, .ok passed, .ok description => .ok { id, text, passed, description }
  | _, _, _, _ =>
    .error (.invalid
      ⟨"AssertionResult", problem id ++ problem text ++ problem passed ++ problem description⟩)

/-! ## Writing -/

def cutLength : Nat := 50

def cutLabel (s : String) : String :=
  if s.toList.length ≤ cutLength then s
  else String.ofList (s.toList.take cutLength ++ "...".toList)

/-- Whether a writing context asks for a cut: it is a dictionary whose entry `truncate` is true, and
an empty context asks for nothing. -/
def asksForCut (context : Value) : Except Fault Bool := do
  let relay (f : Fault) : Fault := .unwritable f.kind f.message
  if ← context.decideTruth.mapError relay then
    match context with
    | .dict es =>
      match Value.lookup (.text "truncate") es with
      | some v => v.decideTruth.mapError relay
      | none => return false
    | v => throw (.unwritable "AttributeError" s!"'{v.typeName}' object has no attribute 'get'")
  else return false

def fields (r : AssertionRecord) (cut dropNull : Bool) : List (String × Json.Scalar) :=
  [("assertion_id", .text r.id.text),
    ("condition_text", .text (if cut then cutLabel r.text else r.text)),
    ("passed", .bool r.passed)]
    ++ (match r.description with
      | some d => [("test_description", .text d)]
      | none => if dropNull then [] else [("test_description", .null)])

def write (r : AssertionRecord) (layout : Json.Layout) (cut dropNull : Bool) : String :=
  String.ofList (Json.write layout (r.fields cut dropNull))

def writeIn (r : AssertionRecord) (layout : Json.Layout) (dropNull : Bool) (context : Value) :
    Except Fault String := do
  let cut ← asksForCut context
  return r.write layout cut dropNull

/-- A record as shown: indented, cut, and without an empty description. -/
def shown (r : AssertionRecord) : String :=
  r.write (.indented 2) true true

def summary (r : AssertionRecord) : String :=
  s!"assertion_id=UUID('{r.id.text}') condition_text=" ++ Text.quoted r.text ++ " passed="
    ++ (Value.bool r.passed).shown ++ " test_description="
    ++ (match r.description with
      | some d => Text.quoted d
      | none => "None")

end AssertionRecord

end InlineCheck
