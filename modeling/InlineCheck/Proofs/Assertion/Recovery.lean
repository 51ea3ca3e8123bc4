import InlineCheck.Assertion.Record
import InlineCheck.Proofs.Assertion.Reading
import InlineCheck.Proofs.Validation.Uuid

/-! # Records and their texts

The JSON text of a record says what the record says, but for a label that is cut. A record that is
not cut can be made again from its text.

* `AssertionRecord.members` — what the text of a record says.
* `AssertionRecord.truncation` — whether a writing context asks for a cut.
* `AssertionRecord.ofJson` — the record that a text describes.
* `written_record_read_back` — a record is written, whatever the layout, as a text that says this.
-/

namespace InlineCheck

namespace AssertionRecord

/-! ## What a text says -/

/-- The members that the text of a record has, in their order. A label beyond 50 characters is cut
if that is asked for, and a missing description is left out if that is. -/
def members (r : AssertionRecord) (cut dropNull : Bool) : List (String × Json.Tree) :=
  [("assertion_id", .text r.id.text),
    ("condition_text", .text (if cut = true ∧ 50 < r.text.length then
      String.ofList (r.text.toList.take 50) ++ "..." else r.text)),
    ("passed", .bool r.passed)]
  ++ (if dropNull = true ∧ r.description = none then []
    else [("test_description", r.description.elim .null .text)])

theorem cutLabel_eq (s : String) :
    cutLabel s
      = if 50 < s.length then String.ofList (s.toList.take 50) ++ "..." else s := by
  rw [cutLabel, cutLength, String.length_toList]
  split
  next short => rw [if_neg (by omega)]
  next long => rw [if_pos (by omega), String.ofList_append, String.ofList_toList]

theorem fields_tree (r : AssertionRecord) (cut dropNull : Bool) :
    (r.fields cut dropNull).map (fun f => (f.1, f.2.tree)) = r.members cut dropNull := by
  unfold fields members
  rw [cutLabel_eq]
  cases cut <;> cases dropNull <;> cases r.description <;> simp [Json.Scalar.tree]

theorem parse_write (r : AssertionRecord) (layout : Json.Layout) (cut dropNull : Bool) :
    Json.parse (r.write layout cut dropNull) = some (.object (r.members cut dropNull)) := by
  rw [write, Json.parse_write, fields_tree]

/-! ## What a context asks for -/

/-- Whether a context asks for a cut: no context does, nor one without an entry. The truth of an
entry may be undecided. -/
def truncation (context : Option (List (Value × Value))) : Truth :=
  ((context.bind (Value.lookup (.text "truncate"))).map Value.truth).getD (.holds false)

theorem asksForCut_dict (es : List (Value × Value)) :
    asksForCut (.dict es) = ((Value.lookup (.text "truncate") es).map fun v =>
      v.decideTruth.mapError fun f => .unwritable f.kind f.message).getD (.ok false) := by
  cases es with
  | nil => rfl
  | cons e es =>
    have filled : (Value.dict (e :: es)).decideTruth = .ok true := rfl
    unfold asksForCut
    cases found : Value.lookup (.text "truncate") (e :: es) with
    | none =>
      simp only [filled, found]
      rfl
    | some v =>
      simp only [filled, found]
      rfl

/-- What becomes of the truth of an entry: an undecided one is a fault. -/
def decision : Truth → Except Fault Bool
  | .holds cut => .ok cut
  | .ambiguous => .error (.unwritable "ValueError" "truth value is ambiguous")

theorem asksForCut_eq (context : Option (List (Value × Value))) :
    asksForCut (context.elim .null .dict) = decision (truncation context) := by
  cases context with
  | none => rfl
  | some es =>
    rw [Option.elim_some, asksForCut_dict, truncation, Option.bind_some]
    cases Value.lookup (.text "truncate") es with
    | none => rfl
    | some v =>
      simp only [Option.map_some, Option.getD_some, Value.decideTruth]
      cases v.truth <;> rfl

/-! ## The record of a text -/

/-- The value that a record's field may have in a text. -/
def fieldValue? : Json.Tree → Option Value
  | .null => some .null
  | .bool b => some (.bool b)
  | .text s => some (.text s)
  | _ => none

/-- Makes a record from the members of an object; `fresh` is the identity of a record that is given
none. -/
def ofJson (fresh : Validation.Uuid) (s : String) : Option AssertionRecord :=
  match Json.parse s with
  | some (.object members) => do
    let fields ← members.mapM fun m => (fieldValue? m.2).map (m.1, ·)
    (ofFields fresh fields).toOption
  | _ => none

/-- The named values that make a record. -/
def named (r : AssertionRecord) (dropNull : Bool) : List (String × Value) :=
  [("assertion_id", .text r.id.text), ("condition_text", .text r.text), ("passed", .bool r.passed)]
  ++ (if dropNull = true ∧ r.description = none then []
    else [("test_description", r.description.elim .null .text)])

theorem ofFields_named (r : AssertionRecord) (dropNull : Bool) (fresh : Validation.Uuid) :
    ofFields fresh (r.named dropNull) = .ok r := by
  have id : optional (r.named dropNull) "assertion_id" fresh Validation.readUuid = .ok r.id := by
    have found : field? (r.named dropNull) "assertion_id" = some (.text r.id.text) := rfl
    rw [optional, found]
    simp only [Validation.readUuid_text]
    rfl
  have text : required (r.named dropNull) "condition_text" Validation.readText = .ok r.text := rfl
  have passed : required (r.named dropNull) "passed" Validation.readBool = .ok r.passed := rfl
  have description : optional (r.named dropNull) "test_description" none readOptionalText
      = .ok r.description := by
    unfold named
    cases dropNull <;> cases r.description <;> rfl
  simp only [ofFields, id, text, passed, description]

theorem ofJson_of_parse {r : AssertionRecord} {s : String} {cut dropNull : Bool}
    (whole : cut = true → r.text.length ≤ 50)
    (parsed : Json.parse s = some (.object (r.members cut dropNull))) (fresh : Validation.Uuid) :
    ofJson fresh s = some r := by
  have uncut : ¬(cut = true ∧ 50 < r.text.length) := fun ⟨cut, long⟩ => by
    have := whole cut
    omega
  have fields : (r.members cut dropNull).mapM (fun m => (fieldValue? m.2).map (m.1, ·))
      = some (r.named dropNull) := by
    rw [members, if_neg uncut, named]
    split
    · rfl
    · cases r.description <;> rfl
  rw [ofJson, parsed]
  simp only [fields, Option.bind_eq_bind, Option.bind_some, ofFields_named]
  rfl

end AssertionRecord

/-- A record is written under any layout and any context that decides about the cut, and its text
says what the record says; unless its label was cut, the record can be made again from it. A context
that leaves the cut undecided is refused. What a record is shown as can always be read. -/
theorem written_record_read_back (r : AssertionRecord) (layout : Json.Layout) (dropNull : Bool)
    (context : Option (List (Value × Value))) :
    (∀ cut, AssertionRecord.truncation context = .holds cut →
      ∃ s, r.writeIn layout dropNull (context.elim .null .dict) = .ok s
        ∧ Json.parse s = some (.object (r.members cut dropNull))
        ∧ ((cut = true → r.text.length ≤ 50) →
          ∀ fresh, AssertionRecord.ofJson fresh s = some r))
    ∧ (AssertionRecord.truncation context = .ambiguous →
      ∃ f, r.writeIn layout dropNull (context.elim .null .dict) = .error f
        ∧ f.kind = "PydanticSerializationError")
    ∧ Json.parse r.shown = some (.object (r.members true true)) := by
  refine ⟨fun cut decided => ?_, fun undecided => ?_, r.parse_write _ _ _⟩
  · have parsed := r.parse_write layout cut dropNull
    refine ⟨_, ?_, parsed, fun whole => AssertionRecord.ofJson_of_parse whole parsed⟩
    rw [AssertionRecord.writeIn, AssertionRecord.asksForCut_eq, decided]
    rfl
  · rw [AssertionRecord.writeIn, AssertionRecord.asksForCut_eq, undecided]
    exact ⟨_, rfl, rfl⟩

def sampleUuid : Validation.Uuid where
  digits := "1234567812345678123456781234abcd".toList
  size := rfl
  lower := List.all_eq_true.mp (by decide +kernel)

/-- A record whose label needs every kind of escape. -/
def escapedRecord : AssertionRecord where
  text := "s == \"a\\b\"\t# \x01é"
  passed := false
  id := sampleUuid

theorem escapedRecord_read_back :
    (AssertionRecord.truncation (some [(.text "truncate", .int 1)]) = .holds true
      ∧ ∃ s, escapedRecord.writeIn (.indented 0) true (.dict [(.text "truncate", .int 1)]) = .ok s
        ∧ Json.parse s = some (.object (escapedRecord.members true true))
        ∧ ∀ fresh, AssertionRecord.ofJson fresh s = some escapedRecord)
    ∧ (AssertionRecord.truncation
          (some [(.text "truncate", .object .ambiguous none "<obj>")]) = .ambiguous
      ∧ ∃ f, escapedRecord.writeIn .compact true
          (.dict [(.text "truncate", .object .ambiguous none "<obj>")]) = .error f
        ∧ f.kind = "PydanticSerializationError") := by
  obtain ⟨s, written, parsed, recovered⟩ :=
    (written_record_read_back escapedRecord (.indented 0) true
      (some [(.text "truncate", .int 1)])).1 true rfl
  exact ⟨⟨rfl, s, written, parsed, recovered fun _ => by decide⟩, rfl,
    (written_record_read_back escapedRecord .compact true
      (some [(.text "truncate", .object .ambiguous none "<obj>")])).2.1 rfl⟩

/-- An entry whose truth is undecided keeps even a short record from being written. -/
theorem undecidedCut_unwritten :
    ¬∃ s, escapedRecord.writeIn .compact false
      (.dict [(.text "truncate", .object .ambiguous none "<obj>")]) = .ok s := by
  rintro ⟨s, written⟩
  cases written

end InlineCheck
