import InlineCheck.Text.Blank
import InlineCheck.Validation.Report

/-! # UUIDs

* `Uuid` — a UUID by its digits.
* `Uuid.text` — its written form: groups of 8, 4, 4, 4 and 12 digits with hyphens between them.
* `readUuid` — the UUID that a value stands for.
-/

namespace InlineCheck.Validation

/-! ## Digits -/

def isHexDigit (c : Char) : Bool :=
  c.isDigit || ('a' ≤ c && c ≤ 'f') || ('A' ≤ c && c ≤ 'F')

def isLowerHex (c : Char) : Bool :=
  c.isDigit || ('a' ≤ c && c ≤ 'f')

theorem toNat_lt_of_isHexDigit {c : Char} (digit : isHexDigit c = true) : c.toNat < 128 := by
  simp only [isHexDigit, Char.isDigit, Bool.or_eq_true, Bool.and_eq_true, decide_eq_true_eq,
    Char.le_def, UInt32.le_iff_toNat_le, ge_iff_le] at digit
  have nine : '9'.val.toNat = 57 := rfl
  have upper : 'F'.val.toNat = 70 := rfl
  have lower : 'f'.val.toNat = 102 := rfl
  show c.val.toNat < 128
  omega

theorem lowerHex_ascii :
    ∀ n < 128, isHexDigit (Char.ofNat n) = true → isLowerHex (Char.ofNat n).toLower = true := by
  decide +kernel

theorem isLowerHex_toLower {c : Char} (digit : isHexDigit c = true) :
    isLowerHex c.toLower = true := by
  have small := toNat_lt_of_isHexDigit digit
  rw [← Char.ofNat_toNat c] at digit ⊢
  exact lowerHex_ascii _ small digit

theorem hex_byte :
    ∀ n < 256, (Text.hex 2 n).length = 2 ∧ (Text.hex 2 n).all isLowerHex = true := by
  decide +kernel

/-- A UUID: its hexadecimal digits, in lower case. -/
structure Uuid where
  digits : List Char
  size : digits.length = 32
  lower : ∀ d ∈ digits, isLowerHex d = true
  deriving DecidableEq, Repr

namespace Uuid

def ofHex? (ds : List Char) : Option Uuid :=
  if fits : ds.length = 32 ∧ ds.all isHexDigit = true then
    some
      { digits := ds.map Char.toLower
        size := by rw [List.length_map, fits.1]
        lower := List.forall_mem_map.mpr fun d member =>
          isLowerHex_toLower (List.all_eq_true.mp fits.2 d member) }
  else none

def ofBytes (bs : List UInt8) (size : bs.length = 16) : Uuid where
  digits := bs.flatMap fun b => Text.hex 2 b.toNat
  size := by
    have pairs : (bs.map fun b => (Text.hex 2 b.toNat).length) = bs.map fun _ => 2 :=
      List.map_congr_left fun b _ => (hex_byte _ b.toNat_lt).1
    rw [List.length_flatMap, pairs, List.map_const', size]
    rfl
  lower := by
    intro d member
    obtain ⟨b, -, digit⟩ := List.mem_flatMap.mp member
    exact List.all_eq_true.mp (hex_byte _ b.toNat_lt).2 d digit

end Uuid

/-! ## Groups -/

def uuidGroups : List Nat := [8, 4, 4, 4, 12]

def groupDigits (ds : List Char) : List Nat → List (List Char)
  | [] => []
  | n :: ns => ds.take n :: groupDigits (ds.drop n) ns

def Uuid.text (u : Uuid) : String :=
  joinWith "-" ((groupDigits u.digits uuidGroups).map String.ofList)

def hyphenated? (cs : List Char) : Option Uuid :=
  let groups := Text.splitAt '-' cs
  if groups.map List.length = uuidGroups then Uuid.ofHex? groups.flatten else none

/-! ## Reading -/

def unbraced? (cs : List Char) : Option (List Char) :=
  match cs with
  | '\x7b' :: rest =>
    match rest.reverse with
    | '\x7d' :: inner => some inner.reverse
    | _ => none
  | _ => none

def unnamed? (cs : List Char) : Option (List Char) :=
  Text.dropPrefix? "urn:uuid:".toList cs

/-- The first character that cannot stand in a UUID, and its place from `i`. -/
def firstBad (i : Nat) : List Char → Option (Char × Nat)
  | [] => none
  | c :: cs => if isHexDigit c || c == '-' then firstBad (i + 1) cs else some (c, i)

/-- The first group of the wrong length; when all but the last are right, it is the last, counted
to the end of the whole input. -/
def badGroup (total group : Nat) : List (List Char) → List Nat → UuidProblem
  | g :: gs, n :: ns =>
    if gs.isEmpty || ns.isEmpty then .groupLength group n (total - 24)
    else if g.length = n then badGroup total (group + 1) gs ns
    else .groupLength group n g.length
  | _, _ => .groupLength group 12 (total - 24)

def uuidProblem (cs : List Char) : UuidProblem :=
  let (inner, offset, bare) :=
    match unbraced? cs with
    | some inner => (inner, 1, false)
    | none =>
      match unnamed? cs with
      | some inner => (inner, 9, false)
      | none => (cs, 0, true)
  match firstBad offset inner with
  | some (c, i) => .character c i
  | none =>
    let groups := Text.splitAt '-' inner
    if groups.length = 1 && bare then .length (Text.byteCount cs)
    else if groups.length != 5 then .groupCount groups.length
    else badGroup cs.length 0 groups uuidGroups

/-- Reads a UUID from a text: 32 digits, five groups, or five groups in braces or with a scheme. A
text of the right size with a fault inside is explained by that inside. -/
def readUuidText (cs : List Char) : Except UuidProblem Uuid :=
  let grouped (inner : List Char) :=
    match hyphenated? inner with
    | some u => .ok u
    | none => .error (uuidProblem inner)
  let n := Text.byteCount cs
  if n = 32 then
    match Uuid.ofHex? cs with
    | some u => .ok u
    | none => .error (uuidProblem cs)
  else if n = 36 then grouped cs
  else
    match (if n = 38 then unbraced? cs else if n = 45 then unnamed? cs else none) with
    | some inner => grouped inner
    | none => .error (uuidProblem cs)

/-- Reads a UUID from a text or from bytes, which hold a text or are the sixteen bytes
themselves. -/
def readUuid : Value → Except Problem Uuid
  | .text s =>
    match readUuidText s.toList with
    | .ok u => .ok u
    | .error p => .error (.uuidUnread p)
  | .bytes bs =>
    let raw :=
      if size : bs.length = 16 then .ok (.ofBytes bs size)
      else .error (.uuidUnread (.byteLength bs.length))
    match Text.decode bs with
    | .ok s =>
      match readUuidText s.toList with
      | .ok u => .ok u
      | .error _ => raw
    | .error _ => raw
  | _ => .error .notUuid

end InlineCheck.Validation
