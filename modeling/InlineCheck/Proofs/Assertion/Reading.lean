import InlineCheck.Assertion.Json
import InlineCheck.Text.Blank
import InlineCheck.Toml.Scalar

/-! # Reading JSON

A reader of JSON texts, of any values and in any layout, and the proof that it undoes the writing of
a flat object.

* `Tree` — what a text stands for: members and elements in the order of the text, and numbers as
  they are written.
* `parse` — the tree of a text. A reader of a part gives what it has read and what is left.
* `readText_escape` — the inside of a written string is read back, whatever follows it.
* `parse_write` — a written object is read as its fields, in every layout.
-/

namespace InlineCheck.Json

/-- What a JSON text stands for. -/
inductive Tree where
  | null
  | bool (b : Bool)
  | number (written : String)
  | text (s : String)
  | array (elements : List Tree)
  | object (members : List (String × Tree))

/-! ## Blanks -/

/-- The characters that may stand around any part of a text. -/
def isBlank (c : Char) : Bool :=
  c == ' ' || c == '\t' || c == '\n' || c == '\r'

def skip (cs : List Char) : List Char :=
  cs.dropWhile isBlank

theorem skip_cons_of_not_blank {c : Char} (solid : isBlank c = false) (cs : List Char) :
    skip (c :: cs) = c :: cs := by
  simp [skip, solid]

theorem skip_append {bs : List Char} (blank : ∀ b ∈ bs, isBlank b = true) (cs : List Char) :
    skip (bs ++ cs) = skip cs :=
  List.dropWhile_append_of_pos blank

theorem skip_opening (l : Layout) (cs : List Char) : skip (l.opening ++ cs) = skip cs := by
  apply skip_append
  cases l with
  | compact => simp [Layout.opening]
  | indented n =>
    intro b member
    rcases List.mem_cons.mp member with rfl | space
    · rfl
    · rw [List.eq_of_mem_replicate space]
      rfl

theorem skip_closing (l : Layout) (cs : List Char) : skip (l.closing ++ cs) = skip cs := by
  apply skip_append
  cases l <;> simp [Layout.closing, isBlank]

/-! ## Strings -/

/-- What a character behind a backslash stands for. -/
def escaped? : Char → Option Char
  | '"' => some '"'
  | '\\' => some '\\'
  | '/' => some '/'
  | 'b' => some '\x08'
  | 'f' => some '\x0c'
  | 'n' => some '\n'
  | 'r' => some '\r'
  | 't' => some '\t'
  | _ => none

/-- The code unit that hexadecimal digits stand for. -/
def unit? (digits : List Char) : Option Nat :=
  if digits.all Toml.isHex then some (Toml.valueIn 16 digits) else none

/-- The code units up to the closing quote. A character that is not escaped counts as one unit,
also when it is beyond the first plane. -/
def readUnits : List Char → Option (List Nat × List Char)
  | '"' :: cs => some ([], cs)
  | '\\' :: 'u' :: h₁ :: h₂ :: h₃ :: h₄ :: cs =>
    (unit? [h₁, h₂, h₃, h₄]).bind fun n => (readUnits cs).map (Prod.map (n :: ·) id)
  | '\\' :: e :: cs => (escaped? e).bind fun d => (readUnits cs).map (Prod.map (d.toNat :: ·) id)
  | c :: cs => if c.toNat < 0x20 then none else (readUnits cs).map (Prod.map (c.toNat :: ·) id)
  | [] => none

/-- The characters that code units stand for: two surrogates make one character, and one alone makes
none. `high` is the first of two surrogates when the second is to come. -/
def joinUnits : (high : Option Nat) → List Nat → Option (List Char)
  | none, [] => some []
  | some _, [] => none
  | none, n :: ns =>
    if 0xD800 ≤ n ∧ n < 0xDC00 then joinUnits (some n) ns
    else if 0xDC00 ≤ n ∧ n < 0xE000 then none
    else (joinUnits none ns).map (Char.ofNat n :: ·)
  | some high, n :: ns =>
    if 0xDC00 ≤ n ∧ n < 0xE000 then
      (joinUnits none ns).map (Char.ofNat (0x10000 + 0x400 * (high - 0xD800) + (n - 0xDC00)) :: ·)
    else none

/-- Reads a string behind its opening quote. -/
def readText (cs : List Char) : Option (String × List Char) := do
  let (ns, rest) ← readUnits cs
  let text ← joinUnits none ns
  return (String.ofList text, rest)

theorem joinUnits_toNat (cs : List Char) : joinUnits none (cs.map Char.toNat) = some cs := by
  induction cs with
  | nil => rfl
  | cons c cs ih =>
    -- a character is no surrogate, so nothing is ever left pending
    have scalar : c.toNat < 0xD800 ∨ 0xDFFF < c.toNat := by
      rcases c.valid with low | ⟨high, -⟩
      · exact .inl low
      · exact .inr high
    rw [List.map_cons, joinUnits, if_neg (by omega), if_neg (by omega), ih, Char.ofNat_toNat]
    rfl

theorem hex_control :
    ∀ n < 0x20, Text.hex 4 n = ['0', '0', (n / 16).digitChar, (n % 16).digitChar] := by
  decide

theorem unit?_control :
    ∀ n < 0x20, unit? ['0', '0', (n / 16).digitChar, (n % 16).digitChar] = some n := by
  decide

theorem readUnits_escapeChar (c : Char) (tail : List Char) :
    readUnits (escapeChar c ++ tail) = (readUnits tail).map (Prod.map (c.toNat :: ·) id) := by
  -- one case for each branch of the writer: `rfl` reads the short escapes, and the digits of the
  -- others are read by a lemma of their own
  unfold escapeChar
  by_cases quote : c = '"'
  · rw [if_pos quote, quote]
    rfl
  by_cases backslash : c = '\\'
  · rw [if_neg quote, if_pos backslash, backslash]
    rfl
  by_cases backspace : c.toNat = 0x08
  · rw [if_neg quote, if_neg backslash, if_pos backspace, backspace]
    rfl
  rw [if_neg quote, if_neg backslash, if_neg backspace]
  by_cases feed : c.toNat = 0x0C
  · rw [if_pos feed, feed]
    rfl
  by_cases newline : c = '\n'
  · rw [if_neg feed, if_pos newline, newline]
    rfl
  by_cases carriage : c = '\r'
  · rw [if_neg feed, if_neg newline, if_pos carriage, carriage]
    rfl
  rw [if_neg feed, if_neg newline, if_neg carriage]
  by_cases tab : c = '\t'
  · rw [if_pos tab, tab]
    rfl
  by_cases control : c.toNat < 0x20
  · rw [if_neg tab, if_pos control, hex_control _ control]
    show (unit? ['0', '0', (c.toNat / 16).digitChar, (c.toNat % 16).digitChar]).bind _ = _
    rw [unit?_control _ control]
    rfl
  · rw [if_neg tab, if_neg control, List.singleton_append, readUnits, if_neg control]
    · exact quote
    · exact fun _ _ _ _ _ escape => absurd escape backslash
    · exact fun _ _ escape => absurd escape backslash

theorem readUnits_escape (cs tail : List Char) :
    readUnits (escape cs ++ '"' :: tail) = some (cs.map Char.toNat, tail) := by
  induction cs with
  | nil => rfl
  | cons c cs ih =>
    have first : escape (c :: cs) = escapeChar c ++ escape cs := rfl
    rw [first, List.append_assoc, readUnits_escapeChar, ih]
    rfl

theorem readText_escape (s : String) (tail : List Char) :
    readText (escape s.toList ++ '"' :: tail) = some (s, tail) := by
  simp [readText, readUnits_escape, joinUnits_toNat]

/-! ## Numbers -/

/-- What follows digits, of which there must be one. -/
def afterDigits? : List Char → Option (List Char)
  | [] => none
  | c :: cs => if c.isDigit then some (cs.dropWhile Char.isDigit) else none

/-- What follows the whole part of a number, which has no leading zeros. -/
def afterWhole? : List Char → Option (List Char)
  | '0' :: cs => some cs
  | cs => afterDigits? cs

def afterFraction? : List Char → Option (List Char)
  | '.' :: cs => afterDigits? cs
  | cs => some cs

def afterExponent? : List Char → Option (List Char)
  | [] => some []
  | c :: cs =>
    if c = 'e' ∨ c = 'E' then
      match cs with
      | '+' :: cs => afterDigits? cs
      | '-' :: cs => afterDigits? cs
      | cs => afterDigits? cs
    else some (c :: cs)

def readNumber (cs : List Char) : Option (Tree × List Char) := do
  let whole ← afterWhole? (match cs with | '-' :: cs => cs | cs => cs)
  let rest ← afterExponent? (← afterFraction? whole)
  return (.number (String.ofList (cs.take (cs.length - rest.length))), rest)

/-! ## Values -/

section Items

variable {α : Type} (item : List Char → Option (α × List Char)) (close : Char)

/-- Reads at least one item, with a comma between any two, up to the closing character. There may be
at most `most` items. -/
def readItems (most : Nat) (cs : List Char) : Option (List α × List Char) :=
  match most with
  | 0 => none
  | most + 1 => do
    let (x, rest) ← item cs
    match skip rest with
    | [] => none
    | c :: rest =>
      if c = close then some ([x], rest)
      else if c = ',' then (readItems most rest).map (Prod.map (x :: ·) id)
      else none

/-- Reads items behind an opening character up to the closing one; there may be none. -/
def readSequence (cs : List Char) : Option (List α × List Char) :=
  match skip cs with
  | [] => none
  | c :: rest => if c = close then some ([], rest) else readItems item close cs.length cs

end Items

/-- Reads a name, a colon and a value. -/
def readMember (value : List Char → Option (Tree × List Char)) (cs : List Char) :
    Option ((String × Tree) × List Char) :=
  match skip cs with
  | '"' :: cs => do
    let (name, rest) ← readText cs
    match skip rest with
    | ':' :: rest => (value rest).map (Prod.map (name, ·) id)
    | _ => none
  | _ => none

/-- Reads a value that is nested at most `depth` deep. -/
def readValue : Nat → List Char → Option (Tree × List Char)
  | 0, _ => none
  | depth + 1, cs =>
    match skip cs with
    | [] => none
    | c :: rest =>
      match c with
      | '"' => (readText rest).map (Prod.map .text id)
      | '[' => (readSequence (readValue depth) ']' rest).map (Prod.map .array id)
      | '\x7b' =>
        (readSequence (readMember (readValue depth)) '\x7d' rest).map (Prod.map .object id)
      | 'n' => (Text.dropPrefix? "ull".toList rest).map (.null, ·)
      | 't' => (Text.dropPrefix? "rue".toList rest).map (.bool true, ·)
      | 'f' => (Text.dropPrefix? "alse".toList rest).map (.bool false, ·)
      | c => readNumber (c :: rest)

/-- The tree of a text that is one value with blanks around it. -/
def parse (s : String) : Option Tree :=
  match readValue s.toList.length s.toList with
  | some (t, rest) => if (skip rest).isEmpty then some t else none
  | none => none

/-! ## Reading what is written -/

/-- What a field's value stands for. -/
def Scalar.tree : Scalar → Tree
  | .null => .null
  | .bool b => .bool b
  | .text s => .text s

theorem quote_append (s : String) (tail : List Char) :
    quote s ++ tail = '"' :: (escape s.toList ++ '"' :: tail) := by
  simp [quote]

theorem readValue_write (depth : Nat) (v : Scalar) (tail : List Char) :
    readValue (depth + 1) (v.write ++ tail) = some (v.tree, tail) := by
  cases v with
  | null => rfl
  | bool b => cases b <;> rfl
  | text s =>
    have opened : (Scalar.text s).write ++ tail = '"' :: (escape s.toList ++ '"' :: tail) :=
      quote_append s tail
    rw [opened, readValue, skip_cons_of_not_blank rfl]
    show (readText _).map (Prod.map Tree.text id) = _
    rw [readText_escape]
    rfl

theorem readValue_colon (depth : Nat) (l : Layout) (cs : List Char) :
    ∃ bs, l.colon ++ cs = ':' :: bs ∧ readValue depth bs = readValue depth cs := by
  cases l with
  | compact => exact ⟨cs, rfl, rfl⟩
  | indented n =>
    refine ⟨' ' :: cs, rfl, ?_⟩
    have blank : skip (' ' :: cs) = skip cs := rfl
    cases depth with
    | zero => rfl
    | succ depth => rw [readValue, readValue, blank]

theorem readMember_writeField (depth : Nat) (l : Layout) (f : String × Scalar)
    (tail : List Char) :
    readMember (readValue (depth + 1)) (l.opening ++ (writeField l f ++ tail))
      = some ((f.1, f.2.tree), tail) := by
  obtain ⟨bs, colon, value⟩ := readValue_colon (depth + 1) l (f.2.write ++ tail)
  have named : writeField l f ++ tail = '"' :: (escape f.1.toList ++ '"' :: (':' :: bs)) := by
    rw [writeField, List.append_assoc, List.append_assoc, quote_append, colon]
  rw [readMember, named, skip_opening, skip_cons_of_not_blank rfl]
  simp only [readText_escape, Option.bind_eq_bind, Option.bind_some,
    skip_cons_of_not_blank (c := ':') rfl, value, readValue_write, Option.map_some]
  rfl

/-- What is written behind the opening brace of an object, and what follows the object. -/
def writeInside (l : Layout) (fields : List (String × Scalar)) (tail : List Char) : List Char :=
  l.opening
    ++ (l.between.intercalate (fields.map (writeField l)) ++ (l.closing ++ '\x7d' :: tail))

theorem write_eq_writeInside (l : Layout) (fields : List (String × Scalar)) :
    write l fields = '\x7b' :: writeInside l fields [] := by
  simp [write, writeInside]

theorem writeInside_singleton (l : Layout) (f : String × Scalar) (tail : List Char) :
    writeInside l [f] tail = l.opening ++ (writeField l f ++ (l.closing ++ '\x7d' :: tail)) := by
  simp [writeInside, List.intercalate_singleton]

theorem writeInside_cons_cons (l : Layout) (f g : String × Scalar) (fs : List (String × Scalar))
    (tail : List Char) :
    writeInside l (f :: g :: fs) tail
      = l.opening ++ (writeField l f ++ ',' :: writeInside l (g :: fs) tail) := by
  simp [writeInside, List.intercalate_cons_cons, Layout.between]

/-- Written fields are read one after the other: each ends where the separator begins, and the
reader skips what a layout puts between them. -/
theorem readItems_writeInside (depth : Nat) (l : Layout) (f : String × Scalar)
    (fs : List (String × Scalar)) {most : Nat} (enough : fs.length < most) (tail : List Char) :
    readItems (readMember (readValue (depth + 1))) '\x7d' most (writeInside l (f :: fs) tail)
      = some ((f :: fs).map fun g => (g.1, g.2.tree), tail) := by
  obtain ⟨most, rfl⟩ : ∃ n, most = n + 1 := ⟨most - 1, by omega⟩
  -- the bound on the items goes down with the fields, so it is generalized with them
  induction fs generalizing f most with
  | nil =>
    rw [writeInside_singleton, readItems, readMember_writeField]
    simp only [Option.bind_eq_bind, Option.bind_some, skip_closing,
      skip_cons_of_not_blank (c := '\x7d') rfl]
    rfl
  | cons g fs ih =>
    obtain ⟨most, rfl⟩ : ∃ n, most = n + 1 := ⟨most - 1, by simp at enough; omega⟩
    rw [writeInside_cons_cons, readItems, readMember_writeField]
    simp only [Option.bind_eq_bind, Option.bind_some, skip_cons_of_not_blank (c := ',') rfl,
      ih g most (by simpa using enough)]
    rfl

theorem length_lt_writeInside (l : Layout) (f : String × Scalar) (fs : List (String × Scalar))
    (tail : List Char) : fs.length < (writeInside l (f :: fs) tail).length := by
  induction fs generalizing f with
  | nil =>
    rw [writeInside_singleton]
    simp only [List.length_append, List.length_cons, List.length_nil]
    omega
  | cons g fs ih =>
    have rest := ih g
    rw [writeInside_cons_cons]
    simp only [List.length_append, List.length_cons] at rest ⊢
    omega

theorem readSequence_writeInside (depth : Nat) (l : Layout) (fields : List (String × Scalar))
    (tail : List Char) :
    readSequence (readMember (readValue (depth + 1))) '\x7d' (writeInside l fields tail)
      = some (fields.map fun f => (f.1, f.2.tree), tail) := by
  cases fields with
  | nil =>
    have closed : skip (writeInside l [] tail) = '\x7d' :: tail :=
      (skip_opening l _).trans (skip_closing l _)
    rw [readSequence, closed]
    rfl
  | cons f fs =>
    have quoted : ∃ rest, skip (writeInside l (f :: fs) tail) = '"' :: rest := by
      rw [writeInside, skip_opening]
      cases fs <;> exact ⟨_, rfl⟩
    obtain ⟨rest, quoted⟩ := quoted
    rw [readSequence, quoted]
    exact readItems_writeInside depth l f fs (length_lt_writeInside l f fs tail) tail

theorem parse_write (l : Layout) (fields : List (String × Scalar)) :
    parse (String.ofList (write l fields))
      = some (.object (fields.map fun f => (f.1, f.2.tree))) := by
  -- the two braces make the text long enough for a value inside an object
  obtain ⟨depth, deep⟩ : ∃ depth, (write l fields).length = depth + 2 := by
    refine ⟨(write l fields).length - 2, ?_⟩
    simp only [write_eq_writeInside, writeInside, List.length_cons, List.length_append]
    omega
  rw [parse, String.toList_ofList, deep, write_eq_writeInside, readValue,
    skip_cons_of_not_blank rfl]
  show (match (readSequence _ '\x7d' _).map (Prod.map Tree.object id) with
    | some (t, rest) => if (skip rest).isEmpty then some t else none
    | none => none) = _
  rw [readSequence_writeInside]
  rfl

end InlineCheck.Json
