/-! # Text as bytes

UTF-8 decoding that says where and why it fails, and byte lengths.
-/

namespace InlineCheck.Text

inductive DecodeCause where
  | startByte
  | continuationByte
  | endOfData
  deriving DecidableEq, Repr

/-- A failed decoding: the bytes `first … last` that cannot be read. `value` is the first of
them. -/
structure DecodeFault where
  value : UInt8
  first : Nat
  last : Nat
  cause : DecodeCause
  deriving DecidableEq, Repr

/-- How many continuation bytes a lead byte asks for, and the least and greatest byte that may
come next. -/
def leadByte (b : UInt8) : Option (Nat × UInt8 × UInt8) :=
  if 0xC2 ≤ b && b ≤ 0xDF then some (1, 0x80, 0xBF)
  else if b == 0xE0 then some (2, 0xA0, 0xBF)
  else if b == 0xED then some (2, 0x80, 0x9F)
  else if 0xE1 ≤ b && b ≤ 0xEF then some (2, 0x80, 0xBF)
  else if b == 0xF0 then some (3, 0x90, 0xBF)
  else if 0xF1 ≤ b && b ≤ 0xF3 then some (3, 0x80, 0xBF)
  else if b == 0xF4 then some (3, 0x80, 0x8F)
  else none

def leadBits (b : UInt8) : Nat :=
  if b < 0xE0 then b.toNat % 0x20 else if b < 0xF0 then b.toNat % 0x10 else b.toNat % 0x08

inductive DecodeState where
  | between
  | inside (lead : UInt8) (start owed : Nat) (low high : UInt8) (code : Nat)

/-- Decodes bytes from position `pos` on; `acc` holds the characters read so far, in reverse. -/
def decodeFrom (pos : Nat) (state : DecodeState) (acc : List Char) :
    List UInt8 → Except DecodeFault (List Char)
  | [] =>
    match state with
    | .between => .ok acc.reverse
    | .inside lead start .. => .error ⟨lead, start, pos - 1, .endOfData⟩
  | b :: bs =>
    match state with
    | .between =>
      if b < 0x80 then decodeFrom (pos + 1) .between (Char.ofNat b.toNat :: acc) bs
      else
        match leadByte b with
        | none => .error ⟨b, pos, pos, .startByte⟩
        | some (owed, low, high) =>
          decodeFrom (pos + 1) (.inside b pos owed low high (leadBits b)) acc bs
    | .inside lead start owed low high code =>
      if low ≤ b && b ≤ high then
        let code := code * 0x40 + b.toNat % 0x40
        if owed = 1 then decodeFrom (pos + 1) .between (Char.ofNat code :: acc) bs
        else decodeFrom (pos + 1) (.inside lead start (owed - 1) 0x80 0xBF code) acc bs
      else .error ⟨lead, start, pos - 1, .continuationByte⟩

def decode (bs : List UInt8) : Except DecodeFault String :=
  (decodeFrom 0 .between [] bs).map String.ofList

def byteLength (c : Char) : Nat :=
  let n := c.toNat
  if n < 0x80 then 1 else if n < 0x800 then 2 else if n < 0x10000 then 3 else 4

def byteCount (cs : List Char) : Nat :=
  cs.foldl (fun n c => n + byteLength c) 0

/-- The longest leading part of `cs` of at most `n` bytes. -/
def takeBytes : Nat → List Char → List Char
  | _, [] => []
  | n, c :: cs => if byteLength c ≤ n then c :: takeBytes (n - byteLength c) cs else []

def takeLastBytes (n : Nat) (cs : List Char) : List Char :=
  (takeBytes n cs.reverse).reverse

/-- Replaces every CR LF pair and every lone CR by a newline. -/
def unifyNewlines : List Char → List Char
  | [] => []
  | '\r' :: '\n' :: cs => '\n' :: unifyNewlines cs
  | c :: cs => (if c = '\r' then '\n' else c) :: unifyNewlines cs

end InlineCheck.Text
