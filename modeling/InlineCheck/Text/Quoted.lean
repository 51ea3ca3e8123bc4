import InlineCheck.Text.Printable

/-! # Quoted text

Text and byte strings written in quotes. Single quotes are used unless the content holds a single
quote and no double quote; the quote in use and the backslash are escaped, and unprintable
characters are shown by number.
-/

namespace InlineCheck.Text

/-- The last `width` hexadecimal digits of `n`, in lower case. -/
def hex (width n : Nat) : List Char :=
  let ds := Nat.toDigits 16 n
  List.replicate (width - ds.length) '0' ++ ds

def quoteFor (content : List Char) : Char :=
  if content.contains '\'' && !content.contains '"' then '"' else '\''

def quotedChar (quote c : Char) : List Char :=
  if c == quote || c == '\\' then ['\\', c]
  else if c == '\n' then ['\\', 'n']
  else if c == '\r' then ['\\', 'r']
  else if c == '\t' then ['\\', 't']
  else if isPrintable c then [c]
  else
    let n := c.toNat
    if n < 0x100 then '\\' :: 'x' :: hex 2 n
    else if n < 0x10000 then '\\' :: 'u' :: hex 4 n
    else '\\' :: 'U' :: hex 8 n

def quoted (s : String) : String :=
  let cs := s.toList
  let q := quoteFor cs
  String.ofList (q :: (cs.flatMap (quotedChar q) ++ [q]))

/-- A byte inside quotes: printable ASCII stands for itself. -/
def quotedByte (quote : Char) (b : UInt8) : List Char :=
  let c := Char.ofNat b.toNat
  if c == quote || c == '\\' then ['\\', c]
  else if c == '\n' then ['\\', 'n']
  else if c == '\r' then ['\\', 'r']
  else if c == '\t' then ['\\', 't']
  else if 0x20 ≤ b && b < 0x7F then [c]
  else '\\' :: 'x' :: hex 2 b.toNat

def quotedBytes (bs : List UInt8) : String :=
  let q := quoteFor (bs.map fun b => Char.ofNat b.toNat)
  String.ofList ('b' :: q :: (bs.flatMap (quotedByte q) ++ [q]))

end InlineCheck.Text
