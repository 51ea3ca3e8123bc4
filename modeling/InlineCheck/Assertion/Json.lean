import InlineCheck.Text.Quoted

/-! # JSON objects as text

The writing of a flat JSON object in one line or in an indented layout.

* `escape` — quotes, backslashes and control characters are escaped, nothing else.
* `Layout` — compact, or one field a line with an indentation.
* `write` — the text of an object.
-/

namespace InlineCheck.Json

/-- A field's value. -/
inductive Scalar where
  | null
  | bool (b : Bool)
  | text (s : String)
  deriving DecidableEq, Repr

def escapeChar (c : Char) : List Char :=
  if c = '"' then ['\\', '"']
  else if c = '\\' then ['\\', '\\']
  else if c.toNat = 0x08 then ['\\', 'b']
  else if c.toNat = 0x0C then ['\\', 'f']
  else if c = '\n' then ['\\', 'n']
  else if c = '\r' then ['\\', 'r']
  else if c = '\t' then ['\\', 't']
  else if c.toNat < 0x20 then '\\' :: 'u' :: Text.hex 4 c.toNat
  else [c]

def escape (cs : List Char) : List Char :=
  cs.flatMap escapeChar

def quote (s : String) : List Char :=
  '"' :: (escape s.toList ++ ['"'])

def Scalar.write : Scalar → List Char
  | .null => "null".toList
  | .bool true => "true".toList
  | .bool false => "false".toList
  | .text s => quote s

/-- How an object is laid out. -/
inductive Layout where
  | compact
  | indented (width : Nat)
  deriving DecidableEq, Repr

def Layout.opening : Layout → List Char
  | .compact => []
  | .indented n => '\n' :: List.replicate n ' '

def Layout.between (l : Layout) : List Char :=
  ',' :: l.opening

def Layout.colon : Layout → List Char
  | .compact => [':']
  | .indented _ => [':', ' ']

def Layout.closing : Layout → List Char
  | .compact => []
  | .indented _ => ['\n']

def writeField (l : Layout) (f : String × Scalar) : List Char :=
  quote f.1 ++ l.colon ++ f.2.write

/-- An object with its fields in order. -/
def write (l : Layout) (fields : List (String × Scalar)) : List Char :=
  '\x7b' :: (l.opening ++ l.between.intercalate (fields.map (writeField l))
    ++ l.closing ++ ['\x7d'])

end InlineCheck.Json
