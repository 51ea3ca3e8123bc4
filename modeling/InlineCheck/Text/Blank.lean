/-! # Blank characters

Two classes of blank characters and the trimming and splitting built on them.

* `isBlank` — every character that separates words: the Unicode blanks together with
  the four information separators U+001C to U+001F.
* `isSpace` — the Unicode property `White_Space`, which leaves the separators out.
-/

namespace InlineCheck.Text

/-- The Unicode property `White_Space`. -/
def isSpace (c : Char) : Bool :=
  let n := c.toNat
  (0x09 ≤ n && n ≤ 0x0D) || n == 0x20 || n == 0x85 || n == 0xA0 || n == 0x1680
    || (0x2000 ≤ n && n ≤ 0x200A) || n == 0x2028 || n == 0x2029 || n == 0x202F
    || n == 0x205F || n == 0x3000

def isBlank (c : Char) : Bool :=
  isSpace c || (0x1C ≤ c.toNat && c.toNat ≤ 0x1F)

/-! ## Trimming -/

def trimStart (p : Char → Bool) (cs : List Char) : List Char :=
  cs.dropWhile p

def trimEnd (p : Char → Bool) (cs : List Char) : List Char :=
  (cs.reverse.dropWhile p).reverse

def trim (p : Char → Bool) (cs : List Char) : List Char :=
  trimEnd p (trimStart p cs)

def strip (s : String) : String :=
  String.ofList (trim isBlank s.toList)

/-! ## Splitting -/

/-- Cuts `cs` into its maximal runs of non-blank characters; `run` is the run being read,
in reverse. -/
def wordsFrom (run : List Char) : List Char → List (List Char)
  | [] => if run.isEmpty then [] else [run.reverse]
  | c :: cs =>
    if isBlank c then
      if run.isEmpty then wordsFrom [] cs else run.reverse :: wordsFrom [] cs
    else wordsFrom (c :: run) cs

def words (s : String) : List String :=
  (wordsFrom [] s.toList).map String.ofList

/-- Cuts `cs` at every character `sep`; the pieces are one more than the separators. -/
def splitAt (sep : Char) : List Char → List (List Char)
  | [] => [[]]
  | c :: cs =>
    if c = sep then [] :: splitAt sep cs
    else
      match splitAt sep cs with
      | [] => [[c]]
      | p :: ps => (c :: p) :: ps

/-- The lines of a text, cut at every newline; a final newline leaves an empty last line. -/
def lines (cs : List Char) : List (List Char) :=
  splitAt '\n' cs

/-! ## Searching -/

def dropPrefix? : List Char → List Char → Option (List Char)
  | [], cs => some cs
  | _ :: _, [] => none
  | p :: ps, c :: cs => if p = c then dropPrefix? ps cs else none

def startsWith (pat cs : List Char) : Bool :=
  (dropPrefix? pat cs).isSome

def cutFirst? (sep : Char) : List Char → Option (List Char × List Char)
  | [] => none
  | c :: cs =>
    if c = sep then some ([], cs) else (cutFirst? sep cs).map fun (a, b) => (c :: a, b)

def cutLast? (sep : Char) (cs : List Char) : Option (List Char × List Char) :=
  (cutFirst? sep cs.reverse).map fun (a, b) => (b.reverse, a.reverse)

end InlineCheck.Text
