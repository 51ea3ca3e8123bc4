import InlineCheck.Console.Emoji
import InlineCheck.Console.Tag
import InlineCheck.Fault

/-! # Markup

Text with tags in square brackets, escaped by backslashes.

* `scan` — the marks of a text: plain characters, and bracketed tags with the backslashes before
  them.
* `escape` — writes a text so that none of its tags counts.
* `render` — the characters of a marked-up text with the tags open at each.
-/

namespace InlineCheck.Console

/-! ## Marks -/

/-- A character, or a bracketed tag after a run of backslashes. -/
inductive Mark where
  | char (c : Char)
  | tag (slashes : Nat) (body : List Char)
  deriving DecidableEq, Repr

def isTagStart (c : Char) : Bool :=
  ('a' ≤ c && c ≤ 'z') || c == '#' || c == '/' || c == '@'

def untilBracket : List Char → Option (List Char)
  | [] => none
  | c :: cs =>
    if c = ']' then some []
    else if c = '[' then none
    else (untilBracket cs).map (c :: ·)

def tagBody? : List Char → Option (List Char)
  | [] => none
  | c :: cs => if isTagStart c then (untilBracket cs).map (c :: ·) else none

def slashMarks (n : Nat) : List Mark :=
  List.replicate n (.char '\\')

/-- The marks of a text. `skip` characters belong to a tag already taken, and `slashes` backslashes
have just been read. -/
def scanFrom (skip slashes : Nat) : List Char → List Mark
  | [] => slashMarks slashes
  | c :: cs =>
    match skip with
    | skip + 1 => scanFrom skip 0 cs
    | 0 =>
      if c = '\\' then scanFrom 0 (slashes + 1) cs
      else if c = '[' then
        match tagBody? cs with
        | some body => .tag slashes body :: scanFrom (body.length + 1) 0 cs
        | none => slashMarks slashes ++ .char c :: scanFrom 0 0 cs
      else slashMarks slashes ++ .char c :: scanFrom 0 0 cs

def scan (cs : List Char) : List Mark :=
  scanFrom 0 0 cs

def bracketed (body : List Char) : List Char :=
  '[' :: (body ++ [']'])

def Mark.source : Mark → List Char
  | .char c => [c]
  | .tag slashes body => List.replicate slashes '\\' ++ bracketed body

/-! ## Escaping -/

/-- A mark that will not count as a tag: its backslashes are doubled, and one more is put before
the bracket. -/
def Mark.escaped : Mark → List Char
  | .char c => [c]
  | .tag slashes body => List.replicate (2 * slashes + 1) '\\' ++ bracketed body

def guardEnd (cs : List Char) : List Char :=
  match cs.reverse with
  | ['\\'] => cs ++ ['\\']
  | '\\' :: c :: _ => if c = '\\' then cs else cs ++ ['\\']
  | _ => cs

def escape (cs : List Char) : List Char :=
  guardEnd ((scan cs).flatMap Mark.escaped)

/-! ## Pieces -/

/-- A stretch of text, or a tag that counts, with its place in the markup. -/
inductive Piece where
  | text (cs : List Char)
  | tag (position : Nat) (body : List Char)
  deriving DecidableEq, Repr

def textPiece (cs : List Char) : List Piece :=
  if cs.isEmpty then [] else [.text cs]

/-- The pieces of marks from a place on; `run` holds the characters of the stretch being read, in
reverse. Of backslashes before a tag half are kept, and an odd number makes the tag literal. -/
def piecesFrom (position : Nat) (run : List Char) : List Mark → List Piece
  | [] => textPiece run.reverse
  | .char c :: ms => piecesFrom (position + 1) (c :: run) ms
  | .tag slashes body :: ms =>
    let next := position + slashes + body.length + 2
    textPiece run.reverse ++ textPiece (List.replicate (slashes / 2) '\\')
      ++ (if slashes % 2 = 1 then .text (bracketed body) else .tag (position + slashes) body)
      :: piecesFrom next [] ms

def pieces (cs : List Char) : List Piece :=
  piecesFrom 0 [] (scan cs)

def Piece.isBare : Piece → Bool
  | .text _ => true
  | .tag _ body => body.all fun c => c.isLower || c == '/'

/-! ## Rendering -/

theorem calm_none : ∀ (_ : Nat) cs, (pieces cs).all Piece.isBare = true →
    (none : Option MarkupFault) = none :=
  fun _ _ _ => rfl

/-- What markup takes from elsewhere. -/
structure Lexicon where
  /-- The colors that have names. -/
  colors : List String := colorNames
  /-- What is wrong with the parameters of a handler, if anything. -/
  objection : String → Option String := fun _ => none
  /-- What goes wrong when the styles of a marked-up text are put into rows of a width. A style of
  one word is read with its tag, so nothing can be wrong with it then. -/
  clash : Nat → List Char → Option MarkupFault := fun _ _ => none
  calm : ∀ width cs, (pieces cs).all Piece.isBare = true → clash width cs = none := by
    exact InlineCheck.Console.calm_none

/-- A character with the tags open at it, outermost first. -/
structure Glyph where
  char : Char
  tags : List String
  deriving DecidableEq, Repr

def unescapeBrackets : List Char → List Char
  | [] => []
  | '\\' :: '[' :: cs => '[' :: unescapeBrackets cs
  | c :: cs => c :: unescapeBrackets cs

def isDropped (c : Char) : Bool :=
  [0x07, 0x08, 0x0B, 0x0C, 0x0D].contains c.toNat

def printed (cs : List Char) : List Char :=
  (replaceEmoji (unescapeBrackets cs)).filter (!isDropped ·)

/-- Whether an open tag has a name. An open tag is its name, with its parameters after a sign of
equality. -/
def isOpened (name : String) (tag : String) : Bool :=
  String.ofList (tagName tag.toList) == name

def closeTag (name : String) (stack : List String) : Option (String × List String) :=
  match stack.reverse.findIdx? (isOpened name) with
  | some i => some (stack.reverse.getD i "", (stack.reverse.eraseIdx i).reverse)
  | none => none

/-- What closing a tag comes to: the parameters of a handler are read then. -/
def closed (lexicon : Lexicon) (tag : String) (stack : List String) :
    Except MarkupFault (List String) :=
  let parameters := tag.toList.drop ((tagName tag.toList).length + 1)
  if Text.startsWith ['@'] tag.toList && !parameters.isEmpty then
    match lexicon.objection (String.ofList parameters) with
    | some wording => .error (.handler wording)
    | none => .ok stack
  else .ok stack

def applyTag (lexicon : Lexicon) (position : Nat) (body : List Char) (stack : List String) :
    Except MarkupFault (List String) :=
  match body with
  | '/' :: rest =>
    let name := String.ofList (Text.trim Text.isBlank (tagName rest))
    if name = "" then
      -- a tag without a name closes the one opened last
      match stack.getLast? with
      | none => .error (.nothingOpen position)
      | some tag => closed lexicon tag stack.dropLast
    else
      match normalName lexicon.colors name with
      | .error cause => .error (.color cause)
      | .ok name =>
        match closeTag name stack with
        | some (tag, stack) => closed lexicon tag stack
        | none => .error (.unmatched (String.ofList (bracketed body)) position)
  | body =>
    match normalName lexicon.colors (String.ofList (tagName body)) with
    | .error cause => .error (.color cause)
    | .ok name => .ok (stack ++ [name ++ String.ofList (body.drop (tagName body).length)])

def renderFrom (lexicon : Lexicon) (stack : List String) :
    List Piece → Except MarkupFault (List Glyph)
  | [] => .ok []
  | .text cs :: ps => do
    let rest ← renderFrom lexicon stack ps
    return (printed cs).map (⟨·, stack⟩) ++ rest
  | .tag position body :: ps => do
    let stack ← applyTag lexicon position body stack
    renderFrom lexicon stack ps

def render (lexicon : Lexicon) (cs : List Char) : Except MarkupFault (List Glyph) :=
  renderFrom lexicon [] (pieces cs)

end InlineCheck.Console
