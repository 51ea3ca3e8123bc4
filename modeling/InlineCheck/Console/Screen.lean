import InlineCheck.Console.Wrap

/-! # Consoles

A console prints marked-up text in lines of a width, with the control codes of its tags.
-/

namespace InlineCheck

namespace Console

/-- The control codes by which a console shows the tags open at a character; without a tag it shows
none. -/
structure Palette where
  codes : List String → List String
  bare : codes [] = []

def Palette.colorless : Palette where
  codes _ := []
  bare := rfl

def tagCode? (tag : String) : Option String :=
  match tag with
  | "bold" => some "1"
  | "red" => some "31"
  | "green" => some "32"
  | "yellow" => some "33"
  | _ => none

def Palette.basic : Palette where
  codes tags := tags.filterMap tagCode?
  bare := rfl

end Console

/-- A console of a width in cells. -/
structure Screen where
  width : Nat := 80
  palette : Console.Palette := .colorless
  lexicon : Console.Lexicon := {}

namespace Console

def runs (p : Palette) : List Glyph → List (List String × List Char)
  | [] => []
  | g :: gs =>
    let codes := p.codes g.tags
    match runs p gs with
    | (codes', cs) :: rest =>
      if codes = codes' then (codes, g.char :: cs) :: rest
      else (codes, [g.char]) :: (codes', cs) :: rest
    | [] => [(codes, [g.char])]

def escapeChar : Char := Char.ofNat 0x1B

def paintRun (codes : List String) (cs : List Char) : List Char :=
  if codes.isEmpty then cs
  else
    escapeChar :: '[' :: ((String.intercalate ";" codes).toList ++ 'm' :: cs)
      ++ [escapeChar, '[', '0', 'm']

def paint (p : Palette) (gs : List Glyph) : List Char :=
  (runs p gs).flatMap fun (codes, cs) => paintRun codes cs

end Console

namespace Screen

open Console

def paintLines (s : Screen) (ls : List (List Glyph)) : String :=
  String.ofList (ls.flatMap fun l => paint s.palette l ++ ['\n'])

/-- Marked-up text as printed; where there is no room, nothing is. -/
def print (s : Screen) (markup : String) : Except Fault String :=
  match render s.lexicon markup.toList, s.lexicon.clash s.width markup.toList with
  | .error f, _ => .error (.markup f)
  | .ok _, some f => .error (.markup f)
  | .ok gs, none => .ok (if s.width = 0 then "" else s.paintLines (wrap s.width gs))

end Screen

end InlineCheck
