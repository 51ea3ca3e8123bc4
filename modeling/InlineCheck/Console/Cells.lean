import InlineCheck.Text.Widths

/-! # Cells of a line

How many cells of a terminal line a text takes, and where it may be cut.

* `charWidth` — zero, one or two cells for a character.
* `cellLength` — the cells of a text: a joiner swallows the character after it, and the emoji
  selector widens the character before it.
* `graphemes` — the units a text is cut into.
-/

namespace InlineCheck.Console

open Text (inRanges)

def joiner : Char := Char.ofNat 0x200D

def emojiSelector : Char := Char.ofNat 0xFE0F

def charWidth (c : Char) : Nat :=
  let n := c.toNat
  if n < 0x20 || (0x7F ≤ n && n < 0xA0) then 0
  else if n < 0xA0 then 1
  else if inRanges n Text.zeroRanges then 0
  else if inRanges n Text.wideRanges then 2
  else 1

def isWidened (c : Char) : Bool :=
  inRanges c.toNat Text.widenedRanges

/-- The cells of `cs`; `last` is the last character that took any, unless it was widened. -/
def cellLengthFrom (last : Option Char) : List Char → Nat
  | [] => 0
  | c :: cs =>
    if c = joiner then
      match cs with
      | [] => 0
      -- the joined character takes no cell of its own
      | _ :: rest => cellLengthFrom last rest
    else if c = emojiSelector then
      match last with
      | some l => (if isWidened l then 1 else 0) + cellLengthFrom none cs
      | none => cellLengthFrom none cs
    else
      let w := charWidth c
      w + cellLengthFrom (if w = 0 then last else some c) cs

def cellLength (cs : List Char) : Nat :=
  cellLengthFrom none cs

/-- Characters that stay together, and their cells. -/
structure Grapheme where
  chars : List Char
  width : Nat
  deriving DecidableEq, Repr

def graphemesFrom (last : Option Char) (acc : List Grapheme) : List Char → List Grapheme
  | [] => acc.reverse
  | c :: cs =>
    match acc with
    | [] =>
      let w := if c = joiner || c = emojiSelector then 0 else charWidth c
      graphemesFrom (if w = 0 then last else some c) [⟨[c], w⟩] cs
    | g :: gs =>
      if c = joiner then
        match cs with
        | [] => (⟨g.chars ++ [c], g.width⟩ :: gs).reverse
        | d :: rest => graphemesFrom last (⟨g.chars ++ [c, d], g.width⟩ :: gs) rest
      else if c = emojiSelector then
        match last with
        | some l =>
          if isWidened l then graphemesFrom none (⟨g.chars ++ [c], g.width + 1⟩ :: gs) cs
          else graphemesFrom last (⟨g.chars ++ [c], g.width⟩ :: gs) cs
        | none => graphemesFrom none (⟨g.chars ++ [c], g.width⟩ :: gs) cs
      else
        let w := charWidth c
        if w = 0 then graphemesFrom last (⟨g.chars ++ [c], g.width⟩ :: gs) cs
        else graphemesFrom (some c) (⟨[c], w⟩ :: g :: gs) cs

def graphemes (cs : List Char) : List Grapheme :=
  graphemesFrom none [] cs

/-- Puts units on lines of `width` cells; `line` is the line being filled, of `size` cells. A last
line without cells is dropped. -/
def chopFrom (width size : Nat) (line : List Char) : List Grapheme → List (List Char)
  | [] => if size = 0 then [] else [line]
  | g :: gs =>
    if width < size + g.width then line :: chopFrom width g.width g.chars gs
    else chopFrom width (size + g.width) (line ++ g.chars) gs

def chop (width : Nat) (cs : List Char) : List (List Char) :=
  chopFrom width 0 [] (graphemes cs)

/-- The leading units of at most `width` cells; a blank stands for a unit that is cut in two. -/
def cropUnits (width : Nat) : List Grapheme → List Char
  | [] => []
  | g :: gs =>
    if width = 0 then []
    else if g.width ≤ width then g.chars ++ cropUnits (width - g.width) gs
    else [' ']

def crop (width : Nat) (cs : List Char) : List Char :=
  if cellLength cs ≤ width then cs else cropUnits width (graphemes cs)

end InlineCheck.Console
