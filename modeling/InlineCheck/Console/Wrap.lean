import InlineCheck.Console.Cells
import InlineCheck.Console.Markup

/-! # Wrapping

Lines of a width in cells. Words take their trailing blanks with them; a word goes on the next
line when it does not fit, and is folded when it fits on none.
-/

namespace InlineCheck.Console

/-! ## Words -/

inductive WordPart where
  | lead
  | body
  | trail
  deriving DecidableEq

/-- The words of a text, each with the blanks after it, and the first also with those before it.
`run` is the word being read, in reverse. -/
def lineWordsFrom (part : WordPart) (run : List Char) : List Char → List (List Char)
  | [] => if part = .lead then [] else [run.reverse]
  | c :: cs =>
    if Text.isBlank c then
      lineWordsFrom (if part = .body then .trail else part) (c :: run) cs
    else if part = .trail then run.reverse :: lineWordsFrom .body [c] cs
    else lineWordsFrom .body (c :: run) cs

def lineWords (cs : List Char) : List (List Char) :=
  lineWordsFrom .lead [] cs

/-! ## Breaks -/

/-- The breaks of a folded word that begins at `start`, and the cells of its last part. -/
def foldBreaks (start : Nat) : List (List Char) → List Nat × Option Nat
  | [] => ([], none)
  | [part] => (if start = 0 then [] else [start], some (cellLength part))
  | part :: parts =>
    let (breaks, size) := foldBreaks (start + part.length) parts
    ((if start = 0 then [] else [start]) ++ breaks, size)

/-- The places before which a line is broken; `offset` cells of the line are taken, and the next
word begins at `start`. -/
def breaksFrom (width offset start : Nat) : List (List Char) → List Nat
  | [] => []
  | w :: ws =>
    let next := start + w.length
    let size := cellLength (Text.trimEnd Text.isBlank w)
    if offset + size ≤ width then breaksFrom width (offset + cellLength w) next ws
    else if width < size then
      let (breaks, last) := foldBreaks start (chop width w)
      breaks ++ breaksFrom width (last.getD offset) next ws
    else if offset != 0 && start != 0 then start :: breaksFrom width (cellLength w) next ws
    else breaksFrom width offset next ws

def breaks (width : Nat) (cs : List Char) : List Nat :=
  breaksFrom width 0 0 (lineWords cs)

/-! ## Glyphs -/

def plain (gs : List Glyph) : List Char :=
  gs.map Glyph.char

def cutAt {α : Type} (pos : Nat) : List Nat → List α → List (List α)
  | [], xs => [xs]
  | b :: bs, xs => xs.take (b - pos) :: cutAt b bs (xs.drop (b - pos))

def glyphLines : List Glyph → List (List Glyph)
  | [] => [[]]
  | g :: gs =>
    if g.char = '\n' then [] :: glyphLines gs
    else
      match glyphLines gs with
      | [] => [[g]]
      | l :: ls => (g :: l) :: ls

def tabParts : List Glyph → List (List Glyph)
  | [] => []
  | g :: gs =>
    if g.char = '\t' then [g] :: tabParts gs
    else
      match tabParts gs with
      | [] => [[g]]
      | p :: ps => (g :: p) :: ps

/-- Replaces tabs: each becomes a blank and then blanks up to a multiple of eight cells. -/
def expandParts (column : Nat) : List (List Glyph) → List Glyph
  | [] => []
  | p :: ps =>
    match p.getLast? with
    | some g =>
      if g.char = '\t' then
        let blank : Glyph := { g with char := ' ' }
        let p := p.dropLast ++ [blank]
        let column := column + cellLength (plain p)
        let pad := (8 - column % 8) % 8
        p ++ List.replicate pad blank ++ expandParts (column + pad) ps
      else p ++ expandParts (column + cellLength (plain p)) ps
    | none => expandParts column ps

def expandTabs (gs : List Glyph) : List Glyph :=
  if gs.any (·.char == '\t') then expandParts 0 (tabParts gs) else gs

/-- Drops the trailing blanks of a line by which it has more characters than `width`. -/
def dropExcess (width : Nat) (gs : List Glyph) : List Glyph :=
  let blanks := (gs.reverse.takeWhile fun g => Text.isBlank g.char).length
  gs.take (gs.length - min blanks (gs.length - width))

def cropGlyphs (width : Nat) (gs : List Glyph) : List Glyph :=
  (gs.zip (crop width (plain gs))).map fun (g, c) => { g with char := c }

def wrapLine (width : Nat) (gs : List Glyph) : List (List Glyph) :=
  let gs := expandTabs gs
  (cutAt 0 (breaks width (plain gs)) gs).map fun l => cropGlyphs width (dropExcess width l)

def wrap (width : Nat) (gs : List Glyph) : List (List Glyph) :=
  (glyphLines gs).flatMap (wrapLine width)

end InlineCheck.Console
