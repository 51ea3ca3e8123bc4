import InlineCheck.Log
import InlineCheck.Text.Blank

/-! # Environment files

Files of `NAME=value` lines that add to the environment. Values may be quoted and may refer to
other variables.

* `bindings` — the lines of a file, in order; a line that cannot be read is known by its number.
* `expand` — replaces the references in a value.
* `read` — the variables of a file with their values, and warnings for lines that cannot be read.
-/

namespace InlineCheck.EnvFile

/-! ## Characters -/

def isInnerBlank (c : Char) : Bool :=
  Text.isBlank c && c != '\n' && c != '\r'

def skipInner (cs : List Char) : List Char :=
  cs.dropWhile isInnerBlank

def isNameChar (c : Char) : Bool :=
  !(c == '=' || c == '#' || Text.isBlank c)

def splitLine (cs : List Char) : List Char × List Char :=
  (cs.takeWhile (· != '\n'), cs.dropWhile (· != '\n'))

/-! ## Lines -/

/-- A reader fails with the text left where it stopped. -/
abbrev Reader (α : Type) := List Char → Except (List Char) (α × List Char)

/-- The inside of quotes up to the first closing quote that no backslash precedes; `slash` tells
whether one has just been read. `acc` holds what was read, in reverse, and `escaped` what would be
the inside, and the rest, if the last escaped quote were the closing one. -/
def readQuotedFrom (quote : Char) (slash : Bool) (acc : List Char)
    (escaped : Option (List Char × List Char)) : List Char → Option (List Char × List Char)
  | [] => escaped
  | c :: cs =>
    if c = quote then
      if slash then readQuotedFrom quote false (c :: acc) (some (acc.reverse, cs)) cs
      else some (acc.reverse, cs)
    else readQuotedFrom quote (c == '\\') (c :: acc) escaped cs

def unescape (decode : Char → Option Char) : List Char → List Char
  | [] => []
  | '\\' :: c :: cs =>
    match decode c with
    | some d => d :: unescape decode cs
    | none => '\\' :: unescape decode (c :: cs)
  | c :: cs => c :: unescape decode cs

def singleEscape (c : Char) : Option Char :=
  if c == '\\' || c == '\'' then some c else none

def doubleEscape : Char → Option Char
  | '\\' => some '\\'
  | '\'' => some '\''
  | '"' => some '"'
  | 'a' => some (Char.ofNat 0x07)
  | 'b' => some (Char.ofNat 0x08)
  | 'f' => some (Char.ofNat 0x0C)
  | 'n' => some '\n'
  | 'r' => some '\r'
  | 't' => some '\t'
  | 'v' => some (Char.ofNat 0x0B)
  | _ => none

/-- An unquoted value up to a comment, which a blank must precede. -/
def beforeComment : List Char → List Char
  | [] => []
  | c :: cs =>
    if Text.isBlank c && ((c :: cs).dropWhile Text.isBlank).head? == some '#' then []
    else c :: beforeComment cs

def readValue : Reader (List Char) := fun cs =>
  let quotedBy (quote : Char) (decode : Char → Option Char) (rest : List Char) :=
    match readQuotedFrom quote false [] none rest with
    | some (inside, rest) => .ok (unescape decode inside, rest)
    | none => .error cs
  match cs with
  | '\'' :: rest => quotedBy '\'' singleEscape rest
  | '"' :: rest => quotedBy '"' doubleEscape rest
  | cs =>
    let (line, rest) := splitLine cs
    .ok (Text.trimEnd Text.isBlank (beforeComment line), rest)

def skipExport (cs : List Char) : List Char :=
  match Text.dropPrefix? "export".toList cs with
  | some rest => if rest.head?.any isInnerBlank then skipInner rest else cs
  | none => cs

def readName : Reader (Option (List Char)) := fun cs =>
  match cs with
  | '#' :: _ => .ok (none, cs)
  | '\'' :: rest =>
    let inside := rest.takeWhile (· != '\'')
    match inside, rest.drop inside.length with
    | _ :: _, '\'' :: rest => .ok (some inside, rest)
    | _, _ => .error cs
  | cs =>
    let name := cs.takeWhile isNameChar
    if name.isEmpty then .error cs else .ok (some name, cs.drop name.length)

def skipComment (cs : List Char) : List Char :=
  match skipInner cs with
  | '#' :: rest => (splitLine rest).2
  | _ => cs

def readLineEnd : Reader Unit := fun cs =>
  match skipInner cs with
  | [] => .ok ((), [])
  | '\n' :: rest => .ok ((), rest)
  | _ => .error cs

/-- A line: its name, unless it is a comment, and its value, if it has one. -/
def readLine : Reader (Option (List Char × Option (List Char))) := fun cs => do
  let (name, rest) ← readName (skipExport cs)
  let (value, rest) ← match skipInner rest with
    | '=' :: rest =>
      let (v, rest) ← readValue (skipInner rest)
      pure (some v, rest)
    | rest => pure (none, rest)
  let ((), rest) ← readLineEnd (skipComment rest)
  return (name.map (·, value), rest)

inductive Binding where
  | entry (name : String) (value : Option String)
  | nothing
  /-- Cannot be read; the number of its first line. -/
  | bad (line : Nat)
  deriving DecidableEq, Repr

def bindingsFrom : Nat → Nat → List Char → List Binding
  | 0, _, _ => []
  | fuel + 1, line, cs =>
    if cs.isEmpty then []
    else
      let next (rest : List Char) := line + (cs.take (cs.length - rest.length)).count '\n'
      match cs.dropWhile Text.isBlank with
      | [] => []
      | body =>
        match readLine body with
        | .ok (some (name, value), rest) =>
          .entry (String.ofList name) (value.map String.ofList)
            :: bindingsFrom fuel (next rest) rest
        | .ok (none, rest) => .nothing :: bindingsFrom fuel (next rest) rest
        | .error stopped =>
          -- the rest of the line where reading stopped is given up
          let rest := (splitLine stopped).2.drop 1
          .bad line :: bindingsFrom fuel (next rest) rest

def bindings (cs : List Char) : List Binding :=
  let cs := match cs with
    | c :: rest => if c.toNat = 0xFEFF then rest else cs
    | [] => []
  bindingsFrom (cs.length + 1) 1 cs

/-! ## References -/

/-- Variables with their values; a variable may have none. -/
abbrev Variables := List (String × Option String)

def Variables.find? (vs : Variables) (name : String) : Option (Option String) :=
  (List.find? (·.1 == name) vs).map (·.2)

/-- Sets a variable; one that was set keeps its place. -/
def Variables.set (name : String) (value : Option String) : Variables → Variables
  | [] => [(name, value)]
  | e :: es => if e.1 == name then (name, value) :: es else e :: Variables.set name value es

def Variables.update (vs ws : Variables) : Variables :=
  ws.foldl (fun vs (name, value) => Variables.set name value vs) vs

/-- A reference after its dollar sign: the name, the text for a variable that is not set, and the
length of the whole. -/
def reference? : List Char → Option (List Char × List Char × Nat)
  | '\x7b' :: cs =>
    let name := cs.takeWhile fun c => c != '\x7d' && c != ':'
    match cs.drop name.length with
    | '\x7d' :: _ => some (name, [], name.length + 2)
    | ':' :: '-' :: rest =>
      let default := rest.takeWhile (· != '\x7d')
      match rest.drop default.length with
      | _ :: _ => some (name, default, name.length + default.length + 4)
      | [] => none
    | _ => none
  | _ => none

def referenceText (vs : Variables) (name default : List Char) : List Char :=
  match Variables.find? vs (String.ofList name) with
  | some (some v) => v.toList
  | some none => []
  | none => default

def expandFrom (vs : Variables) (skip : Nat) : List Char → List Char
  | [] => []
  | c :: cs =>
    match skip with
    | skip + 1 => expandFrom vs skip cs
    | 0 =>
      match (if c = '$' then reference? cs else none) with
      | some (name, default, size) => referenceText vs name default ++ expandFrom vs size cs
      | none => c :: expandFrom vs 0 cs

def expand (vs : Variables) (value : String) : String :=
  String.ofList (expandFrom vs 0 value.toList)

/-- The variables of lines in order. A reference means an earlier line of the file before it means
the environment. -/
def resolve (environment : Variables) : List Binding → Variables → Variables
  | [], vs => vs
  | .entry name value :: bs, vs =>
    let value := value.map (expand (environment.update vs))
    resolve environment bs (Variables.set name value vs)
  | _ :: bs, vs => resolve environment bs vs

def warning? : Binding → Option LogRecord
  | .bad line =>
    some ⟨"dotenv.main", .warning,
      s!"python-dotenv could not parse statement starting at line {line}"⟩
  | _ => none

def read (environment : Variables) (text : List Char) : Logged Variables :=
  let bs := bindings text
  { value := resolve environment bs [], log := bs.filterMap warning? }

end InlineCheck.EnvFile
