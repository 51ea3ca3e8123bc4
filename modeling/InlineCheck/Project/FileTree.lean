import InlineCheck.Fault
import InlineCheck.Session.Step
import InlineCheck.Text.Blank

/-! # File trees

The files that a program sees, and the directory that its project begins in.

* `FileTree` — files below a base directory, links between places, and what the system refuses.
* `resolve` — the place that names lead to, with the links on the way followed.
* `open?` — what the system finds at the end of names.
* `findRoot` — the nearest directory upwards that holds a project file.
-/

namespace InlineCheck

inductive File where
  | text (s : String)
  | bytes (bs : List UInt8)
  | directory
  /-- A program given by its steps. -/
  | script (steps : List Step)
  deriving Repr

/-- A place below the base directory: the names on the way to it. -/
abbrev Place := List String

/-- Where a link leads in the end: to a place, or in a circle that closes at one. -/
inductive Lead where
  | to (place : Place)
  | circle (there : Place)
  deriving DecidableEq, Repr

def stations (place : Place) : List Place :=
  (List.range place.length).map fun i => place.take (i + 1)

def isSettled (links : List (Place × Lead)) (place : Place) : Bool :=
  (stations place).all fun p => !links.any (·.1 == p)

def isName (name : String) : Bool :=
  name != "" && name != "." && name != ".." && !name.toList.contains '/'
    && !name.toList.contains (Char.ofNat 0)

theorem settled_nil : ∀ link ∈ ([] : List (Place × Lead)), ∀ place, link.2 = .to place →
    place.all isName = true ∧ isSettled [] place = true :=
  fun _ member => absurd member List.not_mem_nil

/-- Files below a base directory. -/
structure FileTree where
  /-- How the top is written. -/
  base : String := ""
  files : List (Place × File) := []
  links : List (Place × Lead) := []
  /-- The answer by which the system refuses to look at a place, if it does. -/
  refusal : Place → Option Refusal := fun _ => none
  /-- Whether a text is nested too deeply to be read. -/
  tooDeep : String → Bool := fun _ => false
  /-- Where links lead, there are names on the way and no more links. -/
  settled : ∀ link ∈ links, ∀ place, link.2 = .to place →
    place.all isName = true ∧ isSettled links place = true := by
      exact InlineCheck.settled_nil

def pathNames (path : String) : List String :=
  ((Text.splitAt '/' path.toList).map String.ofList).filter fun n => n != "" && n != "."

def isAbsolute (path : String) : Bool :=
  Text.startsWith ['/'] path.toList

def walk (place : Place) : List String → Place
  | [] => place
  | ".." :: names => walk place.dropLast names
  | name :: names => walk (place ++ [name]) names

def nameLimit : Nat := 255
def pathLimit : Nat := 4095

def hasNull (names : List String) : Bool :=
  names.any fun name => name.toList.contains (Char.ofNat 0)

namespace FileTree

def text (t : FileTree) (place : Place) : String :=
  if place.isEmpty then (if t.base = "" then "/" else t.base)
  else t.base ++ "/" ++ joinWith "/" place

def find? (t : FileTree) (place : Place) : Option File :=
  (t.files.find? (·.1 == place)).map (·.2)

def isFile (t : FileTree) (place : Place) : Bool :=
  match t.find? place with
  | some .directory | none => false
  | some _ => true

/-- Whether there is a directory at a place: it was made, or something lies below it. -/
def isDirectory (t : FileTree) (place : Place) : Bool :=
  !t.isFile place && (place.isEmpty || t.files.any (fun (p, _) => place.isPrefixOf p)
    || t.links.any fun (p, _) => place.isPrefixOf p && p != place)

/-- The answer by which the system refuses to go on to a place from the directory above it. -/
def refuses? (t : FileTree) (place : Place) : Option Refusal :=
  if (place.getLast?.getD "").utf8ByteSize ≤ nameLimit then t.refusal place
  else some .nameTooLong

def lead? (t : FileTree) (place : Place) : Option Lead :=
  (t.links.find? (·.1 == place)).map (·.2)

def isVisible (t : FileTree) (place : Place) : Bool :=
  (stations place).all fun p => (t.refuses? p).isNone

/-! ## Resolving -/

/-- The place that names lead to from a place without links. What is missing or refused is no
link. -/
def resolveFrom (t : FileTree) (place : Place) : List String → Except SystemFault Place
  | [] => .ok place
  | name :: names =>
    if name = ".." then t.resolveFrom place.dropLast names
    else
      match (t.lead? (place ++ [name])).filter fun _ => t.isVisible (place ++ [name]) with
      | none => t.resolveFrom (place ++ [name]) names
      | some (.to target) => t.resolveFrom target names
      | some (.circle there) => .error (.circle (t.text (walk there names)))

def resolve (t : FileTree) (names : List String) : Except SystemFault Place :=
  if hasNull names then .error .nullByte else t.resolveFrom [] names

/-! ## Looking -/

/-- Where the system comes along names that are no links: every directory on the way must be there,
and none may be refused. -/
def reachFrom (t : FileTree) (place : Place) : List String → Except Refusal (Option Place)
  | [] => .ok (some place)
  | name :: names =>
    if !t.isDirectory place then .ok none
    else
      match t.refuses? (place ++ [name]) with
      | some answer => .error answer
      | none => t.reachFrom (place ++ [name]) names

/-- Where the system comes along any names, from a place without links. -/
def seekFrom (t : FileTree) (place : Place) : List String → Except Refusal (Option Place)
  | [] => .ok (some place)
  | name :: names =>
    if !t.isDirectory place then .ok none
    else if name = ".." then t.seekFrom place.dropLast names
    else
      match t.refuses? (place ++ [name]) with
      | some answer => .error answer
      | none =>
        match t.lead? (place ++ [name]) with
        | none => t.seekFrom (place ++ [name]) names
        | some (.circle _) => .ok none
        | some (.to target) =>
          -- links are kept with their last target, so none is met on the way there
          match t.reachFrom [] target with
          | .error answer => .error answer
          | .ok none => .ok none
          | .ok (some there) => t.seekFrom there names

/-- The file that the system finds at the end of names from a place; `path` is how they are
written. -/
def open? (t : FileTree) (place : Place) (names : List String) (path : String) :
    Except SystemFault (Option File) :=
  if hasNull names then .ok none
  else if pathLimit < path.utf8ByteSize then .error (.refused .nameTooLong path)
  else
    match t.seekFrom place names with
    | .error answer => .error (.refused answer path)
    | .ok found => .ok ((found.filter t.isFile).bind t.find?)

def openAt? (t : FileTree) (place : Place) : Except SystemFault (Option File) :=
  t.open? [] place (t.text place)

/-! ## Projects -/

def projectFile : String := "pyproject.toml"

def holdsProject (t : FileTree) (place : Place) : Except SystemFault Bool :=
  (t.openAt? (place ++ [projectFile])).map Option.isSome

def upwards (place : Place) : List Place :=
  (List.range (place.length + 1)).map fun i => place.take (place.length - i)

def firstProject (t : FileTree) : List Place → Except SystemFault (Option Place)
  | [] => .ok none
  | p :: ps => do if ← t.holdsProject p then return some p else t.firstProject ps

/-- The directory of the project that names from the top belong to: the nearest upwards that holds a
project file, and the place itself when none does. -/
def findRoot (t : FileTree) (names : List String) : Except SystemFault Place := do
  let place ← t.resolve names
  return (← t.firstProject (upwards place)).getD place

end FileTree

/-- The names from the top that a start means for a program that runs at a place. -/
def namesFrom (here : Place) (start : Option String) : List String :=
  match start with
  | none => here
  | some path => if isAbsolute path then pathNames path else here ++ pathNames path

def File.read : File → Except Text.DecodeFault String
  | .text s => .ok s
  | .bytes bs => Text.decode bs
  | .directory | .script _ => .ok ""

end InlineCheck
