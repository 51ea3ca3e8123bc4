import Std.Time
import InlineCheck.Command.Run
import InlineCheck.Text.Letters

/-! # The program

Reads what a command needs to know, runs it, and writes what it says. No interpreter comes with it,
so that the text of a script is refused.
-/

namespace InlineCheck.Main

def pathOf (place : Place) : String :=
  "/" ++ joinWith "/" place

def look (place : Place) : IO (Option (Place × File)) := do
  let path := (← IO.currentDir) / pathOf place
  if ← path.isDir then return some (place, .directory)
  try return some (place, .bytes (← IO.FS.readBinFile path).toList)
  catch _ => return none

/-- The places that a command may look at: project and environment files in all directories upwards,
and everything on the way to a path among its words. -/
def placesOf (here : Place) (words : List String) : List Place :=
  let upwards := (FileTree.upwards here).flatMap fun p =>
    [p ++ [FileTree.projectFile], p ++ [".env"]]
  let mentioned := words.flatMap fun word =>
    let names := pathNames word
    let top := if word.startsWith "/" then [] else here
    (List.range (names.length + 1)).map fun n => walk top (names.take n)
  (upwards ++ mentioned).eraseDups

/-- The names that an environment file may refer to. -/
def namesIn (f : File) : List String :=
  match f.read with
  | .ok text =>
    ((text.toList.splitBy fun a b => Text.isNameContinue a == Text.isNameContinue b).map
      String.ofList).eraseDups
  | .error _ => []

def screenNames : List String :=
  ["COLUMNS", "LINES", "TERM", "TTY_COMPATIBLE", "FORCE_COLOR"]

def environmentOf (files : List (Place × File)) : IO EnvFile.Variables := do
  let own := Settings.names.map Settings.variableName
  let referred := (files.filter (·.1.getLast? == some ".env")).flatMap fun (_, f) => namesIn f
  let mut found := []
  for name in (own ++ screenNames ++ referred).eraseDups do
    if let some value ← IO.getEnv name then found := found ++ [(name, some value)]
  return found

def write (out err : IO.FS.Stream) : Event → IO Unit
  | .wrote .out text | .wrote .ownOut text => do out.putStr text; out.flush
  | .wrote .err text | .wrote .ownErr text => do err.putStr text; err.flush
  | _ => return ()

/-- The code that the program ends with, as the system takes it. -/
def systemCode : Value → UInt32
  | .int n => (n % 256).toNat.toUInt32
  | .bool b => if b then 1 else 0
  | .null => 0
  | _ => 1

def runWords (words : List String) : IO UInt32 := do
  let here := pathNames (← IO.currentDir).toString
  let files := (← (placesOf here words).mapM look).filterMap id
  let now := toString (← Std.Time.PlainDateTime.now)
  let out ← IO.getStdout
  let err ← IO.getStderr
  let i : Invocation :=
    { files := { files }, place := here, environment := ← environmentOf files
      isShown := ← out.isTty, stamp := String.ofList (now.toList.take 19) }
  let o := i.run words
  for e in o.events do write out err e
  match o.ending with
  | .returned code => return systemCode code
  | .exited code => return code.toUInt32
  | .failed r =>
    err.putStr r.trace
    return 1

end InlineCheck.Main

def main (words : List String) : IO UInt32 :=
  InlineCheck.Main.runWords words
