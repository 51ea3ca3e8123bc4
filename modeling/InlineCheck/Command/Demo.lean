import InlineCheck.Sequence.Slice
import InlineCheck.Session.Step

/-! # Demonstrations

The programs that come with the library: one makes checks in blocks, the other cuts a sequence and
counts through a range.
-/

namespace InlineCheck

inductive Demo where
  | inlineTesting
  | slicesRanges
  deriving DecidableEq, Repr

namespace Demo

def all : List Demo := [.inlineTesting, .slicesRanges]

def name : Demo → String
  | .inlineTesting => "inline-testing"
  | .slicesRanges => "slices-ranges"

/-- The demonstrations that a name means; every other name means all of them. -/
def named (n : String) : List Demo :=
  match all.find? (·.name == n) with
  | some d => [d]
  | none => all

/-- Runs programs in a row, up to one that fails. -/
def inTurn : List (State → Except Raised Unit × State) → State → Except Raised Unit × State
  | [], s => (.ok (), s)
  | p :: ps, s =>
    match p s with
    | (.ok (), s) => inTurn ps s
    | (.error e, s) => (.error e, s)

def checked (label : String) (condition : Bool) (s : State) : Except Raised Unit × State :=
  let (r, s) := s.check (.text label) (.bool condition)
  (r.map fun _ => (), s)

def blockOf (env : Setting) (description : String) (checks : List (String × Bool)) :
    State → Except Raised Unit × State :=
  runBlock env (.text description) (inTurn (checks.map fun (label, b) => checked label b))

def printed (heading : String) (vs : List Value) (s : State) : Except Raised Unit × State :=
  (.ok (), s.emit [.wrote .out (joinWith " " (heading :: vs.map Value.shown) ++ "\n")])

def inlineTestingRun (env : Setting) : State → Except Raised Unit × State :=
  let isEven (n : Nat) := n % 2 == 0
  let (hello, world) := ("Hello", "World")
  inTurn
    [blockOf env "Addition Test"
      [("add(2, 3) == 5", (2 + 3 : Int) == 5), ("add(-1, 1) == 0", (-1 + 1 : Int) == 0)],
    blockOf env "Even Number Test"
      [("is_even(4) == True", isEven 4 == true), ("is_even(5) == False", isEven 5 == false)],
    blockOf env "String Equality Test"
      [("hello + \" \" + world == \"Hello World\"", hello ++ " " ++ world == "Hello World")]]

/-- Cuts a sequence, or tells why it cannot be cut. -/
def sliceRun (env : Setting) (s : State) : Except Raised Unit × State :=
  let numbers := Value.list ([10, 20, 30, 40, 50].map Value.int)
  let r := sliceFrom numbers (.int 1) (.int 4)
  let s := s.log env r.log
  match r.value with
  | .ok vs => printed "Sliced Array:" vs s
  | .error f => (.ok (), s.emit [.wrote .err (f.message ++ "\n")])

def rangeRun (env : Setting) (s : State) : Except Raised Unit × State :=
  let r := Progression.generateFrom (some (.int 0)) (some (.int 10)) (some (.int 2))
  let s := s.log env r.log
  match r.value with
  | .ok vs => printed "Range-based Loop:" (vs.map Value.int) s
  | .error f => (.error (.alone f), s)

def run (env : Setting) : Demo → State → Except Raised Unit × State
  | .inlineTesting => inlineTestingRun env
  | .slicesRanges => inTurn [sliceRun env, rangeRun env]

end Demo

end InlineCheck
