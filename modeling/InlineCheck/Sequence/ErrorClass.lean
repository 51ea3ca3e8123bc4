import InlineCheck.Fault

/-! # Error classes

The error classes of the library as things that can be made from arguments, with the classes each
one also is.
-/

namespace InlineCheck

inductive ErrorClass where
  | sequence
  | outOfRange
  | invalidStep
  | config
  deriving DecidableEq, Repr

namespace ErrorClass

def name : ErrorClass → String
  | .sequence => "SequenceError"
  | .outOfRange => "OutOfRangeError"
  | .invalidStep => "InvalidStepError"
  | .config => "ConfigError"

def ofName? : String → Option ErrorClass
  | "SequenceError" => some .sequence
  | "OutOfRangeError" => some .outOfRange
  | "InvalidStepError" => some .invalidStep
  | "ConfigError" => some .config
  | _ => none

def memberOf : ErrorClass → List String
  | .sequence => ["SequenceError", "ValueError", "Exception"]
  | .outOfRange =>
    ["SequenceError", "OutOfRangeError", "ValueError", "IndexError", "LookupError", "Exception"]
  | .invalidStep => ["SequenceError", "InvalidStepError", "ValueError", "Exception"]
  | .config => ["ConfigError", "Exception"]

/-- The three named parts that a class is made from, if it has such. -/
def parts : ErrorClass → Option (List String)
  | .outOfRange => some ["start", "end", "length"]
  | .invalidStep => some ["start", "end", "step"]
  | _ => none

/-- Makes an error from arguments. A class with named parts takes exactly those. -/
def make (c : ErrorClass) (args : List Value) : Except Fault FaultView :=
  match c.parts with
  | none => .ok { kind := c.name, message := Value.displayArgs args }
  | some names =>
    match args with
    | [a, b, d] => do
      let sa ← a.display
      let sb ← b.display
      let sd ← d.display
      let message := if c = .outOfRange then sliceMessage sa sb sd else stepMessage sa sb sd
      return { kind := c.name, message, data := names.zip args }
    | args =>
      let function := c.name ++ ".__init__"
      if args.length < 3 then .error (.missingArguments function (names.drop args.length))
      else .error (.extraArguments function 4 (args.length + 1))

end ErrorClass

end InlineCheck
