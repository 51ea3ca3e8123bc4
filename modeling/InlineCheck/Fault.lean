import InlineCheck.Validation.Report

/-! # Faults

Every way in which an operation can fail, as a cause.

* `Fault` — the causes.
* `Fault.kind` and `Fault.message` — the class name and the wording a fault is shown with.
* `Fault.describe` — both together with the data a fault carries.
* `Fault.isOrdinary` — whether a fault may be handled like any other, or ends the program.
-/

namespace InlineCheck

open Validation (Report)

/-- What is wrong with markup: a misplaced closing tag, a handler whose parameters cannot be read,
or a color whose parts are no numbers. -/
inductive MarkupFault where
  | unmatched (tag : String) (position : Nat)
  | nothingOpen (position : Nat)
  | handler (wording : String)
  | color (cause : Number.WholeFault)
  deriving DecidableEq, Repr

structure Refusal where
  kind : String := "OSError"
  number : Nat
  wording : String
  deriving DecidableEq, Repr

def Refusal.nameTooLong : Refusal where
  number := 36
  wording := "File name too long"

/-- Why something cannot be read from the system. -/
inductive SystemFault where
  | refused (answer : Refusal) (path : String)
  /-- A path has a character that no path may have. -/
  | nullByte
  /-- Links lead in a circle. -/
  | circle (path : String)
  /-- A text is nested too deeply. -/
  | tooDeep
  deriving DecidableEq, Repr

namespace SystemFault

def kind : SystemFault → String
  | .refused answer _ => answer.kind
  | .nullByte => "ValueError"
  | .circle _ => "RuntimeError"
  | .tooDeep => "RecursionError"

def message : SystemFault → String
  | .refused answer path => s!"[Errno {answer.number}] {answer.wording}: " ++ Text.quoted path
  | .nullByte => "embedded null byte"
  | .circle path => "Symlink loop from " ++ Text.quoted path
  | .tooDeep => "maximum recursion depth exceeded"

end SystemFault

inductive ImportFault where
  | noModule (name : String)
  | notPackage (name parent : String)
  | noMember (module member : String)
  deriving DecidableEq, Repr

namespace ImportFault

def message : ImportFault → String
  | .noModule name => "No module named " ++ Text.quoted name
  | .notPackage name parent =>
    "No module named " ++ Text.quoted name ++ "; " ++ Text.quoted parent ++ " is not a package"
  | .noMember module member => s!"module '{module}' has no attribute '{member}'"

def kind : ImportFault → String
  | .noMember .. => "AttributeError"
  | _ => "ModuleNotFoundError"

end ImportFault

/-- What is wrong with the settings. -/
inductive SettingsFault where
  /-- The project file is not well formed. -/
  | badToml (path message : String)
  /-- A part of the project file that must be a table is not. -/
  | notTable (part path : String)
  | invalid (report : Report)
  | unknownReporter (name : String) (available : List String)
  | unimportable (name : String) (cause : ImportFault)
  | notReporter (name : String)
  deriving Repr

def SettingsFault.message : SettingsFault → String
  | .badToml path message => s!"Invalid TOML in {path}: {message}"
  | .notTable part path => s!"[{part}] in {path} must be a table"
  | .invalid report => "Invalid tally configuration: " ++ report.text
  | .unknownReporter name available =>
    s!"Unknown reporter: {name}. Available: " ++ joinWith ", " available
  | .unimportable name cause => s!"Cannot import reporter {name}: " ++ cause.message
  | .notReporter name => s!"{name} does not implement the Reporter protocol"

/-- Something that went wrong. -/
inductive Fault where
  /-- Raised by a program with the given arguments. -/
  | raised (kind : String) (args : List Value)
  /-- Of a class that a program has defined itself. -/
  | own (kind message : String) (ordinary : Bool)
  | outOfRange (start stop length : Int)
  | zeroStep (start stop step : Int)
  | tooManyElements
  | missingArguments (function : String) (names : List String)
  | extraArguments (function : String) (takes given : Nat)
  | notInteger (type : String)
  | indexNotInteger (type : String)
  | noLength (type : String)
  | missingKey (key : Int)
  | notSubscriptable (type : String)
  | ambiguousTruth
  | noText
  | invalid (report : Report)
  /-- A record could not be written, for the given reason. -/
  | unwritable (kind message : String)
  | emptyDescription
  | notCallable (type : String)
  | bodyNeedsArgument
  | alreadyActive
  | foreignContext
  | textExpected (type : String)
  | bytesForText
  | settings (cause : SettingsFault)
  | markup (cause : MarkupFault)
  | emptyModuleName
  | relativeModule (name : String)
  | abstractReporter
  | undecodable (cause : Text.DecodeFault)
  /-- A text is no whole number. -/
  | number (cause : Number.WholeFault)
  /-- An integer has too many digits to be written out. -/
  | numberTooLong
  | system (cause : SystemFault)
  | badScript
  deriving Repr

def enumerate : List String → String
  | [] => ""
  | [a] => s!"'{a}'"
  | [a, b] => s!"'{a}' and '{b}'"
  | names =>
    joinWith ", " (names.dropLast.map fun a => s!"'{a}'") ++ ", and '"
      ++ names.getLast?.getD "" ++ "'"

def missingMessage (function : String) (names : List String) : String :=
  let n := names.length
  s!"{function}() missing {n} required positional argument" ++ (if n = 1 then "" else "s")
    ++ ": " ++ enumerate names

def decodeMessage (f : Text.DecodeFault) : String :=
  let cause := match f.cause with
    | .startByte => "invalid start byte"
    | .continuationByte => "invalid continuation byte"
    | .endOfData => "unexpected end of data"
  "'utf-8' codec can't decode "
    ++ (if f.first = f.last then
          s!"byte 0x{String.ofList (Text.hex 2 f.value.toNat)} in position {f.first}"
        else s!"bytes in position {f.first}-{f.last}")
    ++ ": " ++ cause

def numberMessage : Number.WholeFault → String
  | .notNumber text =>
    "invalid literal for int() with base 10: "
      ++ String.ofList ((Text.quoted text).toList.take 200)
  | .tooLong digits =>
    s!"Exceeds the limit (4300 digits) for integer string conversion: value has {digits} digits"
      ++ "; use sys.set_int_max_str_digits() to increase the limit"

namespace MarkupFault

def kind : MarkupFault → String
  | .color _ => "ValueError"
  | _ => "MarkupError"

def message : MarkupFault → String
  | .unmatched tag position =>
    s!"closing tag '{tag}' at position {position} doesn't match any open tag"
  | .nothingOpen position => s!"closing tag '[/]' at position {position} has nothing to close"
  | .handler wording => wording
  | .color cause => numberMessage cause

end MarkupFault

def sliceMessage (start stop length : String) : String :=
  s!"Invalid slice indices: [{start}:{stop}] for sequence of length {length}"

def stepMessage (start stop step : String) : String :=
  s!"Range step must be nonzero: range({start}, {stop}, {step})"

namespace Fault

def kind : Fault → String
  | .raised kind _ | .own kind .. => kind
  | .outOfRange .. => "OutOfRangeError"
  | .zeroStep .. => "InvalidStepError"
  | .tooManyElements => "OverflowError"
  | .missingArguments .. | .extraArguments .. | .notInteger _ | .indexNotInteger _ | .noLength _
  | .notSubscriptable _ | .notCallable _ | .bodyNeedsArgument | .textExpected _ | .bytesForText
  | .relativeModule _ | .abstractReporter => "TypeError"
  | .missingKey _ => "KeyError"
  | .ambiguousTruth | .emptyDescription | .foreignContext | .emptyModuleName
  | .number _ | .numberTooLong => "ValueError"
  | .noText | .alreadyActive => "RuntimeError"
  | .invalid _ => "ValidationError"
  | .unwritable .. => "PydanticSerializationError"
  | .settings _ => "ConfigError"
  | .markup cause => cause.kind
  | .undecodable _ => "UnicodeDecodeError"
  | .system cause => cause.kind
  | .badScript => "SyntaxError"

def message : Fault → String
  | .raised kind args =>
    match kind, args with
    | "KeyError", [key] => if key.writable then key.shown else Value.displayArgs [key]
    | _, args => Value.displayArgs args
  | .own _ message _ => message
  | .outOfRange start stop length => sliceMessage (toString start) (toString stop) (toString length)
  | .zeroStep start stop step => stepMessage (toString start) (toString stop) (toString step)
  | .tooManyElements => "Python int too large to convert to C ssize_t"
  | .missingArguments function names => missingMessage function names
  | .extraArguments function takes given =>
    s!"{function}() takes {takes} positional arguments but {given} were given"
  | .notInteger type => s!"'{type}' object cannot be interpreted as an integer"
  | .indexNotInteger type => s!"__index__ returned non-int (type {type})"
  | .noLength type => s!"object of type '{type}' has no len()"
  | .missingKey key => toString key
  | .notSubscriptable type => s!"'{type}' object is not subscriptable"
  | .ambiguousTruth => "truth value is ambiguous"
  | .noText => "no text"
  | .invalid report => report.text
  | .unwritable kind message =>
    "Error serializing to JSON: PydanticSerializationError: "
      ++ s!"Error calling function `_truncate`: {kind}: {message}"
  | .emptyDescription => "Test description must be non-empty"
  | .notCallable type => s!"Test body must be callable, got {type}"
  | .bodyNeedsArgument =>
    "Session.do_run_test.<locals>.<lambda>() missing 1 required positional argument: 'x'"
  | .alreadyActive => "Tally is already active; use a new Tally to nest"
  | .foreignContext => "the tally was entered in a different Context"
  | .textExpected type => s!"expected string or bytes-like object, got '{type}'"
  | .bytesForText => "cannot use a string pattern on a bytes-like object"
  | .settings cause => cause.message
  | .markup cause => cause.message
  | .emptyModuleName => "Empty module name"
  | .relativeModule name =>
    "the 'package' argument is required to perform a relative import for " ++ Text.quoted name
  | .abstractReporter => "Protocols cannot be instantiated"
  | .undecodable cause => decodeMessage cause
  | .number cause => numberMessage cause
  | .numberTooLong =>
    "Exceeds the limit (4300 digits) for integer string conversion"
      ++ "; use sys.set_int_max_str_digits() to increase the limit"
  | .system cause => cause.message
  | .badScript => "invalid syntax"

/-- Whether a fault is an ordinary one: the others mean that the program is to end. -/
def isOrdinary : Fault → Bool
  | .raised kind _ =>
    !(["BaseException", "KeyboardInterrupt", "GeneratorExit", "SystemExit",
      "BaseExceptionGroup"].contains kind)
  | .own _ _ ordinary => ordinary
  | _ => true

def exitCode? : Fault → Option Value
  | .raised "SystemExit" args =>
    some (match args with
      | [] => .null
      | [v] => v
      | vs => .tuple vs)
  | _ => none

/-- The class of a fault with the module that defines it, where that is not the language's own. -/
def qualifiedKind (f : Fault) : String :=
  match f.kind with
  | "OutOfRangeError" => "tally.errors.OutOfRangeError"
  | "InvalidStepError" => "tally.errors.InvalidStepError"
  | "SequenceError" => "tally.errors.SequenceError"
  | "ConfigError" => "tally.errors.ConfigError"
  | "ValidationError" => "pydantic_core._pydantic_core.ValidationError"
  | "PydanticSerializationError" => "pydantic_core._pydantic_core.PydanticSerializationError"
  | "MarkupError" => "rich.errors.MarkupError"
  | kind => kind

end Fault

/-- A fault as it is shown: class, wording and the data it carries by name. -/
structure FaultView where
  kind : String
  message : String
  data : List (String × Value) := []
  deriving Repr

def Fault.describe (f : Fault) : FaultView :=
  let data : List (String × Value) :=
    match f with
    | .outOfRange start stop length =>
      [("start", .int start), ("end", .int stop), ("length", .int length)]
    | .zeroStep start stop step => [("start", .int start), ("end", .int stop), ("step", .int step)]
    | f => (f.exitCode?.map fun code => [("code", code)]).getD []
  { kind := f.kind, message := f.message, data }

/-- A raised fault: the fault itself, and the one that was being handled when it arose. -/
inductive Raised where
  | alone (fault : Fault)
  /-- Arose while another was being handled. -/
  | during (earlier : Raised) (fault : Fault)
  /-- Arose as a consequence of another, shown as class and wording. -/
  | because (kind message : String) (fault : Fault)
  deriving Repr

namespace Raised

def fault : Raised → Fault
  | .alone f => f
  | .during _ f => f
  | .because _ _ f => f

def lastLine (kind message : String) : String :=
  if message = "" then kind ++ "\n" else kind ++ ": " ++ message ++ "\n"

def trace : Raised → String
  | .alone f => head ++ lastLine f.qualifiedKind f.message
  | .during earlier f =>
    earlier.trace ++ "\nDuring handling of the above exception, another exception occurred:\n\n"
      ++ head ++ lastLine f.qualifiedKind f.message
  | .because kind message f =>
    head ++ lastLine kind message
      ++ "\nThe above exception was the direct cause of the following exception:\n\n"
      ++ head ++ lastLine f.qualifiedKind f.message
where
  /-- The first line of a trace. -/
  head : String := "Traceback (most recent call last):\n"

end Raised

/-! ## Values that may refuse -/

namespace Value

def display (v : Value) : Except Fault String :=
  if v.writable then
    match v.display? with
    | some s => .ok s
    | none => .error .noText
  else .error .numberTooLong

def decideTruth (v : Value) : Except Fault Bool :=
  match v.truth with
  | .holds b => .ok b
  | .ambiguous => .error .ambiguousTruth

def toIndex : Value → Except Fault Int
  | .int n => .ok n
  | .bool b => .ok (if b then 1 else 0)
  | .index given =>
    match given with
    | .int n => .ok n
    | .bool b => .ok (if b then 1 else 0)
    | v => .error (.indexNotInteger v.typeName)
  | v => .error (.notInteger v.typeName)

end Value

end InlineCheck
