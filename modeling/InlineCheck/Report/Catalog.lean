import InlineCheck.Report.Reporter
import InlineCheck.Text.Blank

/-! # Reporters by name

A reporter is named by a short name, or by a module and a member of it.

* `Catalog` — the modules that can be imported, with what their members are.
* `Catalog.find` — what a name stands for.
* `Catalog.resolve` — the reporter of a name.
-/

namespace InlineCheck

/-- What a member of a module is. -/
inductive Member where
  /-- A class of reporters: what comes of making one for a screen and a verbosity. -/
  | reporter (make : Screen → Int → Except Fault Reporter)
  /-- The interface that reporters implement. -/
  | interface
  /-- Anything that is no reporter. -/
  | other

namespace Member

def trace : Member :=
  .reporter fun _ _ => .ok (.trace false)

def console : Member :=
  .reporter fun screen verbosity => .ok (.console screen verbosity)

end Member

structure ModuleEntry where
  name : String
  isPackage : Bool := false
  members : List (String × Member)

/-- The modules that can be imported, and the reporters with short names. -/
structure Catalog where
  modules : List ModuleEntry
  builtin : List (String × Member)

namespace Catalog

def module? (c : Catalog) (name : String) : Option ModuleEntry :=
  c.modules.find? (·.name == name)

/-- Imports the modules of a dotted path from the outermost on; `parent` is the one imported so
far. -/
def importParts (c : Catalog) (parent : Option ModuleEntry) :
    List String → Except ImportFault (Option ModuleEntry)
  | [] => .ok parent
  | part :: parts =>
    let name := match parent with
      | some m => m.name ++ "." ++ part
      | none => part
    match parent with
    | some m =>
      if m.isPackage then
        match c.module? name with
        | some entry => importParts c (some entry) parts
        | none => .error (.noModule name)
      else .error (.notPackage name m.name)
    | none =>
      match c.module? name with
      | some entry => importParts c (some entry) parts
      | none => .error (.noModule name)

def importModule (c : Catalog) (path : String) : Except ImportFault ModuleEntry :=
  match c.importParts none ((Text.splitAt '.' path.toList).map String.ofList) with
  | .ok (some m) => .ok m
  | .ok none => .error (.noModule path)
  | .error f => .error f

def commonNames : List String :=
  ["__builtins__", "__cached__", "__class__", "__delattr__", "__dict__", "__dir__", "__doc__",
    "__eq__", "__file__", "__format__", "__ge__", "__getattribute__", "__getstate__", "__gt__",
    "__hash__", "__init__", "__init_subclass__", "__le__", "__loader__", "__lt__", "__name__",
    "__ne__", "__new__", "__package__", "__reduce__", "__reduce_ex__", "__repr__", "__setattr__",
    "__sizeof__", "__spec__", "__str__", "__subclasshook__"]

/-- A member of a module; a package's own modules are members too. -/
def member (c : Catalog) (m : ModuleEntry) (name : String) : Except ImportFault Member :=
  match m.members.find? (·.1 == name) with
  | some (_, member) => .ok member
  | none =>
    if commonNames.contains name || (m.isPackage && name == "__path__")
        || (m.isPackage && name != "__main__" && (c.module? (m.name ++ "." ++ name)).isSome) then
      .ok .other
    else .error (.noMember m.name name)

/-- Splits a name into module and member: at the last colon, or else at the last point. -/
def splitName? (name : String) : Option (String × String) :=
  let cut := match Text.cutLast? ':' name.toList with
    | some r => some r
    | none => Text.cutLast? '.' name.toList
  cut.map fun (m, n) => (String.ofList m, String.ofList n)

def find (c : Catalog) (name : String) : Except Fault Member :=
  match c.builtin.find? (·.1 == name) with
  | some (_, member) => .ok member
  | none =>
    match splitName? name with
    | none => .error (.settings (.unknownReporter name ["ConsoleReporter", "TraceReporter"]))
    | some (path, member) =>
      -- these two leave as they are: only what an import says is told as a fault of the settings
      if Text.startsWith ['.'] path.toList then .error (.relativeModule path)
      else if path = "" then .error .emptyModuleName
      else
        match (do c.member (← c.importModule path) member) with
        | .ok member => .ok member
        | .error f => .error (.settings (.unimportable name f))

def resolve (c : Catalog) (screen : Screen) (name : String) (verbosity : Int) :
    Except Fault Reporter := do
  match ← c.find name with
  | .reporter make => make screen verbosity
  | .interface => throw .abstractReporter
  | .other => throw (.settings (.notReporter name))

def others (names : List String) : List (String × Member) :=
  names.map (·, .other)

def standard : Catalog where
  builtin := [("TraceReporter", .trace), ("ConsoleReporter", .console)]
  modules :=
    [{ name := "tally", isPackage := true
       members := others ["AssertionResult", "assert_check", "check", "ConfigError",
        "InvalidStepError", "OutOfRangeError", "SequenceError", "extract_slice", "generate_range",
        "Tally", "TestBlockResult", "TestStatus", "reporter_scope", "run_test", "__version__",
        "__all__"] },
      { name := "tally.__main__", members := others ["main"] },
      { name := "tally.version", members := others ["__version__"] },
      { name := "tally.errors"
        members := others ["SequenceError", "OutOfRangeError", "InvalidStepError", "ConfigError"] },
      { name := "tally.sequences"
        members := others ["annotations", "logging", "operator", "Sequence", "TypeVar",
          "InvalidStepError", "OutOfRangeError", "logger", "T", "extract_slice", "generate_range",
          "__all__"] },
      { name := "tally.config"
        members := others ["annotations", "logging", "os", "tomllib", "Mapping", "Path", "Any",
          "dotenv_values", "BaseModel", "ConfigDict", "Field", "ValidationError", "ConfigError",
          "logger", "ENV_PREFIX", "TallyConfig", "DEFAULT_CONFIG", "find_project_root",
          "load_config", "__all__"] },
      { name := "tally.demos"
        members := others ["annotations", "sys", "Callable", "check", "SequenceError",
          "extract_slice", "generate_range", "run_test", "add", "is_even", "inline_testing",
          "slices_ranges", "DEMOS", "__annotations__"] },
      { name := "tally.cli"
        members := others ["annotations", "argparse", "logging", "runpy", "sys", "Sequence", "Path",
          "Console", "TallyConfig", "load_config", "DEMOS", "ConfigError", "resolve_reporter",
          "Tally", "reporter_scope", "logger", "main", "run", "setup_logging", "__all__"]
          ++ [("Reporter", .interface)] },
      { name := "tally.assertions", isPackage := true
        members := others ["AssertionResult", "assert_check", "check", "__all__"] },
      { name := "tally.assertions.base"
        members := others ["annotations", "ast", "functools", "inspect", "linecache", "logging",
          "FrameType", "Any", "AssertionResult", "TEST_CONTEXT", "active_tallies", "get_reporter",
          "logger", "assert_check", "check"] },
      { name := "tally.assertions.result"
        members := others ["UUID", "uuid4", "BaseModel", "Field", "SerializationInfo",
          "field_serializer", "AssertionResult"] },
      { name := "tally.testing", isPackage := true
        members := others ["Tally", "TestContext", "reporter_scope", "TestBlockResult",
          "TestStatus", "run_test", "__all__"] },
      { name := "tally.testing.aggregate"
        members := others ["annotations", "threading", "ExitStack", "TYPE_CHECKING", "tally_scope",
          "TestBlockResult", "TestStatus", "Tally"] },
      { name := "tally.testing.context"
        members := others ["annotations", "contextmanager", "ContextVar", "dataclass", "field",
          "TYPE_CHECKING", "Iterator", "TEST_CONTEXT", "REPORTER_CONTEXT", "TALLY_CONTEXT",
          "TestContext", "test_context_scope", "reporter_scope", "tally_scope", "get_reporter",
          "active_tallies", "__annotations__"] },
      { name := "tally.testing.runner"
        members := others ["annotations", "logging", "time", "Callable", "dataclass", "field",
          "Enum", "TYPE_CHECKING", "Any", "TestContext", "active_tallies", "get_reporter",
          "test_context_scope", "logger", "TestStatus", "TestBlockResult", "run_test"] },
      { name := "tally.reports", isPackage := true
        members := others ["BUILTIN_REPORTERS", "reporter_class", "resolve_reporter", "__all__"]
          ++ [("Reporter", .interface), ("ConsoleReporter", .console),
            ("TraceReporter", .trace)] },
      { name := "tally.reports.base"
        members := others ["annotations", "TYPE_CHECKING", "Protocol", "runtime_checkable"]
          ++ [("Reporter", .interface)] },
      { name := "tally.reports.console"
        members := others ["annotations", "TYPE_CHECKING", "Console", "escape", "output_lock"]
          ++ [("ConsoleReporter", .console)] },
      { name := "tally.reports.registry"
        members := others ["annotations", "importlib", "inspect", "TYPE_CHECKING", "ConfigError",
          "BUILTIN_REPORTERS", "reporter_class", "resolve_reporter", "__all__", "__annotations__"]
          ++ [("ConsoleReporter", .console), ("TraceReporter", .trace)] },
      { name := "tally.reports.trace"
        members := others ["annotations", "sys", "threading", "TYPE_CHECKING", "TextIO",
          "output_lock"] ++ [("TraceReporter", .trace)] }]

end Catalog

end InlineCheck
