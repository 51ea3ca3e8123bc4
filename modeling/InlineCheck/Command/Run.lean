import InlineCheck.Command.Demo
import InlineCheck.Command.Script
import InlineCheck.CommandLine.Help
import InlineCheck.Settings.Load

/-! # Running a command

What a command line does.

* `Invocation` — what a command is started with.
* `Workplace` — the same where the sizes of the screen can be read.
* `Ending` — how a command ends.
* `Invocation.run` — what a command line does, in events, and how it ends.
-/

namespace InlineCheck

open CommandLine

structure Invocation where
  files : FileTree := {}
  place : Place := []
  environment : EnvFile.Variables := []
  /-- How many columns the terminal has that one of its streams is on. -/
  terminal : Option Nat := none
  /-- Whether what it writes is shown there. -/
  isShown : Bool := false
  /-- The control codes that the terminal takes. -/
  palette : Console.Palette := .basic
  lexicon : Console.Lexicon := {}
  catalog : Catalog := .standard
  interpret : Interpreter := .refusing
  /-- How the time is written in log lines. -/
  stamp : String := ""

namespace Invocation

def value? (i : Invocation) (name : String) : Option String :=
  (i.environment.find? name).join

/-- A size that the environment gives; what is not made of digits gives none. -/
def readSize (i : Invocation) (name : String) : Except Number.WholeFault (Option Nat) :=
  match i.value? name with
  | none => .ok none
  | some text =>
    let cs := text.toList
    if cs.isEmpty || !cs.all Text.isDigit then .ok none else (Number.readWhole cs).map some

/-- Every console reads its sizes when it is made. -/
def readSizes (i : Invocation) : Except Number.WholeFault Unit := do
  let _ ← i.readSize "COLUMNS"
  let _ ← i.readSize "LINES"

end Invocation

/-- What a command runs with. -/
structure Workplace extends Invocation where
  readable : toInvocation.readSizes = .ok () := by rfl

/-- How a command ends: with a code that it returns, with a code that ends the program, or with a
fault. -/
inductive Ending where
  | returned (code : Value)
  | exited (code : Nat)
  | failed (fault : Raised)
  deriving Repr

structure Outcome where
  ending : Ending
  events : List Event := []
  deriving Repr

namespace Outcome

def after (es : List Event) (o : Outcome) : Outcome :=
  { o with events := es ++ o.events }

end Outcome

def leastLevel (verbosity : Int) : Level :=
  if 2 ≤ verbosity then .debug else if verbosity = 1 then .info else .warning

/-- Log records as they are shown before a level is chosen: warnings, by their message alone. -/
def earlyEvents (rs : List LogRecord) : List Event :=
  rs.flatMap fun r =>
    if Level.warning.rank ≤ r.level.rank then [.wrote .err (r.message ++ "\n")] else []

structure Plan where
  verbosity : Int
  summary : Bool
  reporterName : String
  deriving DecidableEq, Repr

/-- The plan of flags and settings: flags add to the verbosity, choose the reporter and can drop the
summary. -/
def Plan.make (settings : Settings) (flags : Flags) : Plan where
  verbosity := settings.verbosity + flags.verbose - flags.quiet
  summary := settings.summary && !flags.noSummary
  reporterName :=
    match flags.reporter with
    | some name => if name = "" then settings.reporter else name
    | none => settings.reporter

/-- A written path without what means nothing in it: empty names, and single points. Two slashes at
the beginning are kept, more are one. -/
def tidyPath (path : String) : String :=
  let names := joinWith "/" (pathNames path)
  let slashes := (path.toList.takeWhile (· == '/')).length
  let root := if slashes = 0 then "" else if slashes = 2 then "//" else "/"
  if root = "" && names = "" then "." else root ++ names

namespace Workplace

/-! ## Screens -/

def size? (w : Workplace) (name : String) : Option Nat :=
  (w.readSize name).toOption.join

def isTerminal (w : Workplace) : Bool :=
  match w.value? "TTY_COMPATIBLE" with
  | some "0" => false
  | some "1" => true
  | _ =>
    match w.value? "FORCE_COLOR" with
    | some text => text != ""
    | none => w.isShown

def isDumb (w : Workplace) : Bool :=
  w.isTerminal && ["dumb", "unknown"].contains (Console.lowered ((w.value? "TERM").getD ""))

/-- The screen that messages and reports are written on. -/
def screen (w : Workplace) : Screen where
  width :=
    -- a dumb terminal has 80 columns unless both sizes are given
    if w.isDumb && !((w.size? "COLUMNS").isSome && (w.size? "LINES").isSome) then 80
    else (w.size? "COLUMNS").getD ((w.terminal.filter (0 < ·)).getD 80)
  palette := if w.isTerminal && !w.isDumb then w.palette else .colorless
  lexicon := w.lexicon

def columns (w : Workplace) : Nat :=
  let given := ((w.value? "COLUMNS").bind fun text => Number.readInt? text.toList).filter (0 < ·)
  match given with
  | some n => n.toNat
  | none => ((w.terminal.filter fun n => w.isShown && 0 < n)).getD 80

/-! ## Outcomes -/

def complain (w : Workplace) (message : String) : Outcome :=
  match w.screen.print ("[red]" ++ message ++ "[/red]") with
  | .ok text => { ending := .returned (.int 2), events := [.wrote .err text] }
  | .error f => { ending := .failed (.alone f) }

/-- Ends with a fault: one of the settings is told, every other one leaves the command. -/
def giveUp (w : Workplace) (f : Fault) : Outcome :=
  match f with
  | .settings cause => w.complain cause.message
  | f => { ending := .failed (raise f) }

def setting (w : Workplace) (plan : Plan) (arguments : List String) : Setting where
  screen := w.screen
  catalog := w.catalog
  logging := .printed (leastLevel plan.verbosity) w.stamp
  arguments := arguments
  interpret := w.interpret

def lookFor (w : Workplace) (path : String) : Except SystemFault (Option File) :=
  if isAbsolute path then
    if w.files.base = "" then w.files.open? [] (pathNames path) path else .ok none
  else w.files.open? w.place (pathNames path) path

def script? (w : Workplace) (path : String) : Option File :=
  (w.lookFor path).toOption.join

/-- The code that a request to end the program stands for: none and zero are no code, a whole number
is itself, and anything else is one. -/
def requestedCode : Value → Option Value
  | .null => none
  | .int n => if n = 0 then none else some (.int n)
  | .bool b => if b then some (.bool true) else none
  | v => if v.same (.int 0) then none else some (.int 1)

/-- The end of a program, after the summary if one is wanted. `code` is the one that the program
asked for. -/
def conclude (plan : Plan) (r : Reporter) (code : Option Value) (s : State) : Outcome :=
  -- the command's own tally, whatever the program has entered since
  let t := s.tallies.get .command
  let (told, s) := if plan.summary then s.call r (.summary t) else (.ok (), s)
  match told with
  | .error e => { ending := .failed e, events := s.events }
  | .ok () => { ending := .returned (code.getD (.int t.exitCode)), events := s.events }

def counted (r : Reporter) (program : State → Except Raised Unit × State) :
    Except Raised Unit × State :=
  runReporter r (runTally .command program) {}

def runDemos (w : Workplace) (plan : Plan) (r : Reporter) (demos : List Demo) : Outcome :=
  let env := w.setting plan []
  match counted r (Demo.inTurn (demos.map (Demo.run env))) with
  | (.ok (), s) => conclude plan r none s
  | (.error e, s) => { ending := .failed e, events := s.events }

def scriptRecord (path : String) (e : Raised) : LogRecord :=
  ⟨"tally", .error,
    s!"Script {path} raised\n" ++ String.ofList (e.trace.toList.dropLast)⟩

/-- Runs a script. A request to end the program ends the script; a fault is logged, unless it means
that the program is to end. -/
def runScript (w : Workplace) (plan : Plan) (r : Reporter) (path : String)
    (arguments : List String) : Outcome :=
  let path := tidyPath path
  match w.lookFor path with
  | .error cause => { ending := .failed (.alone (.system cause)) }
  | .ok none => w.complain ("Script not found: " ++ path)
  | .ok (some file) =>
    let env := w.setting plan (path :: arguments)
    match counted r (Script.run env file) with
    | (.ok (), s) => conclude plan r none s
    | (.error e, s) =>
      match e.fault.exitCode? with
      | some code => conclude plan r (requestedCode code) s
      | none =>
        if e.fault.isOrdinary then
          conclude plan r (some (.int 1)) (s.log env [scriptRecord path e])
        else { ending := .failed e, events := s.events }

def withReporter (w : Workplace) (plan : Plan) (program : Reporter → Outcome) : Outcome :=
  match w.catalog.resolve w.screen plan.reporterName plan.verbosity with
  | .error f => w.giveUp f
  | .ok r => program r

def carryOut (w : Workplace) (settings : Settings) : Request → Outcome
  | .overview =>
    { ending := .returned (.int 0), events := [.wrote .out (help w.columns .program)] }
  | .demo name flags =>
    let plan := Plan.make settings flags
    w.withReporter plan fun r => w.runDemos plan r (Demo.named name)
  | .run script flags arguments =>
    let plan := Plan.make settings flags
    w.withReporter plan fun r => w.runScript plan r script arguments

def explain (w : Workplace) : Stop → Outcome
  | .help f => { ending := .exited 0, events := [.wrote .out (help w.columns f)] }
  | .refused f fault =>
    { ending := .exited 2, events := [.wrote .err (refusal w.columns f fault)] }

def run (w : Workplace) (words : List String) : Outcome :=
  let loaded := Settings.load w.files w.place w.environment w.environment
  (match loaded.value with
    | .error f => w.giveUp f
    | .ok settings =>
      match Request.ofWords settings.addopts words with
      | .error stop => w.explain stop
      | .ok request => w.carryOut settings request).after (earlyEvents loaded.log)

end Workplace

/-- What a command line does; a size that cannot be read ends it at once. -/
def Invocation.run (i : Invocation) (words : List String) : Outcome :=
  match readable : i.readSizes with
  | .error cause => { ending := .failed (.alone (.number cause)) }
  | .ok () => Workplace.run { i with readable } words

end InlineCheck
