import InlineCheck.Sequence.Slice
import InlineCheck.Session.State

/-! # Steps

The steps that a program is made of, and what each does to the session.

* `Step` — the steps; bodies are lists of steps.
* `Step.run` and `runAll` — the effect of a step and of steps in a row. A fault ends the steps it
  leaves, and every scope it leaves puts its surroundings back.
-/

namespace InlineCheck

inductive ReporterChoice where
  | given (r : Reporter)
  | named (name : String) (verbosity : Int)
  deriving Repr

inductive Step where
  /-- Checks a condition under a label. -/
  | assertion (label condition : Value)
  /-- Checks a condition whose label is given. -/
  | check (condition label : Value)
  /-- Runs a body as a test block. -/
  | runTest (description : Value) (body : List Step)
  /-- Tries to run something that is no body. -/
  | runValue (description body : Value)
  /-- Runs a body that cannot be called without an argument. -/
  | runDemanding (description : Value)
  | fail (kind : String) (args : List Value)
  /-- Asks for the end of the program. -/
  | quit (args : List Value)
  /-- Runs steps and catches whatever leaves them. -/
  | attempt (steps : List Step)
  /-- Runs steps while a tally is active. -/
  | tally (name : String) (steps : List Step)
  | enter (name : String)
  | leave (name : String)
  | state (name : String)
  | surroundings
  | summary (name : String)
  /-- Sets the counters of a tally. -/
  | assign (name : String) (passed failed : Int)
  /-- Keeps a block with a tally. -/
  | keep (name : String) (block : Block)
  /-- Tells the reporter something directly. -/
  | tell (call : Call)
  /-- Runs steps under a reporter. -/
  | report (choice : ReporterChoice) (steps : List Step)
  /-- Runs steps in a context of their own and catches whatever leaves them. -/
  | thread (steps : List Step)
  | advance (ticks : Nat)
  | print (text : Value) (toErr : Bool)
  | slice (source start stop : Value)
  | range (start stop step : Option Value)
  | arguments
  deriving Repr, Inhabited

def Step.name : Step → String
  | .assertion .. => "assert"
  | .check .. => "check"
  | .runTest .. | .runValue .. | .runDemanding .. => "run_test"
  | .fail .. => "raise"
  | .quit .. => "sysexit"
  | .attempt .. => "try"
  | .tally .. => "tally"
  | .enter .. => "enter"
  | .leave .. => "exit"
  | .state .. => "state"
  | .surroundings => "active"
  | .summary .. => "summary"
  | .assign .. => "set"
  | .keep .. => "record"
  | .tell .. => "emit"
  | .report .. => "reporter"
  | .thread .. => "thread"
  | .advance .. => "advance"
  | .print .. => "print"
  | .slice .. => "slice"
  | .range .. => "range"
  | .arguments => "argv"

/-- The fault of a request to end the program: a tuple stands for its elements, and nothing for
no argument. -/
def quitFault : List Value → Fault
  | [] | [.null] => .raised "SystemExit" []
  | [.tuple xs] => .raised "SystemExit" xs
  | [v] => .raised "SystemExit" [v]
  | vs => .raised "TypeError" [.text s!"exit expected at most 1 argument, got {vs.length}"]

/-- A fault as raised: an import that failed is the cause of the settings fault that names it. -/
def raise (f : Fault) : Raised :=
  match f with
  | .settings (.unimportable name cause) =>
    .because cause.kind cause.message (.settings (.unimportable name cause))
  | f => .alone f

def raiseDuring (earlier : Except Raised Unit) (later : Raised) : Raised :=
  match earlier with
  | .ok () => later
  | .error e => .during e later.fault

def caught : Except Raised Unit → Reply
  | .ok () => .nothing
  | .error e => .failure e.fault.describe

def ReporterChoice.resolve (env : Setting) : ReporterChoice → Except Fault Reporter
  | .given r => .ok r
  | .named name verbosity => env.catalog.resolve env.screen name verbosity

def checkDescription (description : Value) : Except Fault Unit := do
  if ← description.decideTruth then return () else throw .emptyDescription

def faultOf : Except Raised Unit → Option Fault
  | .ok () => none
  | .error e => some e.fault

/-- The block of a body that began at a time and came to an outcome in a state. -/
def Block.ofBody (description : Value) (began : Nat) (outcome : Except Raised Unit) (s : State) :
    Block where
  description := description
  status := statusOf s.collected (faultOf outcome)
  results := s.collected
  ticks := s.clock - began
  fault := faultOf outcome

/-- What is logged when a block begins; a description that cannot be written out leaves no
record. -/
def startRecords (description : Value) : List LogRecord :=
  if description.writable then
    [⟨"tally.testing.runner", .debug, "Starting test block " ++ description.shown⟩]
  else []

def State.announce (s : State) (env : Setting) (description : Value) :
    Except Raised Unit × State :=
  (s.log env (startRecords description)).call s.reporter (.start description)

def State.complete (s : State) (r : Reporter) (block : Block) (outcome : Except Raised Unit) :
    Except Raised Unit × State :=
  match (s.keep block).call r (.complete block) with
  | (.ok (), s) => (outcome, s)
  | (.error e, s) => (.error (raiseDuring outcome e), s)

/-- Runs a body as a test block. What the body does is given by `body`; the block is kept by the
tallies active after it, and told to the reporter that was in use before it. -/
def runBlock (env : Setting) (description : Value) (body : State → Except Raised Unit × State)
    (s : State) : Except Raised Unit × State :=
  match checkDescription description with
  | .error f => (.error (.alone f), s)
  | .ok () =>
    -- the body may change the reporter; its block goes to this one
    let reporter := s.reporter
    match s.announce env description with
    | (.error e, s) => (.error e, s)
    | (.ok (), s) =>
      let (outcome, after) := body (s.setBlock (some { description }))
      -- the time that the announcement took is not the block's
      (after.setBlock s.context.block).complete reporter
        (.ofBody description s.clock outcome after) outcome

def runTally (id : TallyId) (body : State → Except Raised Unit × State) (s : State) :
    Except Raised Unit × State :=
  match s.enter id with
  | (.error e, s) => (.error e, s)
  | (.ok (), s) =>
    let (outcome, s) := body s
    match s.leave id with
    | (.ok (), s) => (outcome, s)
    | (.error e, s) => (.error (raiseDuring outcome e), s)

def runReporter (r : Reporter) (body : State → Except Raised Unit × State) (s : State) :
    Except Raised Unit × State :=
  let (outcome, after) := body (s.setReporter (some r))
  (outcome, after.setReporter s.context.reporter)

def runThread (body : State → Except Raised Unit × State) (s : State) :
    Except Raised Unit × State :=
  let (outcome, after) := body s.fork
  (outcome, after.setContext s.context)

def silent (r : Except Raised Unit × State) : Except Raised Reply × State :=
  (r.1.map fun () => .nothing, r.2)

def answerLogged (env : Setting) (s : State) (r : Logged (Except Fault (List Value))) :
    Except Raised Reply × State :=
  (match r.value with
    | .ok vs => .ok (.values vs)
    | .error f => .error (.alone f),
    s.log env r.log)

mutual
/-- What a step does, and what it answers. -/
def Step.run (env : Setting) : Step → State → Except Raised Reply × State
  | .assertion label condition, s =>
    let (r, s) := s.check label condition
    (r.map .assertion, s)
  | .check condition label, s =>
    let (r, s) := s.check label condition
    (r.map .assertion, s)
  | .runTest description body, s => silent (runBlock env description (runAll env body) s)
  | .runValue description body, s =>
    (.error (.alone (match checkDescription description with
      | .error f => f
      | .ok () => .notCallable body.typeName)), s)
  | .runDemanding description, s =>
    silent (runBlock env description (fun s => (.error (.alone .bodyNeedsArgument), s)) s)
  | .fail kind args, s => (.error (.alone (.raised kind args)), s)
  | .quit args, s => (.error (.alone (quitFault args)), s)
  | .attempt steps, s =>
    let (outcome, s) := runAll env steps s
    (.ok (caught outcome), s)
  | .tally name steps, s =>
    let (outcome, s) := runTally (.named name) (runAll env steps) s
    (outcome.map fun () => .tally (s.tallies.get (.named name)), s)
  | .enter name, s =>
    let (r, s) := s.enter (.named name)
    (r.map fun () => .entered, s)
  | .leave name, s => silent (s.leave (.named name))
  | .state name, s => (.ok (.tally (s.tallies.get (.named name))), s)
  | .surroundings, s => (.ok (.surroundings s.surroundings), s)
  | .summary name, s => silent (s.call s.reporter (.summary (s.tallies.get (.named name))))
  | .assign name passed failed, s =>
    (.ok .nothing,
      { s with tallies := s.tallies.modify (.named name) ({ · with passed, failed }) })
  | .keep name block, s =>
    (.ok .nothing, { s with tallies := s.tallies.modify (.named name) (·.keep block) })
  | .tell c, s => silent (s.call s.reporter c)
  | .report choice steps, s =>
    match choice.resolve env with
    | .error f => (.error (raise f), s)
    | .ok r => silent (runReporter r (runAll env steps) s)
  | .thread steps, s =>
    let (outcome, s) := runThread (runAll env steps) s
    (.ok (caught outcome), s)
  | .advance ticks, s => (.ok .nothing, { s with clock := s.clock + ticks })
  | .print text toErr, s =>
    match text.display with
    | .error f => (.error (.alone f), s)
    | .ok t => (.ok .nothing, s.emit [.wrote (if toErr then .err else .out) (t ++ "\n")])
  | .slice source start stop, s => answerLogged env s (sliceFrom source start stop)
  | .range start stop step, s =>
    let r := Progression.generateFrom start stop step
    answerLogged env s { value := r.value.map (·.map Value.int), log := r.log }
  | .arguments, s => (.ok (.texts env.arguments), s)

/-- Runs steps in a row; each that finishes is an event with its answer. -/
def runAll (env : Setting) : List Step → State → Except Raised Unit × State
  | [], s => (.ok (), s)
  | step :: steps, s =>
    match step.run env s with
    | (.error e, s) => (.error e, s)
    | (.ok reply, s) => runAll env steps (s.emit [.finished step.name reply])
end

end InlineCheck
