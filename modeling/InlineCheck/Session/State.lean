import InlineCheck.Assertion.Record
import InlineCheck.Report.Catalog

/-! # Session state

What a running program has changed so far.

* `Context` — what one thread of execution sees: active tallies, the open block, the reporter.
* `State` — the current context, all tallies, the clock, the calls and the events so far.
* `Setting` — what stays the same, an interpreter of program texts among it.
* One operation for each effect: entering and leaving a tally, recording an assertion or a block,
  and calling a reporter.
-/

namespace InlineCheck

/-- A block whose body is running, with the assertions made in it so far. -/
structure OpenBlock where
  description : Value
  results : List Assertion := []
  deriving Repr

/-- What one thread of execution sees. -/
structure Context where
  id : Nat := 0
  active : List TallyId := []
  block : Option OpenBlock := none
  reporter : Option Reporter := none
  deriving Repr

inductive Logging where
  /-- Every record is an event of its own. -/
  | recorded
  /-- Records from a level on are written as lines that begin with a time stamp. -/
  | printed (least : Level) (stamp : String)
  deriving Repr

structure State where
  context : Context := {}
  tallies : Ledger := {}
  clock : Nat := 0
  /-- How many contexts there have been. -/
  contexts : Nat := 1
  /-- What reporters have been told. -/
  calls : List Call := []
  events : List Event := []
  deriving Repr

/-- What the text of a program does, if it could be read. -/
def Interpreter : Type :=
  Logging → Except Text.DecodeFault String → State → Except Raised Unit × State

def Interpreter.refusing : Interpreter :=
  fun _ _ s => (.error (.alone .badScript), s)

/-- What does not change while a program runs. -/
structure Setting where
  screen : Screen := {}
  catalog : Catalog := .standard
  logging : Logging := .recorded
  arguments : List String := []
  interpret : Interpreter := .refusing

namespace State

/-! ## Events -/

def emit (s : State) (es : List Event) : State :=
  { s with events := s.events ++ es }

def logEvents (logging : Logging) (r : LogRecord) : List Event :=
  match logging with
  | .recorded => [.logged r]
  | .printed least stamp =>
    if least.rank ≤ r.level.rank then [.wrote .err s!"[{stamp}] {r.source}: {r.message}\n"] else []

def log (s : State) (env : Setting) (rs : List LogRecord) : State :=
  s.emit (rs.flatMap (logEvents env.logging))

/-! ## Contexts -/

def setContext (s : State) (c : Context) : State :=
  { s with context := c }

/-- Goes over to a context of its own, in which nothing is active. -/
def fork (s : State) : State :=
  { s with context := { id := s.contexts }, contexts := s.contexts + 1 }

def setBlock (s : State) (b : Option OpenBlock) : State :=
  { s with context := { s.context with block := b } }

def collected (s : State) : List Assertion :=
  (s.context.block.map (·.results)).getD []

def setReporter (s : State) (r : Option Reporter) : State :=
  { s with context := { s.context with reporter := r } }

/-! ## Reporters -/

def reporter (s : State) : Reporter :=
  s.context.reporter.getD (.trace false)

def hear (s : State) (c : Call) : State :=
  { s with calls := s.calls ++ [c] }

def call (s : State) (r : Reporter) (c : Call) : Except Raised Unit × State :=
  let response := r.respond s.calls c
  (match response.fault with
    | some f => .error (.alone f)
    | none => .ok (),
    (s.hear c).emit response.events)

/-! ## Tallies -/

/-- Makes a tally active: the tallies active so far are remembered, and it comes last. -/
def enter (s : State) (id : TallyId) : Except Raised Unit × State :=
  let t := s.tallies.get id
  if t.activation.isSome then (.error (.alone .alreadyActive), s)
  else
    let t := { t with activation := some ⟨s.context.id, s.context.active⟩ }
    (.ok (),
      { s with
        tallies := s.tallies.set id t
        context := { s.context with active := s.context.active ++ [id] } })

/-- Makes a tally inactive: the tallies that were active when it was entered are active again. It
fails in another context than the one it was entered in. -/
def leave (s : State) (id : TallyId) : Except Raised Unit × State :=
  let t := s.tallies.get id
  match t.activation with
  | none => (.ok (), s)
  | some a =>
    -- the activation is forgotten even where it cannot be undone
    let s := { s with tallies := s.tallies.set id { t with activation := none } }
    if a.context = s.context.id then
      (.ok (), { s with context := { s.context with active := a.before } })
    else (.error (.alone .foreignContext), s)

/-- Counts an assertion with every active tally, and keeps it with the open block. -/
def record (s : State) (a : Assertion) : State :=
  { s with
    context := { s.context with
      block := s.context.block.map fun b => { b with results := b.results ++ [a] } }
    tallies := s.tallies.modifyAll s.context.active (·.count a) }

def keep (s : State) (b : Block) : State :=
  { s with tallies := s.tallies.modifyAll s.context.active (·.keep b) }

/-! ## Checks -/

def blockDescription (s : State) : Except Fault (Option String) :=
  match s.context.block with
  | none => .ok none
  | some b =>
    match AssertionRecord.readOptionalText b.description with
    | .ok d => .ok d
    | .error p =>
      .error (.invalid ⟨"AssertionResult", [⟨"test_description", p, b.description⟩]⟩)

/-- The assertion that a check makes, before anything is recorded. -/
def assertionOf (s : State) (label condition : Value) : Except Fault Assertion := do
  let text ← label.display
  let passed ← condition.decideTruth
  let description ← s.blockDescription
  return { text, passed, description }

/-- Checks a condition: the assertion is recorded and then told to the reporter. -/
def check (s : State) (label condition : Value) : Except Raised Assertion × State :=
  match s.assertionOf label condition with
  | .error f => (.error (.alone f), s)
  | .ok a =>
    let s := s.record a
    match s.call s.reporter (.assertion a) with
    | (.ok (), s) => (.ok a, s)
    | (.error e, s) => (.error e, s)

/-! ## Views -/

def surroundings (s : State) : Surroundings where
  tallies := s.context.active.map TallyId.label
  block := s.context.block.map (·.description)
  collected := s.context.block.map (·.results.length)
  reporter := s.reporter.className

end State

end InlineCheck
