import InlineCheck.Report.ConsoleLines

/-! # Reporters

A reporter listens to what happens in a session.

* `Reporter` — what it does with each call. It may remember the calls before, write anything and
  fail in any way; it does not call back into the session.
* `Reporter.trace` and `Reporter.console` — the reporters of the library.
-/

namespace InlineCheck

/-- What a reporter does with a call. -/
structure Response where
  events : List Event := []
  fault : Option Fault := none
  deriving Repr

structure Reporter where
  className : String
  moduleName : String
  /-- The verbosity that it shows. -/
  verbosity : Value := .null
  /-- What it does with a call after the earlier calls of the session. -/
  respond : List Call → Call → Response

instance : Repr Reporter where
  reprPrec r _ := r.className

namespace Reporter

def line (stream : Stream) (text : String) : Response :=
  { events := [.wrote stream (text ++ "\n")] }

def tryLine (stream : Stream) : Except Fault String → Response
  | .ok text => line stream text
  | .error f => { fault := some f }

def onScreen (screen : Screen) (stream : Stream) (markup : Except Fault String) : Response :=
  match markup.bind screen.print with
  | .ok text => { events := [.wrote stream text] }
  | .error f => { fault := some f }

def traceRespond (own : Bool) : Call → Response
  | .start description =>
    tryLine (if own then .ownOut else .out) (description.display.map ("Running test: " ++ ·))
  | .assertion a =>
    if a.passed then line (if own then .ownOut else .out) ("Assertion passed: " ++ a.text)
    else line (if own then .ownErr else .err) ("Assertion failed: " ++ a.text)
  | .complete _ => {}
  | .summary t =>
    line (if own then .ownOut else .out)
      s!"{t.passed} passed, {t.failed} failed, {t.errors} errors in {t.blocks.length} test blocks"

def consoleRespond (screen : Screen) (verbosity : Int) : Call → Response
  | .start description => onScreen screen .out (ConsoleLines.start description)
  | .assertion a =>
    if a.passed then
      if 0 ≤ verbosity then onScreen screen .out (.ok (ConsoleLines.held a.text)) else {}
    else onScreen screen .err (.ok (ConsoleLines.broken a.text))
  | .complete b =>
    if verbosity ≤ 0 then {} else onScreen screen .out (ConsoleLines.complete b)
  | .summary t => onScreen screen .out (.ok (ConsoleLines.summary t))

/-- Plain lines, on the program's streams or on its own. -/
def trace (own : Bool) : Reporter where
  className := "TraceReporter"
  moduleName := "tally.reports.trace"
  respond _ := traceRespond own

/-- Styled lines on two consoles alike. Below zero verbosity hides what held, above zero it adds a
line for each block. -/
def console (screen : Screen) (verbosity : Int) : Reporter where
  className := "ConsoleReporter"
  moduleName := "tally.reports.console"
  verbosity := .int verbosity
  respond _ := consoleRespond screen verbosity

end Reporter

end InlineCheck
