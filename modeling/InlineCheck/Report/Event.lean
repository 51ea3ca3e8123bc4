import InlineCheck.Log
import InlineCheck.Session.Tally

/-! # Events

What can be observed of a run, in the order of occurrence.

* `Call` — what a reporter is told.
* `Reply` — what a step answers.
* `Event` — output, log records, answers and recorded calls.
-/

namespace InlineCheck

/-- Where text is written: the program's two streams, or a reporter's own two. -/
inductive Stream where
  | out
  | err
  | ownOut
  | ownErr
  deriving DecidableEq, Repr

inductive Method where
  | start
  | assertion
  | complete
  | summary
  deriving DecidableEq, Repr

def Method.name : Method → String
  | .start => "on_test_start"
  | .assertion => "on_assertion"
  | .complete => "on_test_complete"
  | .summary => "on_summary"

/-- What a reporter is told: a block begins, a condition was checked, a block is done, or counting
is finished. -/
inductive Call where
  | start (description : Value)
  | assertion (result : Assertion)
  | complete (block : Block)
  | summary (tally : Tally)
  deriving Repr

def Call.method : Call → Method
  | .start _ => .start
  | .assertion _ => .assertion
  | .complete _ => .complete
  | .summary _ => .summary

structure Surroundings where
  tallies : List String
  block : Option Value
  collected : Option Nat
  reporter : String
  deriving Repr

inductive Reply where
  | nothing
  | entered
  | assertion (result : Assertion)
  | tally (t : Tally)
  | failure (f : FaultView)
  | surroundings (s : Surroundings)
  | values (vs : List Value)
  | texts (ts : List String)
  deriving Repr

/-- Something that can be observed. -/
inductive Event where
  | wrote (stream : Stream) (text : String)
  | logged (record : LogRecord)
  | finished (step : String) (reply : Reply)
  | called (call : Call)
  | labelled (text : String)
  deriving Repr

namespace Event

/-- Neighbouring writes to one stream as one, without empty ones. -/
def join : List Event → List Event
  | [] => []
  | .wrote stream text :: es =>
    if text = "" then join es
    else
      match join es with
      | .wrote stream' text' :: rest =>
        if stream = stream' then .wrote stream (text ++ text') :: rest
        else .wrote stream text :: .wrote stream' text' :: rest
      | rest => .wrote stream text :: rest
  | e :: es => e :: join es

end Event

end InlineCheck
