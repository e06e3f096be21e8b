import Playpen.Arguments
import Playpen.Outcome

/-!
# Sessions

Running a program within a limit of time. The evaluation and a timer race each
other, and the run comes to what the evaluation ended with, or to a timeout if
the timer was first. A run that is given up has its evaluation stopped, unless
the session is set to leave it alone. A blank source is not run at all.
-/

namespace Playpen

/-- A program to run. -/
structure Request where
  source : String
  input : Input := .none
  /-- How long it may take. -/
  timeout : Duration := Settings.default.defaultTimeout
deriving DecidableEq

/-- Runs programs on an interpreter. -/
structure Session where
  interpreter : Interpreter
  /-- Runs that are given up are stopped. -/
  interruptOnTimeout : Bool := true

namespace Session

/-- The evaluation of a request before anything has happened. -/
def prepare (s : Session) (r : Request) : Evaluation :=
  .create 0 (s.interpreter.start (Arguments.execute s.interpreter.arguments r.source))
    (.ofInput r.input s.interpreter.capacity) false

/-- What a request comes to whose evaluation has `limit?` of time, or all the
    time it takes. It comes to nothing if the evaluation does not end by then. -/
def evaluate (s : Session) (limit? : Option Duration) (r : Request) : Option Outcome :=
  if !Arguments.isPassable r.source then some (.failed "" (.host Arguments.notPassable))
  else
    let e := (s.prepare r).runWithin limit?
    e.ending?.map fun ending => .ofEnding r.timeout ending e.streams

/-- The evaluation of a request that is given up when its time is over. -/
def abandoned (s : Session) (r : Request) : Evaluation :=
  let e := (s.prepare r).runWithin (some r.timeout)
  if s.interruptOnTimeout then e.stop 0 else e

/-- Runs a program. -/
def run (s : Session) (r : Request) : Outcome :=
  if Text.isBlank r.source.toList then .success ""
  else (s.evaluate (some r.timeout) r).getD (.timedOut r.timeout)

end Session

end Playpen
