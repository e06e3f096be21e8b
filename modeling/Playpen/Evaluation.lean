import Playpen.Interpreter

/-!
# Evaluations

One start of the interpreter, from its set-up to its end. All evaluations of an
interpreter share an epoch, a counter that is advanced to make them look up
from their work. Each has a flag of its own that says it is to stop, and a
deadline: when it finds that the epoch has reached the deadline it reads its
flag, and then either ends as interrupted or puts the deadline one past the
epoch of that moment. The flag is also read once at the start, and when the
program traps.

The moves an evaluation makes are small, so that those of several evaluations
and of whoever stops them can happen in any order: `enter` starts the program,
`advance` lets it act once, `poll` and `resume` are the two halves of looking
up. `runWithin` makes the moves of an evaluation that nothing disturbs for a
span of time.
-/

namespace Playpen

/-- How an evaluation ended. -/
inductive Ending where
  /-- The program ended with a status. -/
  | exited (status : Int32)
  /-- It was stopped. -/
  | interrupted
  /-- It could not be run, or trapped. -/
  | failed (why : HostFault)
deriving DecidableEq, Repr

/-- How far an evaluation has come. -/
inductive Phase where
  /-- The flag has not been read for the first time. -/
  | created (start : Except HostFault Guest.Behaviour)
  /-- The program runs. -/
  | running (rest : Guest.Behaviour)
  /-- The program looked up, and has read its flag. -/
  | polled (rest : Guest.Behaviour) (stop : Bool)
  | ended (e : Ending)

/-- An evaluation. -/
structure Evaluation where
  phase : Phase
  streams : Streams
  /-- The flag: it is to stop. -/
  cancelled : Bool
  /-- The epoch at which it looks up. -/
  deadline : Nat

/-- What a program that ends by itself makes of the evaluation. A status is
    passed on from 0 to 125 and traps otherwise; a trap counts as a stop if the
    flag is set. -/
def Ending.ofHalt (cancelled : Bool) : Guest.Halt → Ending
  | .returned => .exited 0
  | .exited status =>
    if 0 ≤ status ∧ status ≤ 125 then .exited (Int32.ofInt status)
    else if cancelled then .interrupted else .failed .trap
  | .trapped => if cancelled then .interrupted else .failed .trap

namespace Evaluation

/-- A new evaluation. -/
def create (epoch : Nat) (start : Except HostFault Guest.Behaviour) (streams : Streams)
    (cancelled : Bool) : Evaluation :=
  { phase := .created start, streams, cancelled, deadline := epoch + 1 }

/-- Reads the flag for the first time and starts the program. -/
def enter (e : Evaluation) : Evaluation :=
  match e.phase with
  | .created start =>
    if e.cancelled then { e with phase := .ended .interrupted }
    else match start with
      | .error why => { e with phase := .ended (.failed why) }
      | .ok b => { e with phase := .running b }
  | _ => e

/-- Lets the program act once. -/
def advance (e : Evaluation) : Evaluation :=
  match e.phase with
  | .running (.halt h) => { e with phase := .ended (.ofHalt e.cancelled h) }
  | .running (.write stream bs next) =>
    { e with phase := .running next, streams := e.streams.write stream bs }
  | .running (.read limit? next) =>
    let r := e.streams.read limit?
    { e with phase := .running (next r.1), streams := r.2 }
  | .running (.pause _ next) => { e with phase := .running next }
  | _ => e

/-- Looks up if the deadline has come: reads the flag. -/
def poll (epoch : Nat) (e : Evaluation) : Evaluation :=
  match e.phase with
  | .running b => if e.deadline ≤ epoch then { e with phase := .polled b e.cancelled } else e
  | _ => e

/-- Goes back to work, or ends if the flag was set. -/
def resume (epoch : Nat) (e : Evaluation) : Evaluation :=
  match e.phase with
  | .polled b stop =>
    if stop then { e with phase := .ended .interrupted }
    -- The epoch is that of now: it may have moved on since the flag was read.
    else { e with phase := .running b, deadline := epoch + 1 }
  | _ => e

/-- Sets the flag. -/
def cancel (e : Evaluation) : Evaluation := { e with cancelled := true }

/-- How it ended, if it has. -/
def ending? (e : Evaluation) : Option Ending :=
  match e.phase with
  | .ended ending => some ending
  | _ => none

/-- The moves of a program that starts with behaviour `b` until it ends, or
    comes to a point where it needs more than the time that is left: a span in
    nanoseconds, or none for all the time there is. -/
def runProgram (left? : Option Nat) (e : Evaluation) : Guest.Behaviour → Evaluation
  | .halt h => { e with phase := .ended (.ofHalt e.cancelled h) }
  | .spin => { e with phase := .running .spin }
  | .write stream bs next => runProgram left? { e with streams := e.streams.write stream bs } next
  | .read limit? next =>
    let r := e.streams.read limit?
    runProgram left? { e with streams := r.2 } (next r.1)
  | .pause d next =>
    match left? with
    | none => runProgram none e next
    | some left =>
      if d.nanos < left then runProgram (some (left - d.nanos)) e next
      else { e with phase := .running (.pause d next) }

/-- The moves of an evaluation that nothing disturbs within a span of time, or
    for as long as it takes. -/
def runWithin (limit? : Option Duration) (e : Evaluation) : Evaluation :=
  let e := e.enter
  match e.phase with
  | .running b => runProgram (limit?.map Duration.nanos) e b
  | _ => e

/-- Stops an evaluation: sets the flag, and advances the epoch so that it looks
    up. -/
def stop (epoch : Nat) (e : Evaluation) : Evaluation :=
  let epoch := epoch + 1
  (e.cancel.poll epoch).resume epoch

end Evaluation

end Playpen
