import Playpen.Session

/-!
# The race against the timer

A run in small moves. A worker begins the evaluation at some time, lets it make
its moves, and has an outcome when it has ended. The caller waits for the worker
or for the end of the time, and takes what comes first; if both are there it may
take either. A caller who gives up sets the flag of the evaluation, then advances
the epoch, and then returns, or returns at once if the session leaves evaluations
alone. The worker goes on meanwhile and afterwards, and whatever it comes to then
is dropped. Whoever else uses the interpreter advances its epoch at any time.

What can happen is a list of moves (`Race.run`). `Session.run` is what comes of a
race that nobody else disturbs.
-/

namespace Playpen

/-- A move of an evaluation, apart from being told to stop. -/
inductive Evaluation.Move where
  | enter
  | advance
  | poll
  | resume
deriving DecidableEq, Repr

/-- Makes a move at some epoch. -/
def Evaluation.make (epoch : Nat) (e : Evaluation) : Evaluation.Move → Evaluation
  | .enter => e.enter
  | .advance => e.advance
  | .poll => e.poll epoch
  | .resume => e.resume epoch

/-- How far the worker of a run is. -/
inductive Worker where
  /-- It has not begun. -/
  | queued
  | evaluating (e : Evaluation)
  | done (o : Outcome)

namespace Worker

/-- A move of a worker. -/
inductive Move where
  | begin
  | evaluate (m : Evaluation.Move)
  | conclude
deriving DecidableEq, Repr

/-- The worker of a request whose flag may be set already. A source that cannot be
    handed over is not evaluated. -/
def begin (s : Session) (r : Request) (epoch : Nat) (cancelled : Bool) : Worker :=
  if !Arguments.isPassable r.source then .done (.failed "" (.host Arguments.notPassable))
  else .evaluating <|
    .create epoch (s.interpreter.start (Arguments.execute s.interpreter.arguments r.source))
      (.ofInput r.input s.interpreter.capacity) cancelled

/-- What a worker is after a move, if it can make it. -/
def step (s : Session) (r : Request) (epoch : Nat) (cancelled : Bool) :
    Worker → Move → Option Worker
  | .queued, .begin => some (begin s r epoch cancelled)
  | .evaluating e, .evaluate m => some (.evaluating (e.make epoch m))
  | .evaluating e, .conclude =>
    e.ending?.map fun ending => .done (.ofEnding r.timeout ending e.streams)
  | _, _ => none

/-- The flag of the request is set. -/
def cancel : Worker → Worker
  | .evaluating e => .evaluating e.cancel
  | w => w

end Worker

/-- How far the caller of a run is. -/
inductive Caller where
  /-- It waits for the worker and for the end of the time. -/
  | waiting
  /-- It has given up and is to set the flag. -/
  | expired
  /-- It has set the flag and is to advance the epoch. -/
  | cancelled
  | returned (o : Outcome)

/-- A run on its way. -/
structure Race where
  /-- The epoch of the interpreter. -/
  epoch : Nat
  /-- Nobody works for a source that is blank. -/
  worker? : Option Worker
  /-- The flag that the caller shares with the evaluation. -/
  cancelled : Bool
  /-- The time is over. -/
  rung : Bool
  caller : Caller

namespace Race

/-- Something that happens. -/
inductive Move where
  | worker (m : Worker.Move)
  /-- The time is over. -/
  | ring
  /-- The caller takes what the worker has come to. -/
  | take
  /-- The caller gives up, as the time is over. -/
  | giveUp
  /-- The caller sets the flag. -/
  | cancel
  /-- The caller advances the epoch and returns. -/
  | wake
  /-- Somebody else advances the epoch. -/
  | tick
deriving DecidableEq, Repr

/-- A run that begins at some epoch. -/
def start (r : Request) (epoch : Nat) : Race :=
  if Text.isBlank r.source.toList then
    ⟨epoch, none, false, false, .returned (.success "")⟩
  else ⟨epoch, some .queued, false, false, .waiting⟩

/-- What happens in a move, if it can be made. -/
def step (s : Session) (r : Request) (x : Race) : Move → Option Race
  | .worker m =>
    (x.worker?.bind fun w => w.step s r x.epoch x.cancelled m).map fun w =>
      { x with worker? := some w }
  | .ring => some { x with rung := true }
  | .take =>
    match x.caller, x.worker? with
    | .waiting, some (.done o) => some { x with caller := .returned o }
    | _, _ => none
  | .giveUp =>
    match x.caller, x.rung with
    | .waiting, true =>
      some { x with
        caller := if s.interruptOnTimeout then .expired else .returned (.timedOut r.timeout) }
    | _, _ => none
  | .cancel =>
    match x.caller with
    | .expired =>
      some { x with caller := .cancelled, cancelled := true, worker? := x.worker?.map .cancel }
    | _ => none
  | .wake =>
    match x.caller with
    | .cancelled =>
      some { x with caller := .returned (.timedOut r.timeout), epoch := x.epoch + 1 }
    | _ => none
  | .tick => some { x with epoch := x.epoch + 1 }

/-- What happens in moves, one after another. -/
def run (s : Session) (r : Request) (x : Race) (moves : List Move) : Option Race :=
  moves.foldlM (step s r) x

end Race

end Playpen
