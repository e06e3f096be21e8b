import Playpen.Cancellation
import Playpen.Race
import Playpen.SyntaxCheck

/-!
# All that goes on on one interpreter

Any number of runs and checks use an interpreter at the same time. What they share
is its epoch: a run that is given up sets its flag and then advances the epoch, and
all evaluations look up. Each use has a flag of its own. One copy of it stays with
whoever waits, and another goes to the evaluation; nobody else is given one.

What can happen is a list of moves (`Engine.run`). A run is a race (`Race`), whose
caller and worker find the epoch and the flag as they are when they move. A check is
waited for as long as it takes.
-/

namespace Playpen

/-- A worker that finds its flag so. -/
def Worker.withFlag (cancelled : Bool) : Worker → Worker
  | .evaluating e => .evaluating { e with cancelled }
  | w => w

/-- What an interpreter is used for. -/
inductive Activity where
  /-- A program is run, and interrupted if it is given up and `interrupt` is set. -/
  | run (interrupt : Bool) (r : Request) (x : Race)
  /-- A source is checked. It has no evaluation at first. -/
  | check (source : String) (e? : Option Evaluation)

namespace Activity

/-- Something that happens in an activity. -/
inductive Move where
  /-- In the race that a run is. -/
  | race (m : Race.Move)
  /-- A check begins its evaluation. -/
  | begin
  /-- The evaluation of a check makes a move. -/
  | evaluate (m : Evaluation.Move)
deriving DecidableEq, Repr

/-- The evaluation that is under way, or has ended and was not judged yet. -/
def evaluation? : Activity → Option Evaluation
  | .run _ _ x =>
    match x.worker? with
    | some (.evaluating e) => some e
    | _ => none
  | .check _ e? => e?

/-- The activity at that epoch, when whoever waits finds the flag to be `held` and
    the evaluation finds it to be `lent`. -/
def observe (epoch : Nat) (held lent : Bool) : Activity → Activity
  | .run interrupt r x =>
    .run interrupt r
      { x with epoch, cancelled := held, worker? := x.worker?.map (Worker.withFlag lent) }
  | .check source e? => .check source (e?.map fun e => { e with cancelled := lent })

end Activity

/-- An activity and its flag. -/
structure Engine.Use where
  /-- The copy of the flag that stays with whoever waits. -/
  held : Nat
  /-- The copy that the evaluation reads. -/
  lent : Nat
  activity : Activity

/-- An interpreter with all that goes on on it. -/
structure Engine where
  interpreter : Interpreter
  epoch : Nat
  flags : FlagPool
  /-- All that it is used for, in the order in which that began. -/
  uses : List Engine.Use

namespace Engine

/-- Something that happens. -/
inductive Move where
  /-- A session begins to run a request. -/
  | run (interrupt : Bool) (r : Request)
  /-- Someone begins to check a source. -/
  | check (source : String)
  /-- An activity goes on. -/
  | proceed (n : Nat) (m : Activity.Move)

/-- An interpreter that nobody uses. -/
def start (i : Interpreter) (epoch : Nat) : Engine := ⟨i, epoch, ⟨[], []⟩, []⟩

/-- An activity begins, with a new flag and a copy of it to be lent. -/
def accept (x : Engine) (a : Activity) : Engine :=
  let copy := x.flags.copies.length
  { x with flags := x.flags.fresh.share copy, uses := x.uses ++ [⟨copy, copy + 1, a⟩] }

/-- An activity as it stands now: what it has seen of the epoch and of its flag
    may be old. -/
def observe (x : Engine) (u : Use) : Activity :=
  u.activity.observe x.epoch (x.flags.isCancelled u.held) (x.flags.isCancelled u.lent)

/-- What happens in a move of activity `n`, if it can be made. -/
def proceed (x : Engine) (n : Nat) (u : Use) (m : Activity.Move) : Option Engine :=
  match x.observe u, m with
  | .run interrupt r race, .race m =>
    (race.step ⟨x.interpreter, interrupt⟩ r m).map fun race =>
      { x with
        epoch := race.epoch
        -- The caller sets the flag through its own copy.
        flags := if m = .cancel then x.flags.cancel u.held else x.flags
        uses := x.uses.set n { u with activity := .run interrupt r race } }
  | .check source none, .begin =>
    if Text.isBlank source.toList || !Arguments.isPassable source then none
    else
      let e := { SyntaxCheck.prepare x.interpreter source with deadline := x.epoch + 1 }
      some { x with uses := x.uses.set n { u with activity := .check source (some e) } }
  | .check source (some e), .evaluate m =>
    let e := e.make x.epoch m
    some { x with uses := x.uses.set n { u with activity := .check source (some e) } }
  | _, _ => none

/-- What happens in a move, if it can be made. -/
def step (x : Engine) : Move → Option Engine
  | .run interrupt r => some (x.accept (.run interrupt r (.start r x.epoch)))
  | .check source => some (x.accept (.check source none))
  | .proceed n m => x.uses[n]?.bind fun u => x.proceed n u m

/-- What happens in moves, one after another. -/
def run (x : Engine) (moves : List Move) : Option Engine := moves.foldlM step x

end Engine

end Playpen
