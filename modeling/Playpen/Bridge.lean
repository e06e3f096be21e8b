import Playpen.Race

/-!
# Evaluations on the same streams

Streams can be lent to any number of evaluations, one after another or at the same
time. What one of them reads is gone for the others, and what they write goes to the
same two captured streams. An evaluation finds the streams as they are when it makes a
move; what it has seen of them before may be old. All that goes over the streams is put
down in order, with the number of the evaluation whose program asked for it.

What can happen is a list of moves (`Bridge.run`).
-/

namespace Playpen

/-- What goes over streams when a program asks for it. -/
inductive Transfer where
  /-- Bytes of the input are handed to the program. -/
  | read (bs : Bytes)
  /-- The program writes bytes to a stream. -/
  | write (stream : Nat) (bs : Bytes)
deriving DecidableEq, Repr

/-- What goes over the streams in a move of an evaluation. -/
def Evaluation.transfers (e : Evaluation) : Evaluation.Move → List Transfer
  | .advance =>
    match e.phase with
    | .running (.read limit? _) => [.read (e.streams.read limit?).1]
    | .running (.write stream bs _) => [.write stream bs]
    | _ => []
  | _ => []

/-- An evaluation that streams are lent to. -/
structure Bridge.Use where
  /-- What it is created with: its program, or why there is none. -/
  start : Except HostFault Guest.Behaviour
  evaluation : Evaluation

/-- Streams with all evaluations that they are lent to. -/
structure Bridge where
  streams : Streams
  /-- The evaluations, in the order in which they are created. -/
  uses : List Bridge.Use
  /-- All that has gone over the streams, each with the number of the evaluation. -/
  traffic : List (Nat × Transfer)

namespace Bridge

/-- Something that happens. -/
inductive Move where
  /-- An evaluation is created. Its flag may be set already. -/
  | create (epoch : Nat) (start : Except HostFault Guest.Behaviour) (cancelled : Bool)
  /-- An evaluation makes a move at some epoch. -/
  | evaluate (n : Nat) (epoch : Nat) (m : Evaluation.Move)
  /-- The flag of an evaluation is set. -/
  | cancel (n : Nat)

/-- Streams that nobody has used, with this input, of which each keeps `capacity`
    bytes. -/
def ofInput (input : Input) (capacity : Nat) : Bridge := ⟨.ofInput input capacity, [], []⟩

/-- An evaluation with the streams as they are now. -/
def observe (x : Bridge) (u : Use) : Evaluation := { u.evaluation with streams := x.streams }

/-- An evaluation is created. -/
def create (x : Bridge) (epoch : Nat) (start : Except HostFault Guest.Behaviour)
    (cancelled : Bool) : Bridge :=
  { x with uses := x.uses ++ [⟨start, .create epoch start x.streams cancelled⟩] }

/-- Evaluation `n` has become `e`, and `ts` has gone over the streams. -/
def update (x : Bridge) (n : Nat) (u : Use) (e : Evaluation) (ts : List Transfer) : Bridge :=
  { streams := e.streams
    uses := x.uses.set n { u with evaluation := e }
    traffic := x.traffic ++ ts.map (n, ·) }

/-- What happens in a move, if it can be made. -/
def step (x : Bridge) : Move → Option Bridge
  | .create epoch start cancelled => some (x.create epoch start cancelled)
  | .evaluate n epoch m => x.uses[n]?.map fun u =>
    let e := x.observe u
    x.update n u (e.make epoch m) (e.transfers m)
  | .cancel n => x.uses[n]?.map fun u => x.update n u (x.observe u).cancel []

/-- What happens in moves, one after another. -/
def run (x : Bridge) (moves : List Move) : Option Bridge := moves.foldlM step x

end Bridge

end Playpen
