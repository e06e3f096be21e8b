/-!
# Cancellation flags

A flag says that an evaluation is to stop. It can be shared: all copies of a
flag, and copies of copies, are one flag, and once set it stays set. The pool
keeps, for every copy that was handed out, which flag it is a copy of. What can
be done with flags is a list of moves (`FlagPool.run`).
-/

namespace Playpen

/-- The flags and the copies of them, both numbered from 0. -/
structure FlagPool where
  /-- Whether each flag is set. -/
  flags : List Bool
  /-- The flag that each copy is of. -/
  copies : List Nat
deriving DecidableEq, Repr

namespace FlagPool

/-- One flag, which is not set, and one copy of it. -/
def initial : FlagPool := ⟨[false], [0]⟩

/-- A new flag, which is not set, with a copy. -/
def fresh (p : FlagPool) : FlagPool := ⟨p.flags ++ [false], p.copies ++ [p.flags.length]⟩

/-- One more copy of the flag that copy `i` is of. -/
def share (p : FlagPool) (i : Nat) : FlagPool :=
  match p.copies[i]? with
  | some f => { p with copies := p.copies ++ [f] }
  | none => p

/-- Sets the flag that copy `i` is of. -/
def cancel (p : FlagPool) (i : Nat) : FlagPool :=
  match p.copies[i]? with
  | some f => { p with flags := p.flags.set f true }
  | none => p

/-- The flag that copy `i` is of is set. -/
def isCancelled (p : FlagPool) (i : Nat) : Bool :=
  match p.copies[i]? with
  | some f => p.flags.getD f false
  | none => false

/-- Whether the flag of each copy is set. -/
def states (p : FlagPool) : List Bool := p.copies.map fun f => p.flags.getD f false

/-- No flag yet. -/
def empty : FlagPool := ⟨[], []⟩

/-- Something that is done with flags. -/
inductive Move where
  /-- A flag is made, with its first copy. -/
  | fresh
  /-- One more copy is made from copy `c`. -/
  | share (c : Nat)
  /-- A flag is set through copy `c`. -/
  | cancel (c : Nat)
deriving DecidableEq, Repr

/-- What happens in a move, if the copy that it is made with exists. -/
def step (p : FlagPool) : Move → Option FlagPool
  | .fresh => some p.fresh
  | .share c => if c < p.copies.length then some (p.share c) else none
  | .cancel c => if c < p.copies.length then some (p.cancel c) else none

/-- What happens in moves, one after another. -/
def run (p : FlagPool) (moves : List Move) : Option FlagPool := moves.foldlM step p

end FlagPool

/-- What an evaluation that was stopped in time says of itself. -/
def interruptedMessage : String := "guest evaluation interrupted"

end Playpen
