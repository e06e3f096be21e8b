import Playpen.Duration
import Playpen.Streams

/-!
# Behaviour of a guest

Everything the host sees of a running program, as a tree: what it writes, what
it asks to read, with a continuation for every answer, how long it waits, and
how it ends. A program that computes for ever does so in `spin`.
-/

namespace Playpen.Guest

/-- How a program ends by itself. -/
inductive Halt where
  /-- It runs to its end. -/
  | returned
  /-- It exits with a status. -/
  | exited (status : Int)
  /-- It does something that cannot be done. -/
  | trapped
deriving DecidableEq, Repr

/-- What a program does from some point on. -/
inductive Behaviour where
  | halt (h : Halt)
  /-- It computes for ever. -/
  | spin
  /-- It writes bytes to a stream. -/
  | write (stream : Nat) (bs : Bytes) (next : Behaviour)
  /-- It reads at most that many bytes, or all that are left. -/
  | read (limit? : Option Nat) (next : Bytes → Behaviour)
  /-- It waits. -/
  | pause (d : Duration) (next : Behaviour)

end Playpen.Guest
