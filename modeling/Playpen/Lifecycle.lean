/-!
# Life cycle of a shared value

A value that is expensive to make, here an interpreter, is made when it is first
asked for and shared by everyone who asks. While it is being made, those who ask
wait for it; if making it fails, they all get that error and whoever asks next
starts anew. A reset drops the value, or lets go of the attempt in progress,
whose outcome then only reaches those who wait for it.

Attempts are numbered (`starts`), and the slot knows the number of the attempt it
waits for. An attempt that completes changes the slot only if the slot waits for
it, so one that was let go of changes nothing.
-/

namespace Playpen

/-- Where the shared value stands. -/
inductive Slot (η : Type) where
  /-- There is none, and none is being made. -/
  | vacant
  /-- The attempt of that number is making it. -/
  | starting (attempt : Nat)
  | ready (value : η)

namespace Slot

variable {η ε : Type}

/-- The slot waits for that attempt. -/
def awaits (s : Slot η) (attempt : Nat) : Bool :=
  match s with
  | .starting a => a == attempt
  | _ => false

/-- There is no value, and none is being made. -/
def isVacant : Slot η → Bool
  | .vacant => true
  | _ => false

/-- The shared value, if it is there. -/
def value? : Slot η → Option η
  | .ready value => some value
  | _ => none

/-- The slot after an attempt with that outcome. -/
def ofOutcome : Except ε η → Slot η
  | .ok value => .ready value
  | .error _ => .vacant

end Slot

/-- The shared value, the attempts to make it, and those who asked for it, who
    are numbered from 0. -/
structure Lifecycle (η ε : Type) where
  slot : Slot η
  /-- The number of attempts so far, and so the number of the last one. -/
  starts : Nat
  /-- The attempts that have not completed. -/
  inFlight : List Nat
  /-- Who waits for which attempt. -/
  waiting : List (Nat × Nat)
  /-- What those who asked have got. -/
  outcomes : List (Nat × Except ε η)
  /-- How many have asked. -/
  callers : Nat

namespace Lifecycle

variable {η ε : Type}

/-- Nothing has happened yet. -/
def initial : Lifecycle η ε := ⟨.vacant, 0, [], [], [], 0⟩

/-- Someone asks for the value, and gets it at once or waits for an attempt.
    The attempt is a new one if none is in progress. -/
def acquire (l : Lifecycle η ε) : Lifecycle η ε :=
  let l' := { l with callers := l.callers + 1 }
  match l.slot with
  | .ready value => { l' with outcomes := (l.callers, .ok value) :: l.outcomes }
  | .starting attempt => { l' with waiting := (l.callers, attempt) :: l.waiting }
  | .vacant =>
    let attempt := l.starts + 1
    { l' with
      slot := .starting attempt
      starts := attempt
      inFlight := attempt :: l.inFlight
      waiting := (l.callers, attempt) :: l.waiting }

/-- The first half of a reset: drops the value, or lets go of the attempt in
    progress. The other half is to ask for the value. -/
def clear (l : Lifecycle η ε) : Lifecycle η ε := { l with slot := .vacant }

/-- An attempt completes: everyone who waits for it gets the outcome. -/
def complete (l : Lifecycle η ε) (attempt : Nat) (outcome : Except ε η) :
    Lifecycle η ε :=
  let (served, waiting) := l.waiting.partition fun w => w.2 == attempt
  { l with
    -- An attempt that was let go of has callers, but the slot is not its own.
    slot := if l.slot.awaits attempt then .ofOutcome outcome else l.slot
    inFlight := l.inFlight.erase attempt
    waiting
    outcomes := served.map (fun w => (w.1, outcome)) ++ l.outcomes }

/-- What someone who asked has got. -/
def outcome? (l : Lifecycle η ε) (caller : Nat) : Option (Except ε η) := l.outcomes.lookup caller

end Lifecycle

end Playpen
