import Playpen.Runner

/-!
# Calls that go on at the same time

The clones of a runner share one life cycle, and calls are made on any of them at
any time. A call looks at the slot, or changes it, in sections that nothing
interrupts. Between two sections of a call others go on, and attempts complete,
in any order and with any outcome. A state holds what is shared, how far each
call is, and what became of the attempts. What can happen is a list of moves
(`State.run`).
-/

namespace Playpen

/-- The attempt whose outcome goes to whoever asks next. -/
def Lifecycle.source {ε : Type} (l : Lifecycle Handle ε) : Nat :=
  match l.slot with
  | .vacant => l.starts + 1
  | .starting attempt => attempt
  | .ready h => h.attempt

namespace Concurrent

/-- How far a call is. -/
inductive Progress where
  /-- It has not looked at the slot. -/
  | called
  /-- A reset has emptied the slot and is to ask for an interpreter. -/
  | cleared
  /-- A preload has found the slot vacant and is to ask in the background. -/
  | spawned
  /-- It has asked under the number `caller`, and is to get the outcome of
      `attempt`. -/
  | asked (caller attempt : Nat)
  /-- It has taken the outcome of `attempt`. -/
  | obtained (attempt : Nat) (outcome : Except HostError Handle)
  /-- It is over, and did not ask for an interpreter. -/
  | dismissed

namespace Progress

/-- The attempt that a call depends on. -/
def attempt? : Progress → Option Nat
  | asked _ attempt | obtained attempt _ => some attempt
  | _ => none

/-- What a call was given, if only to be taken. -/
def received? (l : Lifecycle Handle HostError) : Progress → Option (Except HostError Handle)
  | asked caller _ => l.outcome? caller
  | obtained _ outcome => some outcome
  | _ => none

end Progress

/-- A call that was made. -/
structure Ongoing where
  call : Call
  progress : Progress := .called

/-- What the clones of a runner share, and the calls on them. -/
structure State where
  settings : Settings
  lifecycle : Lifecycle Handle HostError
  /-- The calls in the order in which they were made. -/
  calls : List Ongoing
  /-- How often a reset has emptied the slot. -/
  clears : Nat
  /-- The attempts that have completed and their outcomes, the last one first. -/
  finished : List (Nat × Except HostError Handle)
  /-- How many attempts have failed for which the slot waited. -/
  failures : Nat

/-- Something that happens. -/
inductive Move where
  /-- A call is made on one of the clones. -/
  | call (c : Call)
  /-- A call goes through its next section. -/
  | proceed (i : Nat)
  /-- An attempt completes. -/
  | complete (attempt : Nat) (outcome : Except HostError Interpreter)

namespace State

/-- Nothing has happened yet. -/
def initial (settings : Settings) : State := ⟨settings, .initial, [], 0, [], 0⟩

/-- The attempts that were started. -/
def attempts (s : State) : List Nat := s.lifecycle.inFlight ++ s.finished.map Prod.fst

/-- What an attempt came to, if it has completed. -/
def result? (s : State) (attempt : Nat) : Option (Except HostError Handle) :=
  s.finished.lookup attempt

/-- The attempt that a call depends on. -/
def attempt? (s : State) (i : Nat) : Option Nat :=
  s.calls[i]?.bind fun k => k.progress.attempt?

/-- What a call was given. -/
def received? (s : State) (i : Nat) : Option (Except HostError Handle) :=
  s.calls[i]?.bind fun k => k.progress.received? s.lifecycle

/-- A call gets that far. -/
def mark (s : State) (i : Nat) (p : Progress) : State :=
  { s with calls := s.calls.modify i fun k => { k with progress := p } }

/-- A call asks for the interpreter. -/
def ask (s : State) (i : Nat) : State :=
  { s.mark i (.asked s.lifecycle.callers s.lifecycle.source) with
    lifecycle := s.lifecycle.acquire }

/-- A reset empties the slot. -/
def clear (s : State) (i : Nat) : State :=
  { s.mark i .cleared with lifecycle := s.lifecycle.clear, clears := s.clears + 1 }

/-- The next section of a call, if it does not wait and is not over. -/
def proceed (s : State) (i : Nat) (k : Ongoing) : Option State :=
  match k.progress with
  | .called =>
    match k.call with
    | .start => some (s.ask i)
    | .reset => some (s.clear i)
    | .preload background =>
      -- It only looks: others may start an attempt before it asks.
      some (s.mark i (if background && s.lifecycle.slot.isVacant then .spawned else .dismissed))
    | .execute _ _ timeout? =>
      some (if (timeout?.getD s.settings.defaultTimeout).isZero then s.mark i .dismissed
        else s.ask i)
    | .checkSyntax _ => some (s.mark i .dismissed)
  | .cleared | .spawned => some (s.ask i)
  | .asked caller attempt =>
    -- It waits as long as there is nothing for it.
    (s.lifecycle.outcome? caller).map fun outcome => s.mark i (.obtained attempt outcome)
  | .obtained .. | .dismissed => none

/-- An attempt completes, and marks its handle as its own. -/
def complete (s : State) (attempt : Nat) (outcome : Except HostError Interpreter) : State :=
  let result := outcome.map (Handle.mk attempt)
  { s with
    lifecycle := s.lifecycle.complete attempt result
    finished := (attempt, result) :: s.finished
    failures := if s.lifecycle.slot.awaits attempt && !result.isOk then s.failures + 1
      else s.failures }

/-- What happens in a move, if it can be made. -/
def step (s : State) : Move → Option State
  | .call c => some { s with calls := s.calls ++ [{ call := c }] }
  | .proceed i => s.calls[i]?.bind (s.proceed i)
  | .complete attempt outcome =>
    if attempt ∈ s.lifecycle.inFlight then some (s.complete attempt outcome) else none

/-- What happens in moves, one after another. -/
def run (s : State) (moves : List Move) : Option State := moves.foldlM step s

end State

end Concurrent

end Playpen
