import Playpen.Concurrent

/-!
# Attempts that go on at the same time

While calls go on (`Concurrent.State`) so do the attempts that they wait for: after
resets there may be more than one. They ask one store and one network. An attempt goes
through the parts of getting an interpreter (`Bootstrap`), and between two of them other
attempts and calls go on, copies of downloads are written, late and in any order, and
somebody else may change the store. What can happen is a list of moves (`Service.run`).
-/

namespace Playpen.Concurrent

/-- How far an attempt is. -/
inductive Stage where
  /-- It is to ask the store. -/
  | started
  /-- The store has answered, and what was found is to be loaded. -/
  | sought (found? : Option Bytes)
  /-- Nothing was found that loads, and it is to ask the network. -/
  | missed
  | awaiting
  /-- It is to complete. -/
  | made (outcome : Except HostError Interpreter)

/-- The clones of a runner with the attempts that are under way. -/
structure Service (σ : Type) where
  /-- What is in a binary. -/
  decode : Bytes → Option Image
  state : State
  cache : BinaryCache σ
  /-- The attempts under way, by number. -/
  attempts : List (Nat × Stage)

namespace Service

/-- Something that happens. -/
inductive Move (σ : Type) where
  /-- A call is made on one of the clones. -/
  | call (c : Call)
  /-- A call goes through its next section. -/
  | proceed (i : Nat)
  /-- An attempt goes on that does not wait for the network. -/
  | attempt (g : Nat)
  /-- The network answers the download of an attempt. -/
  | answer (g : Nat) (answer : Except HostError Bytes)
  /-- The copy at that place is written to the store. -/
  | write (n : Nat)
  /-- Somebody else changes what is in the store, or whether it works. -/
  | change (s : σ)

variable {σ : Type}

/-- Nothing has happened yet. -/
def initial (settings : Settings) (decode : Bytes → Option Image) (cache : BinaryCache σ) :
    Service σ :=
  ⟨decode, .initial settings, cache, []⟩

/-- Where binaries are downloaded from. -/
def url (x : Service σ) : String := x.state.settings.binaryUrl

/-- Loads binaries with the settings. -/
def load (x : Service σ) : Bootstrap.Loader :=
  fun bytes => Interpreter.load x.state.settings (x.decode bytes)

/-- The calls have come that far. If an attempt was started it is under way. -/
def withState (x : Service σ) (state : State) : Service σ :=
  { x with
    state
    attempts :=
      if x.state.lifecycle.starts < state.lifecycle.starts then
        x.attempts ++ [(state.lifecycle.starts, .started)]
      else x.attempts }

/-- An attempt gets that far. -/
def reach (x : Service σ) (g : Nat) (stage : Stage) : Service σ :=
  { x with attempts := x.attempts.map fun a => if a.1 = g then (g, stage) else a }

/-- The next part of an attempt, if it does not wait for the network. -/
def next [Store σ] (x : Service σ) (g : Nat) : Stage → Option (Service σ)
  | .started =>
    let r := x.cache.seek x.url
    some ({ x with cache := r.1 }.reach g (.sought r.2))
  | .sought found? =>
    match Bootstrap.consider x.load x.url x.cache found? with
    | (cache, some i) => some ({ x with cache }.reach g (.made (.ok i)))
    | (cache, none) => some ({ x with cache }.reach g .missed)
  | .missed => some ({ x with cache := x.cache.request x.url }.reach g .awaiting)
  | .awaiting => none
  | .made outcome =>
    (x.state.step (.complete g outcome)).map fun state =>
      { x with state, attempts := x.attempts.filter fun a => a.1 != g }

/-- What happens in a move, if it can be made. -/
def step [Store σ] (x : Service σ) : Move σ → Option (Service σ)
  | .call c => (x.state.step (.call c)).map x.withState
  | .proceed i => (x.state.step (.proceed i)).map x.withState
  | .attempt g => (x.attempts.lookup g).bind (x.next g)
  | .answer g answer =>
    match x.attempts.lookup g with
    | some .awaiting =>
      let (cache, outcome) := Bootstrap.complete x.load x.url x.cache answer
      some ({ x with cache }.reach g (.made outcome))
    | _ => none
  | .write n => x.cache.pending[n]?.map fun copy =>
    { x with cache := { x.cache with pending := x.cache.pending.eraseIdx n }.writeCopy copy }
  | .change s =>
    if x.cache.isCached then some { x with cache := { x.cache with store? := some s } } else none

/-- What happens in moves, one after another. -/
def run [Store σ] (x : Service σ) (moves : List (Move σ)) : Option (Service σ) :=
  moves.foldlM step x

end Service

end Playpen.Concurrent
