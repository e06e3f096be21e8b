import Playpen.Bootstrap
import Playpen.Lifecycle
import Playpen.Session
import Playpen.Store.Disk
import Playpen.SyntaxCheck

/-!
# The runner

Runs programs on an interpreter that is got when it is first needed. A runner
ties the life cycle of the interpreter to getting it. A call is taken at once: it
starts an attempt if it needs one, and the attempt asks the store, but nothing
else happens until the runner has taken all the calls there are
(`Runner.settle`). Only then are the binaries from the store loaded, downloads
asked for, which are numbered from 0, and their answers taken, in any order.

A call is answered at once or waits for an attempt (`Task`); a check of a source
waits for neither, but for the interpreter to come to an end. Only getting the
interpreter can make it fail, and a limit of zero, which is refused before
anything else; whatever a program does is the outcome of its run.
-/

namespace Playpen

/-- An interpreter and the attempt that got it. -/
structure Handle where
  attempt : Nat
  interpreter : Interpreter

/-- Where the runner stands. -/
inductive RunnerState where
  | uninitialized
  | initializing
  | ready
deriving DecidableEq, Repr

/-- The state's own name. -/
def RunnerState.name : RunnerState → String
  | .uninitialized => "Uninitialized"
  | .initializing => "Initializing"
  | .ready => "Ready"

/-- A call of a runner. -/
inductive Call where
  /-- Gets the interpreter unless it is there. -/
  | start
  /-- Drops the interpreter and gets a new one. -/
  | reset
  /-- Gets the interpreter in the background, if there is a background. -/
  | preload (background : Bool)
  /-- Runs a program. -/
  | execute (source : String) (input? : Option String) (timeout? : Option Duration)
  /-- Checks a source, without getting an interpreter for it. -/
  | checkSyntax (source : String)

/-- What a call comes to. -/
inductive Reply where
  | done
  | outcome (o : Outcome)
  | verdict (v : SyntaxVerdict)
  | failed (e : HostError)

/-- A call in progress. -/
inductive Task where
  | answered (r : Reply)
  /-- Waits for the interpreter, under that number. -/
  | initializing (caller : Nat)
  /-- Waits for the interpreter to run a program. -/
  | executing (caller : Nat) (r : Request)
  /-- Waits for a check that comes to no end. -/
  | checking

/-- A runner with a store whose state is of type `σ`. -/
structure Runner (σ : Type) where
  settings : Settings
  /-- What is in a binary. -/
  decode : Bytes → Option Image
  cache : BinaryCache σ
  lifecycle : Lifecycle Handle HostError
  /-- How many are to ask for the interpreter in the background. -/
  preloads : Nat
  /-- The attempts that have asked the store and nothing else, with what it
      holds, in the order in which they go on. -/
  opening : List (Nat × Option Bytes)
  /-- The downloads under way, with the attempts that wait for them. -/
  downloads : List (Nat × Nat)
  /-- The number of downloads asked for. -/
  requested : Nat

namespace Runner

variable {σ : Type}

/-- A runner that was not called yet. -/
def create (settings : Settings) (decode : Bytes → Option Image) (cache : BinaryCache σ) :
    Runner σ :=
  { settings, decode, cache, lifecycle := .initial, preloads := 0, opening := [], downloads := [],
    requested := 0 }

/-- Loads binaries with the runner's settings. -/
def load (r : Runner σ) : Bootstrap.Loader :=
  fun bytes => Interpreter.load r.settings (r.decode bytes)

/-- The interpreter, if it is there. -/
def handle? (r : Runner σ) : Option Handle := r.lifecycle.slot.value?

/-- Where the runner stands. -/
def state (r : Runner σ) : RunnerState :=
  match r.lifecycle.slot with
  | .vacant => .uninitialized
  | .starting _ => .initializing
  | .ready _ => .ready

/-- Someone asks for the interpreter, under the number that is next. If that
    starts an attempt, the store is asked. -/
def acquire [Store σ] (r : Runner σ) : Runner σ :=
  let lifecycle := r.lifecycle.acquire
  if r.lifecycle.starts < lifecycle.starts then
    let (cache, found?) := r.cache.seek r.settings.binaryUrl
    { r with lifecycle, cache, opening := r.opening ++ [(lifecycle.starts, found?)] }
  else { r with lifecycle }

/-- Drops the interpreter, or lets go of the attempt in progress. -/
def clear (r : Runner σ) : Runner σ := { r with lifecycle := r.lifecycle.clear }

/-- An attempt completes. -/
def complete (r : Runner σ) (attempt : Nat) (outcome : Except HostError Interpreter) : Runner σ :=
  { r with lifecycle := r.lifecycle.complete attempt (outcome.map (Handle.mk attempt)) }

/-- Someone asks for the interpreter in the background. Who does so drives the
    attempt that is waited for, which so goes on before all others. -/
def preload [Store σ] (r : Runner σ) : Runner σ :=
  let r := r.acquire
  let (awaited, others) := r.opening.partition fun o => r.lifecycle.slot.awaits o.1
  { r with opening := awaited ++ others }

/-- All ask that are to ask in the background. -/
def askPreloads [Store σ] (r : Runner σ) : Runner σ :=
  r.preloads.repeat preload { r with preloads := 0 }

/-- An attempt loads what the store holds. If nothing comes of it the attempt
    stays, without what was found. -/
def considerFound [Store σ] (r : Runner σ) (attempt : Nat) (found? : Option Bytes) : Runner σ :=
  match Bootstrap.consider r.load r.settings.binaryUrl r.cache found? with
  | (cache, some i) => { r with cache }.complete attempt (.ok i)
  | (cache, none) => { r with cache, opening := r.opening ++ [(attempt, none)] }

/-- An attempt asks the network. -/
def request (r : Runner σ) (attempt : Nat) : Runner σ :=
  { r with
    cache := r.cache.request r.settings.binaryUrl
    downloads := r.downloads ++ [(r.requested, attempt)]
    requested := r.requested + 1 }

/-- All attempts load what the store holds, and those for which that is of no use
    ask the network. -/
def openAttempts [Store σ] (r : Runner σ) : Runner σ :=
  let r := r.opening.foldl (fun r o => r.considerFound o.1 o.2) { r with opening := [] }
  r.opening.foldl (fun r o => r.request o.1) { r with opening := [] }

/-- The network answers a download. -/
def answer (r : Runner σ) (download : Nat) (answer : Except HostError Bytes) : Runner σ :=
  match r.downloads.lookup download with
  | none => r
  | some attempt =>
    let (cache, outcome) := Bootstrap.complete r.load r.settings.binaryUrl r.cache answer
    { r with cache, downloads := r.downloads.filter fun d => d.1 != download }.complete
      attempt outcome

/-- Writes all the copies of downloads that are still to be written. -/
def flush [Store σ] (r : Runner σ) : Runner σ := { r with cache := r.cache.flush }

/-- All goes on that can: attempts go as far as they do without the network, the
    network answers the downloads that it has an answer for, in the order they
    were asked for, and each copy is written before the next answer. -/
def settle [Store σ] (r : Runner σ) (network : Nat → Option (Except HostError Bytes)) : Runner σ :=
  let r := r.askPreloads.openAttempts
  (r.downloads.map Prod.fst).foldl (fun r download =>
    match network download with
    | some reply => (r.answer download reply).flush
    | none => r) r

/-- Why a limit of zero is refused. -/
def zeroTimeout : HostError := .settings "timeout must be greater than zero"

/-- Takes a call: what it does at once, and what it waits for. -/
def call [Store σ] (r : Runner σ) : Call → Runner σ × Task
  | .start => (r.acquire, .initializing r.lifecycle.callers)
  | .reset => (r.clear.acquire, .initializing r.lifecycle.callers)
  | .preload background =>
    (if background ∧ r.state = .uninitialized then { r with preloads := r.preloads + 1 } else r,
      .answered .done)
  | .execute source input? timeout? =>
    let timeout := timeout?.getD r.settings.defaultTimeout
    if timeout.isZero then (r, .answered (.failed zeroTimeout))
    else (r.acquire, .executing r.lifecycle.callers
      { source, input := (input?.map Input.ofText).getD .none, timeout })
  | .checkSyntax source =>
    (r, match SyntaxCheck.run (r.handle?.map Handle.interpreter) source with
      | some verdict => .answered (.verdict verdict)
      | none => .checking)

/-- A run with a limit of zero is refused, and nothing else happens. -/
theorem call_execute_of_zero [Store σ] {r : Runner σ} {source : String} {input? : Option String}
    (timeout? : Option Duration) (h : (timeout?.getD r.settings.defaultTimeout).isZero) :
    r.call (.execute source input? timeout?) = (r, .answered (.failed zeroTimeout)) :=
  if_pos h

/-- A run with any other limit waits for the interpreter. -/
theorem call_execute_of_not_zero [Store σ] {r : Runner σ} {source : String}
    {input? : Option String} (timeout? : Option Duration)
    (h : ¬(timeout?.getD r.settings.defaultTimeout).isZero) :
    r.call (.execute source input? timeout?) = (r.acquire, .executing r.lifecycle.callers
      { source, input := (input?.map Input.ofText).getD .none,
        timeout := timeout?.getD r.settings.defaultTimeout }) :=
  if_neg h

/-- Takes a call, and lets all go on until nothing is left to be done. The network has an
    answer for every download. -/
def inTurn [Store σ] (network : Nat → Except HostError Bytes) (r : Runner σ) (c : Call) :
    Runner σ :=
  (r.call c).1.settle fun download => some (network download)

/-- Takes calls one after another. -/
def inTurns [Store σ] (network : Nat → Except HostError Bytes) (r : Runner σ)
    (calls : List Call) : Runner σ :=
  calls.foldl (inTurn network) r

/-- Runs a program on an interpreter. -/
def runOn (r : Runner σ) (h : Handle) (request : Request) : Outcome :=
  Session.run ⟨h.interpreter, r.settings.interruptOnTimeout⟩ request

/-- What a call comes to, if it no longer waits. -/
def reply? (r : Runner σ) : Task → Option Reply
  | .answered reply => some reply
  | .initializing caller => (r.lifecycle.outcome? caller).map fun
    | .ok _ => .done
    | .error e => .failed e
  | .executing caller request => (r.lifecycle.outcome? caller).map fun
    | .ok h => .outcome (r.runOn h request)
    | .error e => .failed e
  | .checking => none

/-- The runner as a value in diagnostics. -/
def inspect (r : Runner σ) : String :=
  Text.record "RuntimeInstance"
    [("state", r.state.name), ("binary_url", Text.quoted r.settings.binaryUrl)]

end Runner

/-- The access to binaries that the settings describe: through a store on disk,
    or without one if downloads are not kept or the store cannot be opened. -/
def BinaryCache.ofSettings (files : FileTree) (process : Nat) (caches : String) (s : Settings) :
    BinaryCache Volume :=
  match DiskStore.ofSettings files process caches s with
  | (files, .ok (some store)) => .ofStore? (some ⟨files, store⟩)
  | _ => .ofStore? none

end Playpen
