import Playpen.Store
import Playpen.Text.Quoted

/-!
# Getting binaries

A binary is looked up in the store, if there is one, and downloaded if it is
not found there. Nothing that goes wrong with the store makes this fail: a
lookup that fails counts as a miss, and the copy of a download is written to
the store afterwards, by itself (`BinaryCache.pending`), whether or not that
works.

Everything that is asked of the store and of the network is recorded in order.
-/

namespace Playpen

/-- Something asked of the store or of the network. -/
inductive Access where
  | lookup (key : String)
  | insert (key : String)
  | remove (key : String)
  | fetch (url : String)
deriving DecidableEq, Repr

/-- The access in words. -/
def Access.describe : Access → String
  | .lookup key => "lookup " ++ key
  | .insert key => "store " ++ key
  | .remove key => "remove " ++ key
  | .fetch url => "fetch " ++ url

/-- The key or the address that is asked for. -/
def Access.key : Access → String
  | .lookup key | .insert key | .remove key | .fetch key => key

/-- Where a binary came from. -/
inductive Origin where
  | cache
  | network
deriving DecidableEq, Repr

/-- Access to binaries through a store whose state is of type `σ`. -/
structure BinaryCache (σ : Type) where
  /-- The store, if there is one. -/
  store? : Option σ
  /-- The copies still to be written to the store. -/
  pending : List (String × Bytes)
  /-- What was asked so far. -/
  accesses : List Access

namespace BinaryCache

variable {σ : Type}

/-- Nothing asked yet. -/
def ofStore? (store? : Option σ) : BinaryCache σ := ⟨store?, [], []⟩

/-- There is a store. -/
def isCached (c : BinaryCache σ) : Bool := c.store?.isSome

/-- Records an access. -/
def record (c : BinaryCache σ) (a : Access) : BinaryCache σ :=
  { c with accesses := c.accesses ++ [a] }

/-- The number of downloads asked for. -/
def fetches (c : BinaryCache σ) : Nat :=
  c.accesses.countP fun
    | .fetch _ => true
    | _ => false

/-- Asks the store for a binary. -/
def seek [Store σ] (c : BinaryCache σ) (url : String) : BinaryCache σ × Option Bytes :=
  match c.store? with
  | none => (c, none)
  | some s =>
    (c.record (.lookup url), match Store.lookup s url with
      | .ok found? => found?
      | .error _ => none)

/-- Has the store drop a binary. -/
def evict [Store σ] (c : BinaryCache σ) (url : String) : BinaryCache σ :=
  match c.store? with
  | none => c
  | some s => { c.record (.remove url) with store? := some (Store.remove s url).1 }

/-- Asks the network for a binary. -/
def request (c : BinaryCache σ) (url : String) : BinaryCache σ := c.record (.fetch url)

/-- Takes what the network answered. A copy of a download is to be written to
    the store. -/
def receive (c : BinaryCache σ) (url : String) (answer : Except HostError Bytes) :
    BinaryCache σ × Except HostError Bytes :=
  match answer with
  | .error e => (c, .error e)
  | .ok bytes =>
    (if c.isCached then { c with pending := c.pending ++ [(url, bytes)] } else c, .ok bytes)

/-- Writes one copy to the store. -/
def writeCopy [Store σ] (c : BinaryCache σ) (copy : String × Bytes) : BinaryCache σ :=
  match c.store? with
  | none => c
  | some s => { c.record (.insert copy.1) with store? := some (Store.insert s copy.1 copy.2).1 }

/-- Writes all the copies that are still to be written. -/
def flush [Store σ] (c : BinaryCache σ) : BinaryCache σ :=
  c.pending.foldl writeCopy { c with pending := [] }

/-- Downloads a binary: `answer` is what the network answers. -/
def download (c : BinaryCache σ) (url : String) (answer : Except HostError Bytes) :
    BinaryCache σ × Except HostError Bytes :=
  (c.request url).receive url answer

/-- Gets a binary and says where it came from: `answer` is what the network
    answers if it is asked. -/
def fetchWithOrigin [Store σ] (c : BinaryCache σ) (url : String) (answer : Except HostError Bytes) :
    BinaryCache σ × Except HostError (Bytes × Origin) :=
  match c.seek url with
  | (c, some bytes) => (c, .ok (bytes, .cache))
  | (c, none) =>
    let r := c.download url answer
    (r.1, r.2.map (·, .network))

/-- Gets a binary. -/
def fetch [Store σ] (c : BinaryCache σ) (url : String) (answer : Except HostError Bytes) :
    BinaryCache σ × Except HostError Bytes :=
  let r := c.fetchWithOrigin url answer
  (r.1, r.2.map Prod.fst)

/-- Drops a binary that is of no use and downloads it again. -/
def refetch [Store σ] (c : BinaryCache σ) (url : String) (answer : Except HostError Bytes) :
    BinaryCache σ × Except HostError Bytes :=
  (c.evict url).download url answer

/-- The access to binaries as a value in diagnostics. -/
def inspect (c : BinaryCache σ) : String :=
  Text.record "RuntimeBinaryCache" [("cached", toString c.isCached)]

end BinaryCache

end Playpen
