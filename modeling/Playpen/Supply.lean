import Playpen.BinaryCache

/-!
# Binaries for many at the same time

Clones of the access to binaries ask one store and one network, so they need not be told
apart. An order is a call on any of them. It goes through the parts of getting a binary
with its origin (`BinaryCache.fetchWithOrigin`), or of getting it anew
(`BinaryCache.refetch`). Between two of them other orders go on, copies of downloads are
written, late and in any order, and operations of the store start or cease to fail. What
can happen is a list of moves (`Supply.run`).
-/

namespace Playpen

/-- How far an order is. -/
inductive Order.Stage where
  /-- It is to ask the store for the binary, or to have it dropped. -/
  | placed
  /-- It is to ask the network. -/
  | missed
  | awaiting
  | served (outcome : Except HostError (Bytes × Origin))

/-- A call for a binary. -/
structure Order where
  url : String
  /-- What the store has is of no use, and is to be dropped. -/
  anew : Bool
  stage : Order.Stage

/-- Clones of one access to binaries, with the orders placed so far. -/
structure Supply (σ : Type) where
  cache : BinaryCache (Faulty σ)
  orders : List Order
  /-- What the network has delivered, and for which address. -/
  downloads : List (String × Bytes)

namespace Supply

/-- Something that happens. -/
inductive Move where
  /-- A call is made on one of the clones. -/
  | place (url : String) (anew : Bool)
  /-- An order goes on that does not wait for the network. -/
  | proceed (i : Nat)
  /-- The network answers the download of an order. -/
  | answer (i : Nat) (answer : Except HostError Bytes)
  /-- The copy at that place is written to the store. -/
  | write (n : Nat)
  /-- From now on these operations of the store fail. -/
  | fail (faults : Faults)

variable {σ : Type}

/-- No order yet, and nothing to be written. -/
def initial (s : Faulty σ) : Supply σ := ⟨.ofStore? (some s), [], []⟩

/-- An order gets that far. -/
def reach (x : Supply σ) (i : Nat) (o : Order) (stage : Order.Stage) : Supply σ :=
  { x with orders := x.orders.set i { o with stage } }

/-- The next part of an order, if it does not wait for the network. What is had anew comes
    from the network. -/
def proceed [Store σ] (x : Supply σ) (i : Nat) (o : Order) : Option (Supply σ) :=
  match o.stage with
  | .placed =>
    if o.anew then some ({ x with cache := x.cache.evict o.url }.reach i o .missed)
    else match x.cache.seek o.url with
      | (cache, some bytes) => some ({ x with cache }.reach i o (.served (.ok (bytes, .cache))))
      | (cache, none) => some ({ x with cache }.reach i o .missed)
  | .missed => some ({ x with cache := x.cache.request o.url }.reach i o .awaiting)
  | .awaiting => none
  | .served _ => none

/-- What the network answers to an order that waits for it. -/
def receive (x : Supply σ) (i : Nat) (o : Order) (answer : Except HostError Bytes) :
    Supply σ :=
  let (cache, outcome) := x.cache.receive o.url answer
  { x with
    cache
    downloads := x.downloads ++ outcome.toOption.toList.map (o.url, ·)
  }.reach i o (.served (outcome.map (·, .network)))

/-- What happens in a move, if it can be made. -/
def step [Store σ] (x : Supply σ) : Move → Option (Supply σ)
  | .place url anew => some { x with orders := x.orders ++ [⟨url, anew, .placed⟩] }
  | .proceed i => x.orders[i]?.bind (x.proceed i)
  | .answer i answer =>
    match x.orders[i]? with
    | some ⟨url, anew, .awaiting⟩ => some (x.receive i ⟨url, anew, .awaiting⟩ answer)
    | _ => none
  | .write n => x.cache.pending[n]?.map fun copy =>
    { x with cache := { x.cache with pending := x.cache.pending.eraseIdx n }.writeCopy copy }
  | .fail faults => x.cache.store?.map fun s =>
    { x with cache := { x.cache with store? := some { s with faults } } }

/-- What happens in moves, one after another. -/
def run [Store σ] (x : Supply σ) (moves : List Move) : Option (Supply σ) := moves.foldlM step x

end Supply

end Playpen
