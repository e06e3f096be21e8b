import Playpen.Bytes.Utf8
import Playpen.HostError

/-!
# Stores

A store keeps bytes under keys beyond the run that downloaded them. Each of its
operations may fail. `Faulty` lets chosen operations of a store fail.
-/

namespace Playpen

/-- The operations of a store whose state is of type `σ`. -/
class Store (σ : Type) where
  /-- The bytes under a key. -/
  lookup : σ → String → Except HostError (Option Bytes)
  /-- Puts bytes under a key, instead of those that were there. -/
  insert : σ → String → Bytes → σ × Except HostError Unit
  /-- Takes away what is under a key, if anything. -/
  remove : σ → String → σ × Except HostError Unit

/-- A store of one kind or the other. -/
instance {σ τ : Type} [Store σ] [Store τ] : Store (σ ⊕ τ) where
  lookup s key := s.elim (Store.lookup · key) (Store.lookup · key)
  insert
    | .inl s, key, bytes => (Store.insert s key bytes).map .inl id
    | .inr s, key, bytes => (Store.insert s key bytes).map .inr id
  remove
    | .inl s, key => (Store.remove s key).map .inl id
    | .inr s, key => (Store.remove s key).map .inr id

/-- The operations of a store that fail. -/
structure Faults where
  lookup : Bool := false
  insert : Bool := false
  remove : Bool := false
deriving DecidableEq, Repr

/-- A store with operations that fail and do nothing. -/
structure Faulty (σ : Type) where
  store : σ
  faults : Faults := { }

namespace Faulty

/-- Why the operations fail. -/
def disabled : HostError := .cacheUnavailable "disabled"

instance {σ : Type} [Store σ] : Store (Faulty σ) where
  lookup s key := if s.faults.lookup then .error disabled else Store.lookup s.store key
  insert s key bytes :=
    if s.faults.insert then (s, .error disabled)
    else
      let r := Store.insert s.store key bytes
      ({ s with store := r.1 }, r.2)
  remove s key :=
    if s.faults.remove then (s, .error disabled)
    else
      let r := Store.remove s.store key
      ({ s with store := r.1 }, r.2)

end Faulty

end Playpen
