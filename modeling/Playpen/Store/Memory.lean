import Playpen.Store

/-!
# Stores in memory

A store that lasts as long as the process: a finite map from keys to bytes,
with at most one entry for each key.
-/

namespace Playpen

/-- The entries, the one written last first. -/
structure MemoryStore where
  entries : List (String × Bytes)
deriving DecidableEq, Repr

namespace MemoryStore

/-- No entries. -/
def empty : MemoryStore := ⟨[]⟩

/-- The bytes under a key. -/
def get? (s : MemoryStore) (key : String) : Option Bytes := s.entries.lookup key

/-- Without what was under the key. -/
def erase (s : MemoryStore) (key : String) : MemoryStore :=
  ⟨s.entries.filter fun e => e.1 != key⟩

/-- With these bytes under the key. -/
def insert (s : MemoryStore) (key : String) (bytes : Bytes) : MemoryStore :=
  ⟨(key, bytes) :: (s.erase key).entries⟩

/-- There is something under the key. -/
def contains (s : MemoryStore) (key : String) : Bool := (s.get? key).isSome

/-- The number of entries. -/
def size (s : MemoryStore) : Nat := s.entries.length

/-- There are no entries. -/
def isEmpty (s : MemoryStore) : Bool := s.size == 0

instance : Store MemoryStore where
  lookup s key := .ok (s.get? key)
  insert s key bytes := (s.insert key bytes, .ok ())
  remove s key := (s.erase key, .ok ())

end MemoryStore

end Playpen
