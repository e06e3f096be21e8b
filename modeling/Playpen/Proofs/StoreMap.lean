import Mathlib.Data.Set.Card
import Playpen.FileTree
import Playpen.Store.Memory

/-!
# Stores as maps

What a store should hold is known from the operations on it alone: under a key there
is what the last operation that changed it has left (`Store.Operation.held?`). A store
in memory holds just that, with one entry for each key that has anything
(`MemoryStore.get?_after`, `MemoryStore.size_after`).
-/

namespace Playpen

/-- An operation of a store. -/
inductive Store.Operation where
  | lookup (key : String)
  | insert (key : String) (bytes : Bytes)
  | remove (key : String)

namespace Store.Operation

/-- The key that an operation is about. -/
def key : Operation → String
  | lookup key | insert key _ | remove key => key

/-- Does the operation on a store. It answers with what a lookup finds. -/
def on {σ : Type} [Store σ] (s : σ) : Operation → σ × Except HostError (Option Bytes)
  | lookup key => (s, Store.lookup s key)
  | insert key bytes =>
    let r := Store.insert s key bytes
    (r.1, r.2.map fun _ => none)
  | remove key =>
    let r := Store.remove s key
    (r.1, r.2.map fun _ => none)

/-- What the operation leaves under a key, if it changes that. -/
def leaves? (key : String) : Operation → Option (Option Bytes)
  | lookup _ => none
  | insert key' bytes => if key' = key then some (some bytes) else none
  | remove key' => if key' = key then some none else none

/-- What the last of the operations that changed a key has left under it. -/
def held? (ops : List Operation) (key : String) : Option Bytes :=
  (ops.reverse.findSome? (leaves? key)).join

/-- What an operation should answer after the others. -/
def answer (ops : List Operation) : Operation → Option Bytes
  | lookup key => held? ops key
  | insert _ _ | remove _ => none

theorem held?_concat (ops : List Operation) (op : Operation) (key : String) :
    held? (ops ++ [op]) key = (op.leaves? key).getD (held? ops key) := by
  rw [held?, List.reverse_append, List.reverse_singleton, List.singleton_append,
    List.findSome?_cons]
  cases op.leaves? key with
  | none => rfl
  | some left => rfl

end Store.Operation

namespace MemoryStore

open Store

/-- A store in memory after these operations. -/
def after (ops : List Operation) : MemoryStore := ops.foldl (fun m op => (op.on m).1) .empty

theorem after_concat (ops : List Operation) (op : Operation) :
    after (ops ++ [op]) = (op.on (after ops)).1 := by
  rw [after, List.foldl_append]
  rfl

theorem get?_insert (m : MemoryStore) (key key' : String) (bytes : Bytes) :
    (m.insert key bytes).get? key' = if key = key' then some bytes else m.get? key' := by
  rw [get?, insert, erase, List.lookup_cons]
  by_cases h : key = key'
  · rw [if_pos h, h, beq_self_eq_true]
  · rw [if_neg h, beq_false_of_ne (Ne.symm h), FileTree.lookup_filter_ne (Ne.symm h)]
    rfl

theorem get?_erase (m : MemoryStore) (key key' : String) :
    (m.erase key).get? key' = if key = key' then none else m.get? key' := by
  rw [get?, erase]
  by_cases h : key = key'
  · rw [if_pos h, h, FileTree.lookup_filter_self]
  · rw [if_neg h, FileTree.lookup_filter_ne (Ne.symm h)]
    rfl

theorem get?_on (m : MemoryStore) (op : Operation) (key : String) :
    (op.on m).1.get? key = (op.leaves? key).getD (m.get? key) := by
  cases op with
  | lookup key' => rfl
  | insert key' bytes =>
    rw [Operation.leaves?]
    refine (get?_insert m key' key bytes).trans ?_
    split
    · rfl
    · rfl
  | remove key' =>
    rw [Operation.leaves?]
    refine (get?_erase m key' key).trans ?_
    split
    · rfl
    · rfl

/-- Under a key there is what the operations have left. -/
theorem get?_after (ops : List Operation) (key : String) :
    (after ops).get? key = Operation.held? ops key := by
  induction ops using List.reverseRecOn with
  | nil => rfl
  | append_singleton ops op ih => rw [after_concat, get?_on, ih, Operation.held?_concat]

theorem on_after (ops : List Operation) (op : Operation) :
    (op.on (after ops)).2 = .ok (op.answer ops) := by
  cases op with
  | lookup key => exact congrArg Except.ok (get?_after ops key)
  | insert key bytes | remove key => rfl

/-! ## One entry for each key -/

theorem nodup_erase {m : MemoryStore} (h : (m.entries.map Prod.fst).Nodup) (key : String) :
    ((m.erase key).entries.map Prod.fst).Nodup :=
  h.sublist (List.filter_sublist.map Prod.fst)

theorem nodup_on {m : MemoryStore} (h : (m.entries.map Prod.fst).Nodup) (op : Operation) :
    ((op.on m).1.entries.map Prod.fst).Nodup := by
  cases op with
  | lookup key => exact h
  | insert key bytes =>
    refine List.nodup_cons.2 ⟨fun hmem => ?_, nodup_erase h key⟩
    obtain ⟨e, he, hkey⟩ := List.mem_map.1 hmem
    exact bne_iff_ne.1 (List.mem_filter.1 he).2 hkey
  | remove key => exact nodup_erase h key

theorem nodup_after (ops : List Operation) : ((after ops).entries.map Prod.fst).Nodup := by
  induction ops using List.reverseRecOn with
  | nil => exact List.nodup_nil
  | append_singleton ops op ih => exact after_concat ops op ▸ nodup_on ih op

/-- Only keys of the operations are in the store. -/
theorem key_of_mem_after {ops : List Operation} {keys : Set String}
    (h : ∀ op ∈ ops, op.key ∈ keys) : ∀ e ∈ (after ops).entries, e.1 ∈ keys := by
  induction ops using List.reverseRecOn with
  | nil => exact nofun
  | append_singleton ops op ih =>
    rw [List.forall_mem_append, List.forall_mem_singleton] at h
    have hold := ih h.1
    rw [after_concat]
    cases op with
    | lookup key => exact hold
    | insert key bytes =>
      exact List.forall_mem_cons.2 ⟨h.2, fun e he => hold e (List.mem_filter.1 he).1⟩
    | remove key => exact fun e he => hold e (List.mem_filter.1 he).1

/-- An entry is what is found under its key. -/
theorem mem_entries_iff {m : MemoryStore} (h : (m.entries.map Prod.fst).Nodup) {key : String}
    {bytes : Bytes} : (key, bytes) ∈ m.entries ↔ m.get? key = some bytes := by
  rw [get?]
  generalize m.entries = es at h ⊢
  induction es with
  | nil => exact ⟨nofun, nofun⟩
  | cons e es ih =>
    obtain ⟨key', bytes'⟩ := e
    rw [List.map_cons, List.nodup_cons] at h
    rw [List.mem_cons, List.lookup_cons]
    by_cases hkey : key = key'
    · subst hkey
      rw [beq_self_eq_true]
      have hout : (key, bytes) ∉ es := fun hmem => h.1 (List.mem_map.2 ⟨_, hmem, rfl⟩)
      rw [or_iff_left hout, Prod.mk.injEq, and_iff_right rfl, eq_comm]
      exact (Option.some_inj).symm
    · rw [beq_false_of_ne hkey, ← ih h.2]
      exact or_iff_right fun heq => hkey (Prod.mk.inj heq).1

/-- There are as many entries as keys that have anything. -/
theorem size_after (ops : List Operation) :
    (after ops).size = {key | (Operation.held? ops key).isSome}.ncard := by
  have hnodup := nodup_after ops
  have hset : {key | (Operation.held? ops key).isSome} =
      (((after ops).entries.map Prod.fst).toFinset : Set String) := by
    ext key
    rw [Set.mem_ofPred_eq, ← get?_after, Finset.mem_coe, List.mem_toFinset, List.mem_map,
      Option.isSome_iff_exists]
    constructor
    · rintro ⟨bytes, hbytes⟩
      exact ⟨(key, bytes), (mem_entries_iff hnodup).2 hbytes, rfl⟩
    · rintro ⟨⟨key', bytes⟩, hmem, rfl⟩
      exact ⟨bytes, (mem_entries_iff hnodup).1 hmem⟩
  rw [hset, Set.ncard_coe_finset, List.toFinset_card_of_nodup hnodup, List.length_map]
  rfl

end MemoryStore

end Playpen
