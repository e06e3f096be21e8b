import Mathlib.Logic.Function.Basic
import Playpen.BinaryCache
import Playpen.Proofs.AtOnce
import Playpen.Proofs.StoreMap

/-!
# Stores without faults

A store without faults is a map: every operation succeeds, and does to the map what it
is to do (`Store.IsMap`). A store in memory is one for all keys, and a store on disk for
keys whose digests differ.
-/

namespace Playpen

/-- Under these keys a store is a map, which `R` tells. -/
structure Store.IsMap {σ : Type} [Store σ] (keys : Set String)
    (R : σ → (String → Option Bytes) → Prop) : Prop where
  lookup {s : σ} {m : String → Option Bytes} {key : String} : R s m → key ∈ keys →
    Store.lookup s key = .ok (m key)
  insert {s : σ} {m : String → Option Bytes} {key : String} : R s m → key ∈ keys →
    ∀ bytes, ∃ s', Store.insert s key bytes = (s', .ok ()) ∧
      R s' (Function.update m key (some bytes))
  remove {s : σ} {m : String → Option Bytes} {key : String} : R s m → key ∈ keys →
    ∃ s', Store.remove s key = (s', .ok ()) ∧ R s' (Function.update m key none)

namespace BinaryCache

variable {σ : Type} [Store σ] {keys : Set String} {R : σ → (String → Option Bytes) → Prop}
  {c : BinaryCache σ} {s : σ} {m : String → Option Bytes} {url : String}

/-! ## What a store without faults is asked -/

theorem seek_of_isMap (hmap : Store.IsMap keys R) (hurl : url ∈ keys) (hstore : c.store? = some s)
    (hs : R s m) : c.seek url = (c.record (.lookup url), m url) := by
  rw [seek, hstore]
  dsimp only
  rw [hmap.lookup hs hurl]

theorem evict_of_isMap (hmap : Store.IsMap keys R) (hurl : url ∈ keys)
    (hstore : c.store? = some s) (hs : R s m) :
    ∃ s', c.evict url = { c.record (.remove url) with store? := some s' } ∧
      R s' (Function.update m url none) := by
  obtain ⟨s', hremove, hs'⟩ := hmap.remove hs hurl
  refine ⟨s', ?_, hs'⟩
  rw [evict, hstore]
  dsimp only
  rw [hremove]

theorem writeCopy_of_isMap (hmap : Store.IsMap keys R) (hurl : url ∈ keys)
    (hstore : c.store? = some s) (hs : R s m) (bytes : Bytes) :
    ∃ s', c.writeCopy (url, bytes) = { c.record (.insert url) with store? := some s' } ∧
      R s' (Function.update m url (some bytes)) := by
  obtain ⟨s', hinsert, hs'⟩ := hmap.insert hs hurl bytes
  refine ⟨s', ?_, hs'⟩
  rw [writeCopy, hstore]
  dsimp only
  rw [hinsert]

end BinaryCache

/-! ## Stores in memory and on disk -/

/-- A store in memory is a map. -/
theorem MemoryStore.isMap : Store.IsMap Set.univ fun (s : MemoryStore) m => s.get? = m where
  lookup h _ := congrArg Except.ok (congrFun h _)
  insert {s m key} h _ bytes := by
    refine ⟨s.insert key bytes, rfl, ?_⟩
    subst h
    ext1 key'
    rw [get?_insert, Function.update_apply]
    simp only [eq_comm]
  remove {s m key} h _ := by
    refine ⟨s.erase key, rfl, ?_⟩
    subst h
    ext1 key'
    rw [get?_erase, Function.update_apply]
    simp only [eq_comm]

namespace DiskStore

/-- What is to be read for each of the keys, in a directory of any files. -/
def Reads (keys : Set String) (v : Volume) (m : String → Option Bytes) : Prop :=
  ∃ p f, v.store.Shows p f v.files ∧ ∀ key ∈ keys, m key = f (entryFile key)

/-- A store on disk is a map, if no two of the keys have the same digest. -/
theorem isMap {keys : Set String} (hkeys : Distinct keys) : Store.IsMap keys (Reads keys) where
  lookup {v m key} h hkey := by
    obtain ⟨p, f, hshows, hm⟩ := h
    have hlookup := hshows.lookup_eq key
    rw [hm key hkey]
    exact congrArg hostResult hlookup
  insert {v m key} h hkey bytes := by
    obtain ⟨p, f, hshows, hm⟩ := h
    obtain ⟨t', hinsert, hshows'⟩ := hshows.insert_of_move key bytes (r := .none) rfl rfl rfl
    refine ⟨⟨t', v.store⟩, ?_, p, _, hshows', fun key' hkey' => ?_⟩
    · exact congrArg (fun r => (Volume.mk r.1 v.store, hostResult r.2)) hinsert
    · have hdraft := (draftFile_ne_entryFile v.store.process key key').symm
      simp only [Function.update_apply, if_neg hdraft, hm key' hkey',
        entryFile_eq_iff hkeys hkey' hkey]
  remove {v m key} h hkey := by
    obtain ⟨p, f, hshows, hm⟩ := h
    obtain ⟨t', hremove, hshows'⟩ := hshows.remove_eq key
    refine ⟨⟨t', v.store⟩, ?_, p, _, hshows', fun key' hkey' => ?_⟩
    · exact congrArg (fun r => (Volume.mk r.1 v.store, hostResult r.2)) hremove
    · simp only [Function.update_apply, hm key' hkey', entryFile_eq_iff hkeys hkey' hkey]

end DiskStore

end Playpen
