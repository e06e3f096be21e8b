import Playpen.Proofs.DiskFaults
import Playpen.Proofs.FaultFree

/-!
# Stores that may fail

A store whose operations may fail is still a map, if what it finds is what is there and an
operation that fails changes nothing (`Store.IsFallibleMap`). A store without faults is
one, and stays one whichever of its operations are made to fail. A store on disk is one
whatever the files are, under keys whose digests differ.
-/

namespace Playpen

/-- Under these keys a store is a map, which `R` tells, and any operation may fail. What a
    lookup finds is in the map, and what fails leaves the map as it is. -/
structure Store.IsFallibleMap {σ : Type} [Store σ] (keys : Set String)
    (R : σ → (String → Option Bytes) → Prop) : Prop where
  lookup {s : σ} {m : String → Option Bytes} {key : String} {found? : Option Bytes} :
    R s m → key ∈ keys → Store.lookup s key = .ok found? → found? = m key
  insert {s : σ} {m : String → Option Bytes} {key : String} : R s m → key ∈ keys →
    ∀ bytes, R (Store.insert s key bytes).1
      (if (Store.insert s key bytes).2.isOk then Function.update m key (some bytes) else m)
  remove {s : σ} {m : String → Option Bytes} {key : String} : R s m → key ∈ keys →
    R (Store.remove s key).1
      (if (Store.remove s key).2.isOk then Function.update m key none else m)

variable {σ : Type} [Store σ] {keys : Set String} {R : σ → (String → Option Bytes) → Prop}

/-- Nothing fails in a store without faults. -/
theorem Store.IsMap.fallible (h : Store.IsMap keys R) : Store.IsFallibleMap keys R where
  lookup hs hkey hfound := Except.ok.inj (hfound.symm.trans (h.lookup hs hkey))
  insert hs hkey bytes := by
    obtain ⟨s', hinsert, hs'⟩ := h.insert hs hkey bytes
    rw [hinsert]
    exact hs'
  remove hs hkey := by
    obtain ⟨s', hremove, hs'⟩ := h.remove hs hkey
    rw [hremove]
    exact hs'

/-- Any operations of a store may be made to fail. -/
theorem Store.IsFallibleMap.faulty (h : Store.IsFallibleMap keys R) :
    Store.IsFallibleMap keys fun (s : Faulty σ) m => R s.store m where
  lookup {s m key found?} hs hkey hfound := by
    change (if s.faults.lookup then _ else _) = _ at hfound
    split at hfound
    · exact nomatch hfound
    · exact h.lookup hs hkey hfound
  insert {s m key} hs hkey bytes := by
    by_cases hfault : s.faults.insert = true
    · have hinsert : Store.insert s key bytes = (s, .error Faulty.disabled) := if_pos hfault
      rw [hinsert]
      exact hs
    · have hinsert : Store.insert s key bytes =
          ({ s with store := (Store.insert s.store key bytes).1 },
            (Store.insert s.store key bytes).2) := if_neg hfault
      rw [hinsert]
      exact h.insert hs hkey bytes
  remove {s m key} hs hkey := by
    by_cases hfault : s.faults.remove = true
    · have hremove : Store.remove s key = (s, .error Faulty.disabled) := if_pos hfault
      rw [hremove]
      exact hs
    · have hremove : Store.remove s key =
          ({ s with store := (Store.remove s.store key).1 }, (Store.remove s.store key).2) :=
        if_neg hfault
      rw [hremove]
      exact h.remove hs hkey

namespace DiskStore

/-- Under these keys nothing is found but what is in the map. -/
def Finds (keys : Set String) (v : Volume) (m : String → Option Bytes) : Prop :=
  ∀ key ∈ keys, ∀ found?, v.store.lookup v.files key = .ok found? → found? = m key

/-- One entry is exchanged in what is found. -/
theorem Finds.update {v v' : Volume} {m : String → Option Bytes} {key : String}
    {new? : Option Bytes} (h : Finds keys v m) (hkeys : Distinct keys) (hkey : key ∈ keys)
    (hnew : v'.store.lookup v'.files key = .ok new?)
    (hkept : ∀ key', entryFile key' ≠ entryFile key →
      v'.store.lookup v'.files key' = v.store.lookup v.files key') :
    Finds keys v' (Function.update m key new?) := by
  intro key' hkey' found? hfound
  by_cases heq : key' = key
  · subst heq
    rw [Function.update_self]
    exact Except.ok.inj (hfound.symm.trans hnew)
  · have hentry := (entryFile_eq_iff hkeys hkey' hkey).not.2 heq
    rw [Function.update_of_ne heq]
    exact h key' hkey' found? ((hkept key' hentry).symm.trans hfound)

/-- A store on disk is a map whose operations may fail, whatever the files are. -/
theorem isFallibleMap (hkeys : Distinct keys) : Store.IsFallibleMap keys (Finds keys) where
  lookup {v m key found?} hv hkey hfound := by
    refine hv key hkey found? ?_
    change hostResult (v.store.lookup v.files key) = _ at hfound
    cases hlookup : v.store.lookup v.files key with
    | error why =>
      rw [hlookup] at hfound
      exact nomatch hfound
    | ok found =>
      rw [hlookup] at hfound
      exact congrArg Except.ok (Except.ok.inj hfound)
  insert {v m key} hv hkey bytes := by
    obtain ⟨t, s⟩ := v
    rw [store_insert]
    cases hinsert : s.insert t key bytes .none with
    | mk t' result =>
      cases result with
      | error why =>
        intro key' hkey' found? hfound
        exact hv key' hkey' found? ((lookup_of_insert_error hinsert key').symm.trans hfound)
      | ok =>
        obtain ⟨hnew, -, hkept⟩ := lookup_of_insert hinsert
        exact hv.update hkeys hkey hnew hkept
  remove {v m key} hv hkey := by
    obtain ⟨t, s⟩ := v
    rw [store_remove]
    cases hremove : s.remove t key none with
    | mk t' result =>
      cases result with
      | error why =>
        obtain rfl := eq_of_remove_error hremove
        exact hv
      | ok =>
        obtain ⟨hnone, hkept⟩ := lookup_of_remove hremove
        exact hv.update hkeys hkey hnone hkept

end DiskStore

end Playpen
