import Playpen.Proofs.FallibleStores
import Playpen.Proofs.Recovery

/-!
# The store comes first

To get a binary with its origin the store is asked, and if it finds any bytes these are
the answer. Otherwise, and whenever a binary is had anew, there is one download, and its
outcome is the answer: what fails in the store is not seen. Afterwards the store holds the
download under its address, if it could be written, and everything else as it was
(`BinaryCache.cache_first`).

What the store holds is told by a map, as for any store whose operations may fail
(`Store.IsFallibleMap`).
-/

namespace Playpen.BinaryCache

variable {σ : Type} {c : BinaryCache σ} {s : σ} {m : String → Option Bytes}
  {keys : Set String} {R : σ → (String → Option Bytes) → Prop} {url : String}
  {answer : Except HostError Bytes} {bytes : Bytes}

/-- There is a store, and this is what it holds. -/
def Holds (R : σ → (String → Option Bytes) → Prop) (c : BinaryCache σ)
    (m : String → Option Bytes) : Prop :=
  ∃ s, c.store? = some s ∧ R s m

/-! ## Downloads -/

theorem result_download (c : BinaryCache σ) (url : String) (answer : Except HostError Bytes) :
    (c.download url answer).2 = answer := by
  cases answer <;> rfl

theorem fetches_download (c : BinaryCache σ) (url : String) (answer : Except HostError Bytes) :
    (c.download url answer).1.fetches = c.fetches + 1 :=
  (fetches_receive (c.request url) url answer).trans (fetches_record c (.fetch url))

variable [Store σ]

/-- After a download that fails there is nothing to be written. -/
theorem store?_download_error (hpending : c.pending = []) (url : String) (e : HostError) :
    (c.download url (.error e)).1.flush.store? = c.store? := by
  change (c.request url).flush.store? = c.store?
  rw [flush_of_nil (c := c.request url) hpending]
  rfl

/-- After a download its copy is written, if that goes well. -/
theorem holds_download_ok (hmap : Store.IsFallibleMap keys R) (hurl : url ∈ keys)
    (hstore : c.store? = some s) (hs : R s m) (hpending : c.pending = []) (bytes : Bytes) :
    (c.download url (.ok bytes)).1.flush.Holds R
      (if (Store.insert s url bytes).2.isOk then Function.update m url (some bytes) else m) := by
  have hflush : (c.download url (.ok bytes)).1.flush = (c.request url).writeCopy (url, bytes) :=
    flush_receive (c := c.request url) hstore hpending
  refine ⟨(Store.insert s url bytes).1, ?_, hmap.insert hs hurl bytes⟩
  rw [hflush, writeCopy, show (c.request url).store? = some s from hstore]

/-! ## The first part of a call -/

theorem store?_seek (c : BinaryCache σ) (url : String) : (c.seek url).1.store? = c.store? := by
  rw [seek]
  split <;> rfl

theorem store?_evict (hstore : c.store? = some s) (url : String) :
    (c.evict url).store? = some (Store.remove s url).1 := by
  rw [evict, hstore]

/-- What the store serves is what is got. -/
theorem fetchWithOrigin_of_serves (h : c.Serves url bytes) (answer : Except HostError Bytes) :
    c.fetchWithOrigin url answer = ((c.seek url).1, .ok (bytes, .cache)) := by
  have hseek := seek_eq_some_iff.2 h
  rw [fetchWithOrigin]
  generalize c.seek url = sought at hseek
  obtain ⟨c', found?⟩ := sought
  obtain rfl : found? = some bytes := hseek
  rfl

/-- If the store serves nothing there is a download. -/
theorem fetchWithOrigin_of_not_serves (h : ∀ bytes, ¬ c.Serves url bytes)
    (answer : Except HostError Bytes) :
    c.fetchWithOrigin url answer =
      (((c.seek url).1.download url answer).1, answer.map (·, .network)) := by
  have hnone (bytes : Bytes) : (c.seek url).2 ≠ some bytes :=
    fun hsome => h bytes (seek_eq_some_iff.1 hsome)
  rw [fetchWithOrigin]
  generalize c.seek url = sought at hnone
  obtain ⟨c', found?⟩ := sought
  cases found? with
  | some bytes => exact absurd rfl (hnone bytes)
  | none =>
    dsimp only
    rw [result_download]

/-- A call is served by the store, or it is a download. -/
theorem fetchWithOrigin_cases (c : BinaryCache σ) (url : String)
    (answer : Except HostError Bytes) :
    (∃ bytes, c.Serves url bytes ∧
      c.fetchWithOrigin url answer = ((c.seek url).1, .ok (bytes, .cache))) ∨
    (∀ bytes, ¬ c.Serves url bytes) ∧ c.fetchWithOrigin url answer =
      (((c.seek url).1.download url answer).1, answer.map (·, .network)) := by
  by_cases h : ∃ bytes, c.Serves url bytes
  · obtain ⟨bytes, h⟩ := h
    exact .inl ⟨bytes, h, fetchWithOrigin_of_serves h answer⟩
  · exact .inr ⟨not_exists.1 h, fetchWithOrigin_of_not_serves (not_exists.1 h) answer⟩

/-- Only what the store serves is said to come from it. -/
theorem serves_of_fetchWithOrigin
    (h : (c.fetchWithOrigin url answer).2 = .ok (bytes, .cache)) : c.Serves url bytes := by
  rcases fetchWithOrigin_cases c url answer with ⟨bytes', hserves, heq⟩ | ⟨-, heq⟩
  · rw [heq] at h
    obtain ⟨rfl, -⟩ := Prod.mk.inj (Except.ok.inj h)
    exact hserves
  · rw [heq] at h
    cases answer <;> exact nomatch h

/-- To get a binary with its origin fails with the error of a download only. -/
theorem error_of_fetchWithOrigin {e : HostError}
    (h : (c.fetchWithOrigin url answer).2 = .error e) : answer = .error e := by
  rcases fetchWithOrigin_cases c url answer with ⟨bytes, -, heq⟩ | ⟨-, heq⟩
  · rw [heq] at h
    exact nomatch h
  · rw [heq] at h
    cases answer with
    | error e' => exact congrArg Except.error (Except.error.inj h)
    | ok bytes => exact nomatch h

/-- Everything that a store holds and finds it serves. -/
theorem Holds.serves (hmap : Store.IsFallibleMap keys R) (hurl : url ∈ keys)
    (hstore : c.store? = some s) (hs : R s m) (hbytes : m url = some bytes)
    (hworks : (Store.lookup s url).isOk) : c.Serves url bytes := by
  refine ⟨s, hstore, ?_⟩
  cases hlookup : Store.lookup s url with
  | error e =>
    rw [hlookup] at hworks
    exact nomatch hworks
  | ok found? => rw [hmap.lookup hs hurl hlookup, hbytes]

/-! ## What is left in the store -/

theorem store?_of_serves (h : c.Serves url bytes) (hpending : c.pending = [])
    (answer : Except HostError Bytes) :
    (c.fetchWithOrigin url answer).1.flush.store? = c.store? := by
  rw [fetchWithOrigin_of_serves h, flush_of_nil ((pending_seek c url).trans hpending), store?_seek]

theorem store?_fetchWithOrigin_error (hpending : c.pending = []) (url : String) (e : HostError) :
    (c.fetchWithOrigin url (.error e)).1.flush.store? = c.store? := by
  rcases fetchWithOrigin_cases c url (.error e) with ⟨bytes, hserves, -⟩ | ⟨-, heq⟩
  · exact store?_of_serves hserves hpending (.error e)
  · rw [heq, store?_download_error ((pending_seek c url).trans hpending), store?_seek]

theorem holds_fetchWithOrigin_ok (hmap : Store.IsFallibleMap keys R) (hurl : url ∈ keys)
    (hstore : c.store? = some s) (hs : R s m) (hpending : c.pending = [])
    (h : ∀ bytes, ¬ c.Serves url bytes) (bytes : Bytes) :
    (c.fetchWithOrigin url (.ok bytes)).1.flush.Holds R
      (if (Store.insert s url bytes).2.isOk then Function.update m url (some bytes) else m) := by
  rw [fetchWithOrigin_of_not_serves h]
  exact holds_download_ok hmap hurl ((store?_seek c url).trans hstore) hs
    ((pending_seek c url).trans hpending) bytes

theorem holds_refetch_error (hmap : Store.IsFallibleMap keys R) (hurl : url ∈ keys)
    (hstore : c.store? = some s) (hs : R s m) (hpending : c.pending = []) (e : HostError) :
    (c.refetch url (.error e)).1.flush.Holds R
      (if (Store.remove s url).2.isOk then Function.update m url none else m) := by
  refine ⟨(Store.remove s url).1, ?_, hmap.remove hs hurl⟩
  rw [refetch, store?_download_error ((pending_evict c url).trans hpending), store?_evict hstore]

/-- What was taken away makes no difference, once there is something else. -/
theorem holds_refetch_ok (hmap : Store.IsFallibleMap keys R) (hurl : url ∈ keys)
    (hstore : c.store? = some s) (hs : R s m) (hpending : c.pending = []) (bytes : Bytes) :
    (c.refetch url (.ok bytes)).1.flush.Holds R
      (if (Store.insert (Store.remove s url).1 url bytes).2.isOk then
          Function.update m url (some bytes)
        else if (Store.remove s url).2.isOk then Function.update m url none else m) := by
  have hheld := holds_download_ok hmap hurl (store?_evict hstore url) (hmap.remove hs hurl)
    ((pending_evict c url).trans hpending) bytes
  have hupdate : Function.update
      (if (Store.remove s url).2.isOk then Function.update m url none else m) url (some bytes) =
        Function.update m url (some bytes) := by
    split
    · rw [Function.update_idem]
    · rfl
  rw [hupdate] at hheld
  exact hheld

/-! ## Both calls -/

/-- What the two calls come to when the network gives this answer, and what they download. -/
structure Prefers (c : BinaryCache σ) (url : String) (answer : Except HostError Bytes) : Prop where
  fromCache_iff (bytes : Bytes) :
    (c.fetchWithOrigin url answer).2 = .ok (bytes, .cache) ↔ c.Serves url bytes
  fetches_of_serves {bytes : Bytes} : c.Serves url bytes →
    (c.fetchWithOrigin url answer).1.fetches = c.fetches
  fetches_of_not_serves : (∀ bytes, ¬c.Serves url bytes) →
    (c.fetchWithOrigin url answer).1.fetches = c.fetches + 1
  result_of_not_serves : (∀ bytes, ¬c.Serves url bytes) →
    (c.fetchWithOrigin url answer).2 = answer.map (·, .network)
  fetches_refetch : (c.refetch url answer).1.fetches = c.fetches + 1
  result_refetch : (c.refetch url answer).2 = answer
  error_eq {e : HostError} :
    (c.fetchWithOrigin url answer).2 = .error e ∨ (c.refetch url answer).2 = .error e →
    answer = .error e

/-- What the two calls find in the store `s`, which is the map `m`, and what is in it when
    the copies of what was downloaded are written. -/
structure Leaves (R : σ → (String → Option Bytes) → Prop) (c : BinaryCache σ) (url : String)
    (answer : Except HostError Bytes) (s : σ) (m : String → Option Bytes) : Prop where
  fromCache {bytes : Bytes} : m url = some bytes → (Store.lookup s url).isOk →
    (c.fetchWithOrigin url answer).2 = .ok (bytes, .cache) ∧
      (c.fetchWithOrigin url answer).1.fetches = c.fetches
  fetch_of_serves {bytes : Bytes} : c.pending = [] → c.Serves url bytes →
    (c.fetchWithOrigin url answer).1.flush.store? = some s
  fetch_of_error {e : HostError} : c.pending = [] → answer = .error e →
    (c.fetchWithOrigin url answer).1.flush.store? = some s
  refetch_of_error {e : HostError} : c.pending = [] → answer = .error e →
    (c.refetch url answer).1.flush.Holds R
      (if (Store.remove s url).2.isOk then Function.update m url none else m)
  fetch_of_ok {bytes : Bytes} : c.pending = [] → answer = .ok bytes →
    (∀ bytes, ¬c.Serves url bytes) → (c.fetchWithOrigin url answer).1.flush.Holds R
      (if (Store.insert s url bytes).2.isOk then Function.update m url (some bytes) else m)
  refetch_of_ok {bytes : Bytes} : c.pending = [] → answer = .ok bytes →
    (c.refetch url answer).1.flush.Holds R
      (if (Store.insert (Store.remove s url).1 url bytes).2.isOk then
          Function.update m url (some bytes)
        else if (Store.remove s url).2.isOk then Function.update m url none else m)

theorem prefers (c : BinaryCache σ) (url : String) (answer : Except HostError Bytes) :
    c.Prefers url answer where
  fromCache_iff bytes := by
    refine ⟨serves_of_fetchWithOrigin, fun h => ?_⟩
    rw [fetchWithOrigin_of_serves h]
  fetches_of_serves h := by
    rw [fetchWithOrigin_of_serves h]
    exact fetches_seek c url
  fetches_of_not_serves h := by
    rw [fetchWithOrigin_of_not_serves h]
    exact (fetches_download _ url answer).trans (congrArg (· + 1) (fetches_seek c url))
  result_of_not_serves h := by rw [fetchWithOrigin_of_not_serves h]
  fetches_refetch := (fetches_download _ url answer).trans (congrArg (· + 1) (fetches_evict c url))
  result_refetch := result_download _ url answer
  error_eq he := by
    rcases he with he | he
    · exact error_of_fetchWithOrigin he
    · exact (result_download _ url answer).symm.trans he

theorem leaves (hmap : Store.IsFallibleMap keys R) (hurl : url ∈ keys) (hstore : c.store? = some s)
    (hs : R s m) (answer : Except HostError Bytes) : Leaves R c url answer s m where
  fromCache hbytes hworks := by
    have hserves := Holds.serves hmap hurl hstore hs hbytes hworks
    have hprefers := c.prefers url answer
    exact ⟨(hprefers.fromCache_iff _).2 hserves, hprefers.fetches_of_serves hserves⟩
  fetch_of_serves hpending h := (store?_of_serves h hpending answer).trans hstore
  fetch_of_error {e} hpending he := by
    rw [he]
    exact (store?_fetchWithOrigin_error hpending url e).trans hstore
  refetch_of_error {e} hpending he := by
    rw [he]
    exact holds_refetch_error hmap hurl hstore hs hpending e
  fetch_of_ok {bytes} hpending hbytes h := by
    rw [hbytes]
    exact holds_fetchWithOrigin_ok hmap hurl hstore hs hpending h bytes
  refetch_of_ok {bytes} hpending hbytes := by
    rw [hbytes]
    exact holds_refetch_ok hmap hurl hstore hs hpending bytes

/-- For every store, whatever it holds and whichever of its operations fail, and for every
    answer of the network. What the store finds is got from it, without a download, and
    only that is said to come from it. Otherwise there is one download, which decides, and
    to get a binary anew there always is. So an error is one of the download.

    Let the store be a map. Whenever it works and has bytes under an address, these are got
    from it, without a download. Let nothing else be still to be written, too. What was
    found, or a download that fails, leaves the store as it is, but before a binary is had
    anew what was there is taken away, if that goes well. A download is put under its
    address, if that goes well, for the next call to find. What is under other addresses is
    never touched. -/
theorem cache_first (c : BinaryCache σ) (url : String) (answer : Except HostError Bytes) :
    c.Prefers url answer ∧
    ∀ (keys : Set String) (R : σ → (String → Option Bytes) → Prop),
      Store.IsFallibleMap keys R → url ∈ keys →
    ∀ s m, c.store? = some s → R s m → Leaves R c url answer s m :=
  ⟨c.prefers url answer, fun _ _ hmap hurl _ _ hstore hs => leaves hmap hurl hstore hs answer⟩

/-- What is of no use is in a store that can be neither cleared nor written. It stays
    there, and is found the next time. -/
theorem cache_first_of_corrupt :
    (Bootstrap.corrupt.refetch "u" (.ok [1])).2 = .ok [1] ∧
      (Bootstrap.corrupt.refetch "u" (.ok [1])).1.fetches = 1 ∧
      (Bootstrap.corrupt.refetch "u" (.ok [1])).1.flush.Holds (fun s m => s.store.get? = m)
        (MemoryStore.empty.insert "u" [0]).get? ∧
      (Bootstrap.corrupt.fetchWithOrigin "u" (.ok [1])).2 = .ok ([0], .cache) := by
  obtain ⟨hprefers, hstore⟩ := cache_first Bootstrap.corrupt "u" (.ok [1])
  have hleaves := hstore _ _ MemoryStore.isMap.fallible.faulty (Set.mem_univ "u") _ _ rfl rfl
  exact ⟨hprefers.result_refetch, hprefers.fetches_refetch, hleaves.refetch_of_ok rfl rfl,
    (hleaves.fromCache rfl rfl).1⟩

end Playpen.BinaryCache
