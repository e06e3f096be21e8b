import Playpen.Bootstrap
import Playpen.Store.Memory

/-!
# Nothing in the store keeps the interpreter from being had

A store may hold anything, and each of its operations may fail. To get an
interpreter it is asked once, and what it serves is used if it loads; in every
other case there is one download, and what that comes to decides (`run_cases`).
So only a download can fail (`run_recovers`).

This is to get the binary with its origin, and to get it anew if it does not load
and came from the store (`run_eq_retrying`).
-/

namespace Playpen

/-- The network is asked. -/
def Access.isFetch : Access → Bool
  | .fetch _ => true
  | _ => false

namespace BinaryCache

variable {σ : Type} [Store σ]

/-! ## Downloads that are asked for -/

omit [Store σ] in
theorem fetches_record (c : BinaryCache σ) (a : Access) :
    (c.record a).fetches = c.fetches + a.isFetch.toNat := by
  rw [fetches, record, List.countP_append]
  cases a <;> rfl

theorem fetches_seek (c : BinaryCache σ) (url : String) : (c.seek url).1.fetches = c.fetches := by
  rw [seek]
  split
  · rfl
  · exact fetches_record c (.lookup url)

theorem fetches_evict (c : BinaryCache σ) (url : String) : (c.evict url).fetches = c.fetches := by
  rw [evict]
  split
  · rfl
  · exact fetches_record c (.remove url)

omit [Store σ] in
theorem fetches_receive (c : BinaryCache σ) (url : String) (answer : Except HostError Bytes) :
    (c.receive url answer).1.fetches = c.fetches := by
  cases answer with
  | error e => rfl
  | ok bytes =>
    rw [receive]
    split <;> rfl

theorem fetches_writeCopy (c : BinaryCache σ) (copy : String × Bytes) :
    (c.writeCopy copy).fetches = c.fetches := by
  rw [writeCopy]
  split
  · rfl
  · exact fetches_record c (.insert copy.1)

theorem pending_seek (c : BinaryCache σ) (url : String) : (c.seek url).1.pending = c.pending := by
  rw [seek]
  split <;> rfl

theorem pending_evict (c : BinaryCache σ) (url : String) :
    (c.evict url).pending = c.pending := by
  rw [evict]
  split <;> rfl

/-- Where there are no copies to be written nothing is done. -/
theorem flush_of_nil {c : BinaryCache σ} (h : c.pending = []) : c.flush = c := by
  obtain ⟨store?, pending, accesses⟩ := c
  obtain rfl : pending = [] := h
  rfl

/-- The copy of a download is all that is to be written. -/
theorem flush_receive {c : BinaryCache σ} {s : σ} {url : String} {bytes : Bytes}
    (hstore : c.store? = some s) (hpending : c.pending = []) :
    (c.receive url (.ok bytes)).1.flush = c.writeCopy (url, bytes) := by
  obtain ⟨store?, pending, accesses⟩ := c
  obtain rfl : store? = some s := hstore
  obtain rfl : pending = [] := hpending
  rfl

theorem pending_writeCopy (c : BinaryCache σ) (copy : String × Bytes) :
    (c.writeCopy copy).pending = c.pending := by
  rw [writeCopy]
  split <;> rfl

/-- All copies are written. -/
theorem pending_flush (c : BinaryCache σ) : c.flush.pending = [] := by
  have hfold (copies : List (String × Bytes)) (c : BinaryCache σ) :
      (copies.foldl writeCopy c).pending = c.pending := by
    induction copies generalizing c with
    | nil => rfl
    | cons copy copies ih => exact (ih _).trans (pending_writeCopy c copy)
  exact hfold c.pending { c with pending := [] }

/-- Copies are written without asking for anything again. -/
theorem fetches_flush (c : BinaryCache σ) : c.flush.fetches = c.fetches := by
  have hfold (copies : List (String × Bytes)) (c : BinaryCache σ) :
      (copies.foldl writeCopy c).fetches = c.fetches := by
    induction copies generalizing c with
    | nil => rfl
    | cons copy copies ih => exact (ih _).trans (fetches_writeCopy c copy)
  exact hfold c.pending { c with pending := [] }

/-! ## What the store serves -/

/-- There is a store, and it finds these bytes. -/
def Serves (c : BinaryCache σ) (url : String) (bytes : Bytes) : Prop :=
  ∃ s, c.store? = some s ∧ Store.lookup s url = .ok (some bytes)

theorem seek_eq_some_iff {c : BinaryCache σ} {url : String} {bytes : Bytes} :
    (c.seek url).2 = some bytes ↔ c.Serves url bytes := by
  rw [seek]
  cases hs : c.store? with
  | none => exact iff_of_false nofun fun ⟨_, h, _⟩ => nomatch hs.symm.trans h
  | some s =>
    simp only [Serves, hs, Option.some.injEq, exists_eq_left']
    cases Store.lookup s url with
    | error e => exact iff_of_false nofun nofun
    | ok found? => exact ⟨congrArg Except.ok, Except.ok.inj⟩

theorem Serves.unique {c : BinaryCache σ} {url : String} {bytes bytes' : Bytes}
    (h : c.Serves url bytes) (h' : c.Serves url bytes') : bytes = bytes' :=
  Option.some.inj ((seek_eq_some_iff.2 h).symm.trans (seek_eq_some_iff.2 h'))

end BinaryCache

namespace Bootstrap

variable {σ : Type} [Store σ] {load : Loader} {url : String} {c : BinaryCache σ}
  {answer : Except HostError Bytes}

/-! ## Both halves -/

/-- What comes of a download. -/
def downloaded (load : Loader) : Except HostError Bytes → Except HostError Interpreter
  | .error e => .error e
  | .ok bytes => (load bytes).mapError LoadFault.error

theorem downloaded_ok {bytes : Bytes} {i : Interpreter} (h : load bytes = .ok i) :
    downloaded load (.ok bytes) = .ok i := by
  rw [downloaded, h]
  rfl

theorem error_of_downloaded {e : HostError} (h : downloaded load answer = .error e) :
    answer = .error e ∨
      ∃ bytes fault, answer = .ok bytes ∧ load bytes = .error fault ∧ e = fault.error := by
  cases answer with
  | error e' => exact .inl (congrArg Except.error (Except.error.inj h))
  | ok bytes =>
    rw [downloaded] at h
    cases hload : load bytes with
    | ok i =>
      rw [hload] at h
      exact nomatch h
    | error fault =>
      rw [hload] at h
      exact .inr ⟨bytes, fault, rfl, hload, (Except.error.inj h).symm⟩

omit [Store σ] in
/-- Whatever has become of the store meanwhile, only the answer counts. -/
theorem complete_eq (load : Loader) (url : String) (c : BinaryCache σ)
    (answer : Except HostError Bytes) :
    complete load url c answer = ((c.receive url answer).1, downloaded load answer) := by
  cases answer <;> rfl

/-- Nothing is downloaded in the first half, which comes to what the store serves
    if that loads. -/
theorem begin_cases {c' : BinaryCache σ} {made? : Option Interpreter}
    (h : begin load url c = (c', made?)) :
    c'.fetches = c.fetches ∧
    ((∃ bytes i, c.Serves url bytes ∧ load bytes = .ok i ∧ made? = some i) ∨
      (∀ bytes i, c.Serves url bytes → load bytes ≠ .ok i) ∧ made? = none) := by
  have hfetches := BinaryCache.fetches_seek c url
  have hserves {bytes : Bytes} := @BinaryCache.seek_eq_some_iff σ _ c url bytes
  rw [begin] at h
  generalize c.seek url = sought at h hfetches hserves
  obtain ⟨c₁, found?⟩ := sought
  dsimp only at h hfetches hserves
  cases found? with
  | none =>
    obtain ⟨rfl, rfl⟩ := Prod.mk.inj h
    exact ⟨hfetches, .inr ⟨fun _ _ hbytes => (nomatch hserves.2 hbytes), rfl⟩⟩
  | some bytes =>
    have hbytes := hserves.1 rfl
    rw [consider] at h
    cases hload : load bytes with
    | ok i =>
      rw [hload] at h
      obtain ⟨rfl, rfl⟩ := Prod.mk.inj h
      exact ⟨hfetches, .inl ⟨bytes, i, hbytes, hload, rfl⟩⟩
    | error fault =>
      rw [hload] at h
      obtain ⟨rfl, rfl⟩ := Prod.mk.inj h
      -- Nothing else is served that could load.
      refine ⟨(BinaryCache.fetches_evict c₁ url).trans hfetches,
        .inr ⟨fun bytes' i hbytes' => ?_, rfl⟩⟩
      obtain rfl := hbytes.unique hbytes'
      rw [hload]
      exact nofun

/-- In the first half there is nothing to be written. -/
theorem pending_begin {c' : BinaryCache σ} {made? : Option Interpreter}
    (h : begin load url c = (c', made?)) : c'.pending = c.pending := by
  have hseek := BinaryCache.pending_seek c url
  rw [begin] at h
  generalize c.seek url = sought at h hseek
  obtain ⟨c₁, found?⟩ := sought
  dsimp only [consider] at h hseek
  split at h
  · obtain ⟨rfl, -⟩ := Prod.mk.inj h
    exact hseek
  · split at h
    · obtain ⟨rfl, -⟩ := Prod.mk.inj h
      exact hseek
    · obtain ⟨rfl, -⟩ := Prod.mk.inj h
      exact (BinaryCache.pending_evict c₁ url).trans hseek

/-- What the store serves loads, or one download decides. -/
theorem run_cases {c' : BinaryCache σ} {outcome : Except HostError Interpreter}
    (h : run load url c answer = (c', outcome)) :
    (∃ bytes i, c.Serves url bytes ∧ load bytes = .ok i ∧ outcome = .ok i ∧
      c'.fetches = c.fetches) ∨
    (∀ bytes i, c.Serves url bytes → load bytes ≠ .ok i) ∧
      outcome = downloaded load answer ∧ c'.fetches = c.fetches + 1 := by
  obtain ⟨c₁, made?, hbegin⟩ : ∃ c₁ made?, begin load url c = (c₁, made?) := ⟨_, _, rfl⟩
  rw [run, hbegin] at h
  obtain ⟨hfetches, ⟨bytes, i, hserves, hload, rfl⟩ | ⟨hnone, rfl⟩⟩ := begin_cases hbegin
  · obtain ⟨rfl, rfl⟩ := Prod.mk.inj h
    exact .inl ⟨bytes, i, hserves, hload, rfl, hfetches⟩
  · dsimp only at h
    rw [complete_eq] at h
    obtain ⟨rfl, rfl⟩ := Prod.mk.inj h
    refine .inr ⟨hnone, rfl, (BinaryCache.fetches_receive _ url answer).trans ?_⟩
    exact (BinaryCache.fetches_record c₁ (.fetch url)).trans (congrArg (· + 1) hfetches)

/-! ## Getting a binary anew -/

/-- Gets a binary, and gets it anew if it does not load and came from the store. -/
def retrying (load : Loader) (url : String) (c : BinaryCache σ)
    (answer : Except HostError Bytes) : BinaryCache σ × Except HostError Interpreter :=
  match c.fetchWithOrigin url answer with
  | (c, .error e) => (c, .error e)
  | (c, .ok (bytes, origin)) =>
    match load bytes, origin with
    | .ok i, _ => (c, .ok i)
    | .error fault, .network => (c, .error fault.error)
    | .error _, .cache =>
      match c.refetch url answer with
      | (c, .error e) => (c, .error e)
      | (c, .ok bytes) => (c, (load bytes).mapError LoadFault.error)

theorem run_eq_retrying : run load url c answer = retrying load url c answer := by
  rw [run, begin, retrying, BinaryCache.fetchWithOrigin]
  generalize c.seek url = sought
  obtain ⟨c₁, _ | bytes⟩ := sought
  · -- Nothing is found, so what is downloaded comes from the network and is final.
    cases answer with
    | error e => rfl
    | ok bytes =>
      dsimp only [consider]
      rw [complete_eq, downloaded]
      dsimp only [BinaryCache.download, BinaryCache.receive, Except.map]
      cases load bytes <;> rfl
  · dsimp only [consider]
    cases load bytes <;> rfl

/-! ## Recovery -/

/-- Whatever the store holds and whichever of its operations fail, there is at most
    one download. What the store serves is used if it loads, and if there is a
    download it is used if it arrives and loads. To fail takes a download, and the
    error is that of the download or of loading what was downloaded. So a store
    cannot make this fail when the network would not. -/
theorem run_recovers (load : Loader) (url : String) (c : BinaryCache σ)
    (answer : Except HostError Bytes) :
    ∃ c' outcome, run load url c answer = (c', outcome) ∧
      c'.flush.fetches = c'.fetches ∧ c'.fetches ≤ c.fetches + 1 ∧
      (∀ bytes i, c.Serves url bytes → load bytes = .ok i →
        outcome = .ok i ∧ c'.fetches = c.fetches) ∧
      (∀ bytes i, c'.fetches = c.fetches + 1 → answer = .ok bytes → load bytes = .ok i →
        outcome = .ok i) ∧
      (∀ e, outcome = .error e → c'.fetches = c.fetches + 1 ∧
        (answer = .error e ∨
          ∃ bytes fault, answer = .ok bytes ∧ load bytes = .error fault ∧ e = fault.error)) ∧
      ∀ bytes i, answer = .ok bytes → load bytes = .ok i → ∃ i', outcome = .ok i' := by
  have hdownloaded {bytes : Bytes} {i : Interpreter} (hbytes : answer = .ok bytes)
      (hload : load bytes = .ok i) : downloaded load answer = .ok i :=
    hbytes ▸ downloaded_ok hload
  obtain ⟨c', outcome, hrun⟩ : ∃ c' outcome, run load url c answer = (c', outcome) :=
    ⟨_, _, rfl⟩
  refine ⟨c', outcome, hrun, BinaryCache.fetches_flush c', ?_⟩
  rcases run_cases hrun with ⟨bytes, i, hserves, hload, rfl, hfetches⟩ | ⟨hnone, rfl, hfetches⟩
  · -- There was no download.
    have hne : c'.fetches ≠ c.fetches + 1 := by omega
    refine ⟨by omega, fun bytes' i' hserves' hload' => ?_, fun _ _ h => absurd h hne, nofun,
      fun _ _ _ _ => ⟨i, rfl⟩⟩
    obtain rfl := hserves.unique hserves'
    rw [Except.ok.inj (hload.symm.trans hload')]
    exact ⟨rfl, hfetches⟩
  · refine ⟨by omega, fun bytes i hserves hload => absurd hload (hnone bytes i hserves),
      fun bytes i _ => hdownloaded, fun e he => ⟨hfetches, error_of_downloaded he⟩,
      fun bytes i hbytes hload => ⟨i, hdownloaded hbytes hload⟩⟩

/-- Bytes that start with zero do not load. -/
def loadNonzero : Loader
  | 0 :: _ => .error .malformed
  | _ => .ok ⟨⟨none, none, true, fun _ => .spin⟩, [], 0⟩

/-- A store of bytes that do not load, which can be neither dropped nor replaced. -/
def corrupt : BinaryCache (Faulty MemoryStore) :=
  .ofStore? (some
    { store := MemoryStore.empty.insert "u" [0], faults := { insert := true, remove := true } })

/-- Nothing can be done about what is stored, and what is downloaded is used. -/
theorem run_recovers_of_corrupt : ∃ c' outcome,
    run loadNonzero "u" corrupt (.ok [1]) = (c', outcome) ∧ corrupt.Serves "u" [0] ∧
      c'.fetches ≤ corrupt.fetches + 1 ∧ ∃ i, outcome = .ok i := by
  obtain ⟨c', outcome, hrun, -, hle, -, -, -, hok⟩ := run_recovers loadNonzero "u" corrupt (.ok [1])
  exact ⟨c', outcome, hrun, ⟨_, rfl, rfl⟩, hle, hok [1] _ rfl rfl⟩

end Bootstrap

end Playpen
