import Playpen.Proofs.Attempts
import Playpen.Proofs.FaultFree

/-!
# Calls one after another

When every call has come to its end before the next, a call asks nothing or makes one
run of both halves (`Runner.inTurn_cases`). With a store without faults that run leaves
in the store what was downloaded (`Bootstrap.run_map`). So a binary that was downloaded
once, and loads, is found from then on (`Runner.downloads_once`).
-/

namespace Playpen

variable {σ : Type} [Store σ] {keys : Set String} {R : σ → (String → Option Bytes) → Prop}

namespace Bootstrap

variable {load : Loader} {url : String} {c c' : BinaryCache σ} {s : σ}
  {m : String → Option Bytes} {answer : Except HostError Bytes}
  {outcome : Except HostError Interpreter}

/-! ## What one run leaves in the store -/

/-- In the first half what does not load is taken away. -/
theorem begin_map (hmap : Store.IsMap keys R) (hurl : url ∈ keys) (hstore : c.store? = some s)
    (hs : R s m) {made? : Option Interpreter} (h : begin load url c = (c', made?)) :
    (∃ bytes i, m url = some bytes ∧ load bytes = .ok i ∧ made? = some i ∧ c'.store? = some s) ∨
    (∀ bytes i, m url = some bytes → load bytes ≠ .ok i) ∧ made? = none ∧
      ∃ s', c'.store? = some s' ∧ R s' (Function.update m url none) := by
  rw [begin, BinaryCache.seek_of_isMap hmap hurl hstore hs] at h
  cases hfound : m url with
  | none =>
    rw [hfound] at h
    obtain ⟨rfl, rfl⟩ := Prod.mk.inj h
    refine .inr ⟨by simp, rfl, s, hstore, ?_⟩
    rwa [← hfound, Function.update_eq_self]
  | some bytes =>
    rw [hfound] at h
    dsimp only [consider] at h
    cases hload : load bytes with
    | ok i =>
      rw [hload] at h
      obtain ⟨rfl, rfl⟩ := Prod.mk.inj h
      exact .inl ⟨bytes, i, rfl, hload, rfl, hstore⟩
    | error fault =>
      rw [hload] at h
      obtain ⟨rfl, rfl⟩ := Prod.mk.inj h
      obtain ⟨s', hevict, hs'⟩ := BinaryCache.evict_of_isMap
        (c := c.record (.lookup url)) hmap hurl hstore hs
      refine .inr ⟨fun bytes' i hbytes => ?_, rfl, s', ?_, hs'⟩
      · obtain rfl := Option.some.inj hbytes
        simp [hload]
      · rw [hevict]

/-- What the store holds is used if it loads. In every other case there is one download,
    and it takes the place of what the store held, even if it fails. -/
theorem run_map (hmap : Store.IsMap keys R) (hurl : url ∈ keys) (hstore : c.store? = some s)
    (hs : R s m) (hpending : c.pending = []) (h : run load url c answer = (c', outcome)) :
    ∃ s' m', c'.flush.store? = some s' ∧ R s' m' ∧
      ((∃ bytes i, m url = some bytes ∧ load bytes = .ok i ∧ c'.flush.fetches = c.fetches ∧
          m' = m) ∨
        (∀ bytes i, m url = some bytes → load bytes ≠ .ok i) ∧
          c'.flush.fetches = c.fetches + 1 ∧ m' = Function.update m url answer.toOption) := by
  obtain ⟨c₁, made?, hbegin⟩ : ∃ c₁ made?, begin load url c = (c₁, made?) := ⟨_, _, rfl⟩
  have hfetches := (begin_cases hbegin).1
  have hpending₁ := (pending_begin hbegin).trans hpending
  rw [run, hbegin] at h
  rw [BinaryCache.fetches_flush]
  rcases begin_map hmap hurl hstore hs hbegin with ⟨bytes, i, hfound, hload, rfl, hstore₁⟩ |
    ⟨hnone, rfl, s₁, hstore₁, hs₁⟩
  · obtain ⟨rfl, rfl⟩ := Prod.mk.inj h
    rw [BinaryCache.flush_of_nil hpending₁]
    exact ⟨s, m, hstore₁, hs, .inl ⟨bytes, i, hfound, hload, hfetches, rfl⟩⟩
  · dsimp only at h
    rw [complete_eq] at h
    obtain ⟨rfl, rfl⟩ := Prod.mk.inj h
    have hcount : ((c₁.request url).receive url answer).1.fetches = c.fetches + 1 := by
      rw [BinaryCache.fetches_receive]
      exact (BinaryCache.fetches_record c₁ _).trans (congrArg (· + 1) hfetches)
    rw [hcount]
    have hrequest : (c₁.request url).store? = some s₁ := hstore₁
    have hpending₂ : (c₁.request url).pending = [] := hpending₁
    cases answer with
    | error e =>
      have hflush : ((c₁.request url).receive url (.error e)).1.flush = c₁.request url :=
        BinaryCache.flush_of_nil hpending₂
      rw [hflush]
      exact ⟨s₁, _, hrequest, hs₁, .inr ⟨hnone, rfl, rfl⟩⟩
    | ok bytes =>
      obtain ⟨s₂, hwrite, hs₂⟩ :=
        BinaryCache.writeCopy_of_isMap hmap hurl hrequest hs₁ bytes
      rw [BinaryCache.flush_receive hrequest hpending₂, hwrite]
      refine ⟨s₂, _, rfl, hs₂, .inr ⟨hnone, rfl, ?_⟩⟩
      exact Function.update_idem _ _ _

end Bootstrap

namespace Runner

variable {r : Runner σ} {network : Nat → Except HostError Bytes}

/-! ## One call -/

/-- Nothing goes on: all calls have come to their end. -/
structure Idle (r : Runner σ) : Prop where
  slot {attempt : Nat} : r.lifecycle.slot ≠ .starting attempt
  preloads : r.preloads = 0
  opening : r.opening = []
  downloads : r.downloads = []
  pending : r.cache.pending = []
  requested : r.requested = r.cache.fetches

omit [Store σ] in
theorem Idle.create (settings : Settings) (decode : Bytes → Option Image) (store? : Option σ) :
    Idle (.create settings decode (.ofStore? store?)) where
  slot := nofun
  preloads := rfl
  opening := rfl
  downloads := rfl
  pending := rfl
  requested := rfl

/-- What a call has come to that was made of an idle runner: nothing was asked, or one
    run of both halves was made and its copy written. -/
structure Turned (network : Nat → Except HostError Bytes) (r r' : Runner σ) : Prop where
  idle : r'.Idle
  settings : r'.settings = r.settings
  decode : r'.decode = r.decode
  cache : r'.cache = r.cache ∨ ∃ c outcome,
    Bootstrap.run r.load r.settings.binaryUrl r.cache (network r.cache.fetches) = (c, outcome) ∧
      r'.cache = c.flush

namespace Idle

/-- Nobody asks. -/
theorem turned (hr : r.Idle) : Turned network r (r.settle fun n => some (network n)) := by
  rw [settle_of_nil hr.preloads hr.opening hr.downloads]
  exact ⟨hr, rfl, rfl, .inl rfl⟩

/-- Someone asks for the interpreter. -/
theorem turned_acquire (hr : r.Idle) :
    Turned network r (r.acquire.settle fun n => some (network n)) := by
  cases hslot : r.lifecycle.slot with
  | starting attempt => exact absurd hslot hr.slot
  | ready h =>
    -- The interpreter is there.
    have hacquire : r.acquire = { r with lifecycle := r.lifecycle.acquire } := by
      rw [acquire, Lifecycle.acquire_of_ready hslot, if_neg (Nat.lt_irrefl _)]
    have hslot' : r.lifecycle.acquire.slot = .ready h := by
      rw [Lifecycle.acquire_of_ready hslot]
      exact hslot
    rw [hacquire]
    have hr' : Idle { r with lifecycle := r.lifecycle.acquire } :=
      ⟨by simp [hslot'], hr.preloads, hr.opening, hr.downloads, hr.pending, hr.requested⟩
    have ht : Turned network { r with lifecycle := r.lifecycle.acquire } _ := hr'.turned
    exact ⟨ht.idle, ht.settings, ht.decode, ht.cache⟩
  | vacant =>
    obtain ⟨c, outcome, hrun, hsettle⟩ := @settle_acquire _ _ r (fun n => some (network n)) _
      hslot hr.preloads hr.opening hr.downloads hr.pending rfl
    rw [hr.requested] at hrun
    rw [hsettle]
    have hle : r.cache.fetches ≤ c.fetches := by
      rcases Bootstrap.run_cases hrun with ⟨_, _, _, _, _, hfetches⟩ | ⟨_, _, hfetches⟩ <;> omega
    refine ⟨⟨fun {attempt} => ?_, hr.preloads, hr.opening, hr.downloads,
      BinaryCache.pending_flush c, ?_⟩, rfl, rfl, .inr ⟨c, outcome, hrun, rfl⟩⟩
    · rw [Ne, Lifecycle.slot_complete_eq_starting, Lifecycle.acquire_of_vacant hslot]
      rintro ⟨hstarting, hne⟩
      exact hne (Slot.starting.inj hstarting).symm
    · rw [BinaryCache.fetches_flush, hr.requested]
      exact Nat.add_sub_cancel' hle

/-- Someone asks for the interpreter in the background. -/
theorem turned_preload (hr : r.Idle) (hslot : r.lifecycle.slot = .vacant) :
    Turned network r
      (({ r with preloads := r.preloads + 1 } : Runner σ).settle fun n => some (network n)) := by
  have hask : ({ r with preloads := r.preloads + 1 } : Runner σ).askPreloads = r.acquire := by
    have hself : ({ r with preloads := 0 } : Runner σ) = r := by rw [← hr.preloads]
    have hone : ({ r with preloads := r.preloads + 1 } : Runner σ).askPreloads =
        ({ r with preloads := 0 } : Runner σ).preload := by
      rw [askPreloads, hr.preloads]
      rfl
    rw [hone, hself, preload, acquire_of_vacant hslot, hr.opening]
    -- One attempt goes on, whether it is waited for or not.
    dsimp only [List.nil_append]
    cases hawaits : r.lifecycle.acquire.slot.awaits (r.lifecycle.starts + 1) with
    | true => simp [hawaits]
    | false => simp [hawaits]
  have hsettle : ({ r with preloads := r.preloads + 1 } : Runner σ).settle
      (fun n => some (network n)) = r.acquire.settle fun n => some (network n) := by
    have hpreloads : r.acquire.preloads = 0 := by
      rw [acquire_of_vacant hslot]
      exact hr.preloads
    rw [settle, settle, hask, askPreloads_of_zero hpreloads]
  rw [hsettle]
  exact hr.turned_acquire

/-- A call of an idle runner asks nothing, or makes one run of both halves. -/
theorem turned_call (hr : r.Idle) (call : Call) : Turned network r (r.inTurn network call) := by
  cases call with
  | start => exact hr.turned_acquire
  | reset =>
    have hclear : r.clear.Idle :=
      ⟨nofun, hr.preloads, hr.opening, hr.downloads, hr.pending, hr.requested⟩
    have ht : Turned network r.clear _ := hclear.turned_acquire
    exact ⟨ht.idle, ht.settings, ht.decode, ht.cache⟩
  | preload background =>
    rw [inTurn, call]
    split
    · rename_i hpreload
      refine hr.turned_preload ?_
      cases hslot : r.lifecycle.slot with
      | vacant => rfl
      | starting attempt => exact absurd hslot hr.slot
      | ready h => simp [state, hslot] at hpreload
    · exact hr.turned
  | execute source input? timeout? =>
    rw [inTurn, call]
    split
    · exact hr.turned
    · exact hr.turned_acquire
  | checkSyntax source => exact hr.turned

end Idle

/-! ## Many calls -/

/-- What holds between calls if the store is a map without faults and all that is
    downloaded loads: every download but the last has failed, and so has the last one
    unless the store holds a binary that loads. -/
structure Kept (R : σ → (String → Option Bytes) → Prop) (network : Nat → Except HostError Bytes)
    (r : Runner σ) : Prop where
  idle : r.Idle
  before {n : Nat} : n + 1 < r.requested → ∃ e, network n = .error e
  held : ∃ s m, r.cache.store? = some s ∧ R s m ∧
    ((∀ n, n < r.requested → ∃ e, network n = .error e) ∨
      ∃ bytes i, m r.settings.binaryUrl = some bytes ∧ r.load bytes = .ok i)

namespace Kept

omit [Store σ] in
theorem create {settings : Settings} {s : σ} {m : String → Option Bytes} (hs : R s m)
    (decode : Bytes → Option Image) :
    Kept R network (create settings decode (.ofStore? (some s))) where
  idle := .create settings decode (some s)
  before := nofun
  held := ⟨s, m, rfl, hs, .inl nofun⟩

/-- A call is taken, and comes to its end. -/
theorem inTurn (h : Kept R network r) (hmap : Store.IsMap keys R)
    (hurl : r.settings.binaryUrl ∈ keys)
    (hloads : ∀ n bytes, network n = .ok bytes → ∃ i, r.load bytes = .ok i) (call : Call) :
    Kept R network (r.inTurn network call) := by
  obtain ⟨s, m, hstore, hs, hheld⟩ := h.held
  have ht : Turned network r _ := h.idle.turned_call call
  have hload : (r.inTurn network call).load = r.load := by
    funext bytes
    rw [load, load, ht.settings, ht.decode]
  have hrequested := h.idle.requested
  rcases ht.cache with hcache | ⟨c, outcome, hrun, hcache⟩
  · have hsame : (r.inTurn network call).requested = r.requested := by
      rw [ht.idle.requested, hcache, hrequested]
    refine ⟨ht.idle, fun hn => h.before (hsame ▸ hn), s, m, hcache ▸ hstore, hs, ?_⟩
    rw [hsame, ht.settings, hload]
    exact hheld
  obtain ⟨s', m', hstore', hs', hcases⟩ := Bootstrap.run_map hmap hurl hstore hs h.idle.pending hrun
  rw [← hcache] at hstore' hcases
  rw [← ht.idle.requested, ← hrequested] at hcases
  rcases hcases with ⟨bytes, i, hfound, hloaded, hsame, rfl⟩ | ⟨hnone, hmore, rfl⟩
  · refine ⟨ht.idle, fun hn => h.before (hsame ▸ hn), s', m', hstore', hs', .inr ?_⟩
    rw [ht.settings, hload]
    exact ⟨bytes, i, hfound, hloaded⟩
  · -- What the store held does not load, so no download has succeeded yet.
    have hfailed : ∀ n, n < r.requested → ∃ e, network n = .error e := by
      rcases hheld with hfailed | ⟨bytes, i, hfound, hloaded⟩
      · exact hfailed
      · exact absurd hloaded (hnone bytes i hfound)
    refine ⟨ht.idle, fun hn => hfailed _ (by omega), s', _, hstore', hs', ?_⟩
    rw [hmore, ht.settings, hload]
    cases hanswer : network r.requested with
    | error e =>
      left
      intro n hn
      rcases Nat.lt_succ_iff_lt_or_eq.1 hn with hn | rfl
      · exact hfailed n hn
      · exact ⟨e, hanswer⟩
    | ok bytes =>
      obtain ⟨i, hloaded⟩ := hloads _ bytes hanswer
      exact .inr ⟨bytes, i, Function.update_self .., hloaded⟩

end Kept

theorem kept_inTurns (h : Kept R network r) (hmap : Store.IsMap keys R)
    (hurl : r.settings.binaryUrl ∈ keys)
    (hloads : ∀ n bytes, network n = .ok bytes → ∃ i, r.load bytes = .ok i) (calls : List Call) :
    Kept R network (r.inTurns network calls) := by
  induction calls generalizing r with
  | nil => exact h
  | cons call calls ih =>
    have ht : Turned network r _ := h.idle.turned_call call
    refine ih (h.inTurn hmap hurl hloads call) (ht.settings ▸ hurl) fun n bytes hn => ?_
    rw [load, ht.settings, ht.decode]
    exact hloads n bytes hn

/-- Calls are made one after another of a runner whose store is a map without faults and
    holds anything at first, and whatever is downloaded loads. Then at most one download
    succeeds, and none is asked for after that. -/
theorem downloads_once (hmap : Store.IsMap keys R) {settings : Settings}
    (hurl : settings.binaryUrl ∈ keys) {s : σ} {m : String → Option Bytes} (hs : R s m)
    {decode : Bytes → Option Image}
    (hloads : ∀ n bytes, network n = .ok bytes →
      ∃ i, Interpreter.load settings (decode bytes) = .ok i) (calls : List Call) :
    ∃ r : Runner σ,
      (create settings decode (.ofStore? (some s))).inTurns network calls = r ∧
      r.cache.fetches = r.requested ∧
      (∀ n k a b, n < r.requested → k < r.requested → network n = .ok a → network k = .ok b →
        n = k) ∧
      ∀ n bytes, n < r.requested → network n = .ok bytes → r.requested = n + 1 := by
  have hstart : Kept R network (.create settings decode (.ofStore? (some s))) :=
    .create hs decode
  have hkept := kept_inTurns hstart hmap hurl hloads calls
  have hlast : ∀ n bytes, n < _ → network n = .ok bytes → _ = n + 1 := fun n bytes hn hok => by
    by_contra hne
    obtain ⟨e, he⟩ := hkept.before (Nat.lt_of_le_of_ne hn (Ne.symm hne))
    cases he.symm.trans hok
  refine ⟨_, rfl, hkept.idle.requested.symm, fun n k a b hn hk ha hb => ?_, hlast⟩
  exact Nat.succ_injective ((hlast n a hn ha).symm.trans (hlast k b hk hb))

/-- Only the byte 1 is a binary, of an interpreter that does nothing. -/
def decodeOne (bytes : Bytes) : Option Image :=
  if bytes = [1] then some ⟨some (.function 0 0), none, true, fun _ => .halt .returned⟩ else none

/-- The first download fails, and all others deliver a binary. -/
def secondDelivers : Nat → Except HostError Bytes
  | 0 => .error (.fetch "u" "gone")
  | _ => .ok [1]

/-- In the store there is something that does not load. The first call finds it and fails
    to download anything else, the second one does, and then nothing is downloaded. -/
theorem downloads_once_of_corrupt : ∃ r : Runner MemoryStore,
    (create { binaryUrl := "u" } decodeOne
      (.ofStore? (some (MemoryStore.empty.insert "u" [0])))).inTurns secondDelivers
      [.start, .preload true, .reset, .execute "1" none none, .start] = r ∧
    r.requested = 2 := by
  have hloads (n : Nat) (bytes : Bytes) (hn : secondDelivers n = .ok bytes) :
      ∃ i, Interpreter.load { binaryUrl := "u" } (decodeOne bytes) = .ok i := by
    cases n with
    | zero => cases hn
    | succ n =>
      obtain rfl := Except.ok.inj hn
      exact ⟨_, rfl⟩
  obtain ⟨r, hr, -, -, hlast⟩ := downloads_once MemoryStore.isMap (Set.mem_univ _) rfl hloads
    [.start, .preload true, .reset, .execute "1" none none, .start]
  refine ⟨r, hr, hlast 1 [1] ?_ rfl⟩
  rw [← hr]
  decide

end Runner

end Playpen
