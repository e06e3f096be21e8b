import Playpen.Proofs.CacheFirst
import Playpen.Proofs.Runs
import Playpen.Supply

/-!
# Where stored binaries come from

Copies of downloads are written late and in any order, also after what is under their
address has been dropped, so a download may be found again long after another has replaced
it. But it is always found under its own address: what the store holds, what is to be
written to it and what is got from it was there at first or was downloaded from that
address (`Supply.provenance`). The invariant says so of the store and of the copies to be
written together (`BinaryCache.Comes`).
-/

namespace Playpen

namespace BinaryCache

variable {σ : Type} {c : BinaryCache σ} {keys : Set String}
  {R : σ → (String → Option Bytes) → Prop} {K K' : String → Bytes → Prop} {url : String}

/-- What the store holds and what is to be written to it is right, as `K` tells. -/
structure Comes (keys : Set String) (R : σ → (String → Option Bytes) → Prop)
    (K : String → Bytes → Prop) (c : BinaryCache σ) : Prop where
  held : ∃ m, c.Holds R m ∧ ∀ url bytes, m url = some bytes → K url bytes
  pending : ∀ copy ∈ c.pending, copy.1 ∈ keys ∧ K copy.1 copy.2

namespace Comes

theorem imp (h : c.Comes keys R K) (hK : ∀ url bytes, K url bytes → K' url bytes) :
    c.Comes keys R K' where
  held := by
    obtain ⟨m, hm, hright⟩ := h.held
    exact ⟨m, hm, fun url bytes hbytes => hK url bytes (hright url bytes hbytes)⟩
  pending copy hcopy := (h.pending copy hcopy).imp_right (hK _ _)

theorem record (h : c.Comes keys R K) (a : Access) : (c.record a).Comes keys R K :=
  ⟨h.held, h.pending⟩

/-- A copy less is to be written. -/
theorem eraseIdx (h : c.Comes keys R K) (n : Nat) :
    { c with pending := c.pending.eraseIdx n }.Comes keys R K :=
  ⟨h.held, fun copy hcopy => h.pending copy (List.mem_of_mem_eraseIdx hcopy)⟩

theorem receive (h : c.Comes keys R K) (hurl : url ∈ keys) {answer : Except HostError Bytes}
    (hanswer : ∀ bytes, answer = .ok bytes → K url bytes) :
    (c.receive url answer).1.Comes keys R K := by
  cases answer with
  | error e => exact h
  | ok bytes =>
    rw [BinaryCache.receive]
    split
    · refine ⟨h.held, fun copy hcopy => ?_⟩
      rcases List.mem_append.1 hcopy with hcopy | hcopy
      · exact h.pending copy hcopy
      · rw [List.mem_singleton.1 hcopy]
        exact ⟨hurl, hanswer bytes rfl⟩
    · exact h

variable [Store σ]

theorem seek (h : c.Comes keys R K) (url : String) : (c.seek url).1.Comes keys R K := by
  rw [BinaryCache.seek]
  split
  · exact h
  · exact h.record _

/-- What the store serves is right. -/
theorem of_seek (h : c.Comes keys R K) (hmap : Store.IsFallibleMap keys R) (hurl : url ∈ keys)
    {bytes : Bytes} (hbytes : (c.seek url).2 = some bytes) : K url bytes := by
  obtain ⟨m, ⟨s, hstore, hs⟩, hright⟩ := h.held
  obtain ⟨s', hstore', hlookup⟩ := seek_eq_some_iff.1 hbytes
  obtain rfl := Option.some.inj (hstore.symm.trans hstore')
  exact hright url bytes (hmap.lookup hs hurl hlookup).symm

omit [Store σ] in
/-- What a store holds is right after an operation on one entry, whether it went well or
    not, if what it was to put there is right. -/
theorem right_update {m : String → Option Bytes} {new? : Option Bytes}
    (hright : ∀ url bytes, m url = some bytes → K url bytes)
    (hnew : ∀ bytes, new? = some bytes → K url bytes) (ok : Bool) (url' : String) (bytes : Bytes)
    (hbytes : (if ok then Function.update m url new? else m) url' = some bytes) :
    K url' bytes := by
  split at hbytes
  · by_cases heq : url' = url
    · subst heq
      rw [Function.update_self] at hbytes
      exact hnew bytes hbytes
    · rw [Function.update_of_ne heq] at hbytes
      exact hright url' bytes hbytes
  · exact hright url' bytes hbytes

theorem evict (h : c.Comes keys R K) (hmap : Store.IsFallibleMap keys R) (hurl : url ∈ keys) :
    (c.evict url).Comes keys R K := by
  obtain ⟨m, ⟨s, hstore, hs⟩, hright⟩ := h.held
  have hnew (bytes : Bytes) (hbytes : none = some bytes) : K url bytes := nomatch hbytes
  exact ⟨⟨_, ⟨_, store?_evict hstore url, hmap.remove hs hurl⟩, right_update hright hnew _⟩,
    (pending_evict c url).symm ▸ h.pending⟩

theorem writeCopy (h : c.Comes keys R K) (hmap : Store.IsFallibleMap keys R)
    {copy : String × Bytes} (hkey : copy.1 ∈ keys) (hcopy : K copy.1 copy.2) :
    (c.writeCopy copy).Comes keys R K := by
  obtain ⟨m, ⟨s, hstore, hs⟩, hright⟩ := h.held
  have hwritten : (c.writeCopy copy).store? = some (Store.insert s copy.1 copy.2).1 := by
    rw [BinaryCache.writeCopy, hstore]
  have hnew (bytes : Bytes) (hbytes : some copy.2 = some bytes) : K copy.1 bytes :=
    Option.some.inj hbytes ▸ hcopy
  exact ⟨⟨_, ⟨_, hwritten, hmap.insert hs hkey copy.2⟩, right_update hright hnew _⟩,
    (pending_writeCopy c copy).symm ▸ h.pending⟩

end Comes

end BinaryCache

namespace Supply

variable {σ : Type} [Store σ] {x y : Supply σ} {keys : Set String}
  {R : σ → (String → Option Bytes) → Prop} {m₀ : String → Option Bytes} {i : Nat} {o : Order}

/-! ## An order by itself -/

/-- One more order. -/
def withOrder (x : Supply σ) (o : Order) : Supply σ := { x with orders := x.orders ++ [o] }

omit [Store σ] in
theorem getElem?_withOrder (x : Supply σ) (o : Order) :
    (x.withOrder o).orders[x.orders.length]? = some o := List.getElem?_concat_length

omit [Store σ] in
theorem reach_withOrder (x : Supply σ) (o : Order) (stage : Order.Stage) :
    (x.withOrder o).reach x.orders.length o stage = x.withOrder { o with stage } := by
  rw [reach, withOrder, List.set_append_right _ _ (Nat.le_refl _), Nat.sub_self]
  rfl

/-- The order placed last goes on. -/
theorem step_withOrder {o : Order} {cache : BinaryCache (Faulty σ)} {stage : Order.Stage}
    (h : (x.withOrder o).proceed x.orders.length o =
      some ({ x.withOrder o with cache }.reach x.orders.length o stage)) :
    (x.withOrder o).step (.proceed x.orders.length) =
      some ({ x with cache }.withOrder { o with stage }) := by
  rw [step, getElem?_withOrder, Option.bind_some, h]
  exact congrArg some (reach_withOrder { x with cache } o stage)

/-- An order that found nothing is served by the network. -/
theorem exists_run_of_missed (x : Supply σ) (url : String) (anew : Bool)
    (answer : Except HostError Bytes) :
    ∃ moves y, (x.withOrder ⟨url, anew, .missed⟩).run moves = some y ∧
      y.cache = (x.cache.download url answer).1 ∧
      y.orders = x.orders ++ [⟨url, anew, .served (answer.map (·, .network))⟩] := by
  have hrequest := step_withOrder (x := x) (o := ⟨url, anew, .missed⟩) rfl
  have hlast := getElem?_withOrder { x with cache := x.cache.request url } ⟨url, anew, .awaiting⟩
  have hanswer : ({ x with cache := x.cache.request url }.withOrder ⟨url, anew, .awaiting⟩).step
      (.answer x.orders.length answer) = some
        (({ x with cache := x.cache.request url }.withOrder ⟨url, anew, .awaiting⟩).receive
          x.orders.length ⟨url, anew, .awaiting⟩ answer) := by
    rw [step, hlast]
  refine ⟨[.proceed x.orders.length, .answer x.orders.length answer], _,
    Runs.run_cons_eq_some_iff.2 ⟨_, hrequest, Runs.run_cons_eq_some_iff.2 ⟨_, hanswer, rfl⟩⟩,
    rfl, ?_⟩
  have horders := congrArg orders (reach_withOrder { x with cache := x.cache.request url }
    ⟨url, anew, .awaiting⟩ (.served (answer.map (·, .network))))
  cases answer <;> exact horders

/-- If nothing happens meanwhile an order does what a call by itself does. -/
theorem exists_run_served (x : Supply σ) (url : String) (answer : Except HostError Bytes) :
    (∃ moves y, x.run moves = some y ∧ y.cache = (x.cache.fetchWithOrigin url answer).1 ∧
      y.orders = x.orders ++
        [⟨url, false, .served (x.cache.fetchWithOrigin url answer).2⟩]) ∧
    ∃ moves y, x.run moves = some y ∧ y.cache = (x.cache.refetch url answer).1 ∧
      y.orders = x.orders ++
        [⟨url, true, .served ((x.cache.refetch url answer).2.map (·, .network))⟩] := by
  have hplace (anew : Bool) : x.step (.place url anew) = some (x.withOrder ⟨url, anew, .placed⟩) :=
    rfl
  constructor
  · cases hseek : x.cache.seek url with
    | mk cache found? =>
      rw [BinaryCache.fetchWithOrigin, hseek]
      cases found? with
      | some bytes =>
        have hfound : (x.withOrder ⟨url, false, .placed⟩).proceed x.orders.length
            ⟨url, false, .placed⟩ = some ({ x.withOrder ⟨url, false, .placed⟩ with cache }.reach
              x.orders.length ⟨url, false, .placed⟩ (.served (.ok (bytes, .cache)))) := by
          rw [proceed, show (x.withOrder ⟨url, false, .placed⟩).cache.seek url = _ from hseek]
          rfl
        exact ⟨[.place url false, .proceed x.orders.length], _, Runs.run_cons_eq_some_iff.2
          ⟨_, hplace false, Runs.run_cons_eq_some_iff.2 ⟨_, step_withOrder hfound, rfl⟩⟩, rfl, rfl⟩
      | none =>
        have hmissed : (x.withOrder ⟨url, false, .placed⟩).proceed x.orders.length
            ⟨url, false, .placed⟩ = some ({ x.withOrder ⟨url, false, .placed⟩ with cache }.reach
              x.orders.length ⟨url, false, .placed⟩ .missed) := by
          rw [proceed, show (x.withOrder ⟨url, false, .placed⟩).cache.seek url = _ from hseek]
          rfl
        obtain ⟨moves, y, hrun, hcache, horders⟩ :=
          exists_run_of_missed { x with cache } url false answer
        refine ⟨.place url false :: .proceed x.orders.length :: moves, y,
          Runs.run_cons_eq_some_iff.2 ⟨_, hplace false, Runs.run_cons_eq_some_iff.2
            ⟨_, step_withOrder hmissed, hrun⟩⟩, hcache, ?_⟩
        rw [horders]
        dsimp only
        rw [BinaryCache.result_download]
  · have hevict := step_withOrder (x := x) (o := ⟨url, true, .placed⟩) rfl
    obtain ⟨moves, y, hrun, hcache, horders⟩ :=
      exists_run_of_missed { x with cache := x.cache.evict url } url true answer
    refine ⟨.place url true :: .proceed x.orders.length :: moves, y,
      Runs.run_cons_eq_some_iff.2 ⟨_, hplace true, Runs.run_cons_eq_some_iff.2 ⟨_, hevict, hrun⟩⟩,
      hcache, ?_⟩
    rw [horders, BinaryCache.refetch, BinaryCache.result_download]

/-! ## What is known -/

/-- In the run through these moves the network has answered an order for that address with
    these bytes. -/
def Delivered (x : Supply σ) (moves : List Move) (url : String) (bytes : Bytes) : Prop :=
  ∃ before i later y anew, moves = before ++ .answer i (.ok bytes) :: later ∧
    x.run before = some y ∧ y.orders[i]? = some ⟨url, anew, .awaiting⟩

/-- Nothing else is taken for a download. -/
theorem downloads_step {m : Move} {url : String} {bytes : Bytes} (h : x.step m = some y)
    (hmem : (url, bytes) ∈ y.downloads) :
    (url, bytes) ∈ x.downloads ∨
      ∃ i anew, m = .answer i (.ok bytes) ∧ x.orders[i]? = some ⟨url, anew, .awaiting⟩ := by
  cases m with
  | place url anew =>
    obtain rfl := Option.some.inj h
    exact .inl hmem
  | proceed i =>
    obtain ⟨o, -, hproceed⟩ := Option.bind_eq_some_iff.1 h
    rw [proceed] at hproceed
    split at hproceed
    · split at hproceed
      · obtain rfl := Option.some.inj hproceed
        exact .inl hmem
      · split at hproceed
        · obtain rfl := Option.some.inj hproceed
          exact .inl hmem
        · obtain rfl := Option.some.inj hproceed
          exact .inl hmem
    · obtain rfl := Option.some.inj hproceed
      exact .inl hmem
    · exact nomatch hproceed
    · exact nomatch hproceed
  | answer i answer =>
    rw [step] at h
    split at h
    · rename_i url' anew horder
      obtain rfl := Option.some.inj h
      rcases List.mem_append.1 hmem with hmem | hmem
      · exact .inl hmem
      · cases answer with
        | error e => exact nomatch hmem
        | ok bytes' =>
          obtain ⟨rfl, rfl⟩ := Prod.mk.inj (List.mem_singleton.1 hmem)
          exact .inr ⟨i, anew, rfl, horder⟩
    · exact nomatch h
  | write n =>
    obtain ⟨copy, -, rfl⟩ := Option.map_eq_some_iff.1 h
    exact .inl hmem
  | fail faults =>
    obtain ⟨s, -, rfl⟩ := Option.map_eq_some_iff.1 h
    exact .inl hmem

/-- What has been downloaded the network has delivered. -/
theorem delivered_of_mem {moves : List Move} {url : String} {bytes : Bytes}
    (h : x.run moves = some y) (hmem : (url, bytes) ∈ y.downloads) :
    (url, bytes) ∈ x.downloads ∨ x.Delivered moves url bytes := by
  induction moves generalizing x with
  | nil => exact .inl (Option.some.inj h ▸ hmem)
  | cons m moves ih =>
    obtain ⟨z, hm, h⟩ := Runs.run_cons_eq_some_iff.1 h
    rcases ih h with hz | ⟨before, i, later, y', anew, rfl, hrun, horder⟩
    · rcases downloads_step hm hz with hx | ⟨i, anew, rfl, horder⟩
      · exact .inl hx
      · exact .inr ⟨[], i, moves, x, anew, rfl, rfl, horder⟩
    · exact .inr ⟨m :: before, i, later, y', anew, rfl,
        Runs.run_cons_eq_some_iff.2 ⟨z, hm, hrun⟩, horder⟩

/-- The bytes were in the store at first or came from that address. -/
def Known (x : Supply σ) (m₀ : String → Option Bytes) (url : String) (bytes : Bytes) : Prop :=
  m₀ url = some bytes ∨ (url, bytes) ∈ x.downloads

/-- What is stored, what is to be stored and what was got from the store is known. -/
structure Sound (keys : Set String) (R : σ → (String → Option Bytes) → Prop)
    (m₀ : String → Option Bytes) (x : Supply σ) : Prop where
  cache : x.cache.Comes keys (fun s m => R s.store m) (x.Known m₀)
  url_mem : ∀ o ∈ x.orders, o.url ∈ keys
  served : ∀ o ∈ x.orders, ∀ bytes, o.stage = .served (.ok (bytes, .cache)) →
    x.Known m₀ o.url bytes

namespace Sound

omit [Store σ] in
theorem initial {s : Faulty σ} (hs : R s.store m₀) : (Supply.initial s).Sound keys R m₀ where
  cache := ⟨⟨m₀, ⟨s, rfl, hs⟩, fun _ _ h => .inl h⟩, fun _ h => nomatch h⟩
  url_mem _ ho := nomatch ho
  served _ ho := nomatch ho

omit [Store σ] in
/-- An order gets further, and what it got from the store, if anything, is known. -/
theorem reach (h : x.Sound keys R m₀) {cache : BinaryCache (Faulty σ)}
    (hcache : cache.Comes keys (fun s m => R s.store m) (x.Known m₀)) (ho : x.orders[i]? = some o)
    {stage : Order.Stage}
    (hstage : ∀ bytes, stage = .served (.ok (bytes, .cache)) → x.Known m₀ o.url bytes) :
    ({ x with cache }.reach i o stage).Sound keys R m₀ where
  cache := hcache
  url_mem o' ho' := by
    rcases List.mem_or_eq_of_mem_set ho' with ho' | rfl
    · exact h.url_mem o' ho'
    · exact h.url_mem o (List.mem_of_getElem? ho)
  served o' ho' bytes hbytes := by
    rcases List.mem_or_eq_of_mem_set ho' with ho' | rfl
    · exact h.served o' ho' bytes hbytes
    · exact hstage bytes hbytes

omit [Store σ] in
/-- The network delivers more. -/
theorem deliver (h : x.Sound keys R m₀) (later : List (String × Bytes)) :
    { x with downloads := x.downloads ++ later }.Sound keys R m₀ where
  cache := h.cache.imp fun _ _ => Or.imp_right (List.mem_append_left later)
  url_mem := h.url_mem
  served o ho bytes hbytes := (h.served o ho bytes hbytes).imp_right (List.mem_append_left later)

theorem proceed (h : x.Sound keys R m₀) (hmap : Store.IsFallibleMap keys R)
    (ho : x.orders[i]? = some o) (hstep : x.proceed i o = some y) : y.Sound keys R m₀ := by
  have hurl := h.url_mem o (List.mem_of_getElem? ho)
  rw [Supply.proceed] at hstep
  split at hstep
  · split at hstep
    · obtain rfl := Option.some.inj hstep
      exact h.reach (h.cache.evict hmap.faulty hurl) ho nofun
    · have hseek := h.cache.seek o.url
      have hright {bytes : Bytes} : (x.cache.seek o.url).2 = some bytes → x.Known m₀ o.url bytes :=
        h.cache.of_seek hmap.faulty hurl
      generalize x.cache.seek o.url = sought at hstep hseek hright
      obtain ⟨cache, found?⟩ := sought
      cases found? with
      | some bytes =>
        obtain rfl := Option.some.inj hstep
        refine h.reach hseek ho fun bytes' hbytes => ?_
        obtain ⟨rfl, -⟩ := Prod.mk.inj (Except.ok.inj (Order.Stage.served.inj hbytes))
        exact hright rfl
      | none =>
        obtain rfl := Option.some.inj hstep
        exact h.reach hseek ho nofun
  · obtain rfl := Option.some.inj hstep
    exact h.reach (h.cache.record _) ho nofun
  · exact nomatch hstep
  · exact nomatch hstep

omit [Store σ] in
/-- What the network answers is known from now on, and its copy is to be written. -/
theorem receive (h : x.Sound keys R m₀) (ho : x.orders[i]? = some o)
    (answer : Except HostError Bytes) : (x.receive i o answer).Sound keys R m₀ := by
  have hurl := h.url_mem o (List.mem_of_getElem? ho)
  have hdelivered := h.deliver ((x.cache.receive o.url answer).2.toOption.toList.map (o.url, ·))
  refine hdelivered.reach (hdelivered.cache.receive hurl fun bytes hbytes => ?_) ho
    fun bytes hbytes => ?_
  · subst hbytes
    exact .inr (List.mem_append_right _ List.mem_cons_self)
  · -- What is downloaded is not said to come from the store.
    have hnetwork := Order.Stage.served.inj hbytes
    cases answer <;> exact nomatch hnetwork

theorem step (h : x.Sound keys R m₀) (hmap : Store.IsFallibleMap keys R) {m : Move}
    (hurl : ∀ url anew, m = .place url anew → url ∈ keys) (hstep : x.step m = some y) :
    y.Sound keys R m₀ := by
  cases m with
  | place url anew =>
    obtain rfl := Option.some.inj hstep
    refine ⟨h.cache, fun o ho => ?_, fun o ho bytes hbytes => ?_⟩
    · rcases List.mem_append.1 ho with ho | ho
      · exact h.url_mem o ho
      · rw [List.mem_singleton.1 ho]
        exact hurl url anew rfl
    · rcases List.mem_append.1 ho with ho | ho
      · exact h.served o ho bytes hbytes
      · rw [List.mem_singleton.1 ho] at hbytes
        exact nomatch hbytes
  | proceed i =>
    obtain ⟨o, ho, hproceed⟩ := Option.bind_eq_some_iff.1 hstep
    exact h.proceed hmap ho hproceed
  | answer i answer =>
    rw [Supply.step] at hstep
    split at hstep
    · obtain rfl := Option.some.inj hstep
      exact h.receive ‹_› answer
    · exact nomatch hstep
  | write n =>
    obtain ⟨copy, hcopy, rfl⟩ := Option.map_eq_some_iff.1 hstep
    obtain ⟨hkey, hknown⟩ := h.cache.pending copy (List.mem_of_getElem? hcopy)
    exact ⟨(h.cache.eraseIdx n).writeCopy hmap.faulty hkey hknown, h.url_mem, h.served⟩
  | fail faults =>
    -- What the store holds does not depend on what works.
    obtain ⟨s, hstore, rfl⟩ := Option.map_eq_some_iff.1 hstep
    obtain ⟨m, ⟨s', hstore', hs⟩, hright⟩ := h.cache.held
    obtain rfl := Option.some.inj (hstore.symm.trans hstore')
    exact ⟨⟨⟨m, ⟨_, rfl, hs⟩, hright⟩, h.cache.pending⟩, h.url_mem, h.served⟩

end Sound

/-- Whatever is asked for at the same time, whenever operations of the store fail, and
    however late and in whatever order copies are written: what is got from the store, and
    what is in it, was there at first under that address, or the network has answered an
    order for that address with it: earlier, as this holds of every part of a run. -/
theorem provenance (hmap : Store.IsFallibleMap keys R) {s : Faulty σ} (hs : R s.store m₀)
    {moves : List Move} (hurls : ∀ url anew, Move.place url anew ∈ moves → url ∈ keys)
    (h : (initial s).run moves = some x) :
    (∀ o ∈ x.orders, ∀ bytes, o.stage = .served (.ok (bytes, .cache)) →
      m₀ o.url = some bytes ∨ (initial s).Delivered moves o.url bytes) ∧
    ∃ s' m, x.cache.store? = some s' ∧ R s'.store m ∧
      ∀ url bytes, m url = some bytes →
        m₀ url = some bytes ∨ (initial s).Delivered moves url bytes := by
  have hsound : x.Sound keys R m₀ := Runs.run_induction (P := fun x => x.Sound keys R m₀)
    (fun hmem hx => hx.step hmap fun url anew hm => hurls url anew (hm ▸ hmem)) h
    (Sound.initial hs)
  have hdelivered {url : String} {bytes : Bytes} (hknown : x.Known m₀ url bytes) :
      m₀ url = some bytes ∨ (initial s).Delivered moves url bytes :=
    hknown.imp_right fun hmem => (delivered_of_mem h hmem).resolve_left nofun
  obtain ⟨m, ⟨s', hstore, hs'⟩, hright⟩ := hsound.cache.held
  exact ⟨fun o ho bytes hbytes => hdelivered (hsound.served o ho bytes hbytes), s', m, hstore, hs',
    fun url bytes hbytes => hdelivered (hright url bytes hbytes)⟩

/-- A binary is downloaded, and downloaded anew, but its first copy is written last and
    is found again. -/
theorem provenance_of_overtaken :
    let moves : List Move := [.place "u" false, .proceed 0, .proceed 0, .answer 0 (.ok [1]),
      .place "u" true, .proceed 1, .proceed 1, .answer 1 (.ok [2]), .write 1, .write 0,
      .place "u" false, .proceed 2]
    ∃ x : Supply MemoryStore, (initial ⟨.empty, { }⟩).run moves = some x ∧
      x.orders[2]? = some ⟨"u", false, .served (.ok ([1], .cache))⟩ ∧
      (initial (⟨.empty, { }⟩ : Faulty MemoryStore)).Delivered moves "u" [1] := by
  intro moves
  obtain ⟨x, h, ho⟩ : ∃ x : Supply MemoryStore, (initial ⟨.empty, { }⟩).run moves = some x ∧
      x.orders[2]? = some ⟨"u", false, .served (.ok ([1], .cache))⟩ := ⟨_, rfl, rfl⟩
  obtain ⟨hserved, -⟩ := provenance MemoryStore.isMap.fallible rfl (fun _ _ _ => Set.mem_univ _) h
  refine ⟨x, h, ho, (hserved _ (List.mem_of_getElem? ho) [1] rfl).resolve_left nofun⟩

end Supply

end Playpen
