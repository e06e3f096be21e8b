import Playpen.Proofs.Attempts
import Playpen.Proofs.Service

/-!
# A runner is one way to go on

A runner takes the attempts further in an order of its own (`Runner.settle`). That is some
of what can happen when calls and attempts go on at the same time: each of its operations
is a run of moves that keeps the two alike (`Service.Shows`, and `Service.Rests` between two
operations).
-/

namespace Playpen

/-! ## Entries under distinct keys -/

namespace Keyed

variable {β : Type} {l rest : List (Nat × β)} {a : Nat} {b : β}

theorem ne_of_perm (hnodup : (l.map Prod.fst).Nodup) (h : l.Perm ((a, b) :: rest))
    {p : Nat × β} (hp : p ∈ rest) : p.1 ≠ a := by
  have hnodup := (h.map Prod.fst).nodup_iff.1 hnodup
  rintro rfl
  exact (List.nodup_cons.1 hnodup).1 (List.mem_map.2 ⟨p, hp, rfl⟩)

theorem lookup_of_perm (hnodup : (l.map Prod.fst).Nodup) (h : l.Perm ((a, b) :: rest)) :
    l.lookup a = some b := by
  obtain ⟨before, after, rfl⟩ := List.append_of_mem (h.mem_iff.2 List.mem_cons_self)
  rw [List.map_append] at hnodup
  refine List.lookup_eq_some_iff.2 ⟨before, after, rfl, fun p hp => ?_⟩
  have hne := (List.nodup_append.1 hnodup).2.2 p.1 (List.mem_map_of_mem hp) a List.mem_cons_self
  simpa using hne.symm

theorem filter_of_perm (hnodup : (l.map Prod.fst).Nodup) (h : l.Perm ((a, b) :: rest)) :
    (l.filter fun p => p.1 != a).Perm rest := by
  refine (h.filter _).trans (.of_eq ?_)
  rw [List.filter_cons_of_neg (by simp)]
  exact List.filter_eq_self.2 fun p hp => bne_iff_ne.2 (ne_of_perm hnodup h hp)

theorem perm_of_lookup (hnodup : (l.map Prod.fst).Nodup) (h : l.lookup a = some b) :
    l.Perm ((a, b) :: l.filter fun p => p.1 != a) := by
  obtain ⟨before, after, rfl, -⟩ := List.lookup_eq_some_iff.1 h
  exact List.perm_middle.trans (.cons _ (filter_of_perm hnodup List.perm_middle).symm)

end Keyed

namespace Concurrent.Service

variable {σ : Type} [Store σ] {x x' x'' : Service σ} {r : Runner σ} {settings : Settings}
  {fails : HostError → Prop}

/-! ## Runs -/

/-- There are moves from one to the other in which the network fails only so. -/
def Runs (fails : HostError → Prop) (x x' : Service σ) : Prop :=
  ∃ moves, x.run moves = some x' ∧ ∀ g e, .answer g (.error e) ∈ moves → fails e

theorem Runs.refl (x : Service σ) : Runs fails x x := ⟨[], rfl, fun _ _ h => absurd h List.not_mem_nil⟩

theorem Runs.trans (h : Runs fails x x') (h' : Runs fails x' x'') : Runs fails x x'' := by
  obtain ⟨moves, hrun, hfails⟩ := h
  obtain ⟨moves', hrun', hfails'⟩ := h'
  refine ⟨moves ++ moves', ?_, fun g e he => ?_⟩
  · exact (Playpen.Runs.run_append hrun moves').trans hrun'
  · rcases List.mem_append.1 he with he | he
    · exact hfails g e he
    · exact hfails' g e he

/-- The move is the network's. -/
def Move.isAnswer : Move σ → Bool
  | .answer .. => true
  | _ => false

/-- One move, which is none of the network's. -/
theorem Runs.of_step {m : Move σ} (h : x.step m = some x') (hm : m.isAnswer = false) :
    Runs fails x x' := by
  refine ⟨[m], ?_, fun g e he => ?_⟩
  · simp [run, h]
  · obtain rfl := List.mem_singleton.1 he
    cases hm

/-- An answer of the network. -/
theorem Runs.of_answer {g : Nat} {answer : Except HostError Bytes}
    (h : x.step (.answer g answer) = some x') (hfails : ∀ e, answer = .error e → fails e) :
    Runs fails x x' := by
  refine ⟨[.answer g answer], ?_, fun g e he => hfails e ?_⟩
  · simp [run, h]
  · injection List.mem_singleton.1 he with _ he
    exact he.symm

theorem Runs.inv (h : Runs fails x x') (hi : Inv settings x) : Inv settings x' := by
  obtain ⟨moves, hrun, -⟩ := h
  exact run_inv hrun hi

/-! ## One attempt of those under way -/

section Attempt

variable {g : Nat} {stage stage' : Stage} {rest : List (Nat × Stage)}

theorem step_attempt (hi : Inv settings x) (h : x.attempts.Perm ((g, stage) :: rest)) :
    x.step (.attempt g) = x.next g stage := by
  rw [step, Keyed.lookup_of_perm hi.nodup h, Option.bind_some]

omit [Store σ] in
theorem attempts_reach (hi : Inv settings x) (h : x.attempts.Perm ((g, stage) :: rest)) :
    (x.reach g stage').attempts.Perm ((g, stage') :: rest) := by
  refine (h.map _).trans (.of_eq ?_)
  rw [List.map_cons, if_pos rfl]
  congr 1
  refine (List.map_congr_left fun a ha => ?_).trans (List.map_id' rest)
  exact if_neg (Keyed.ne_of_perm hi.nodup h ha)

/-- An attempt that is to complete can. -/
theorem step_made {outcome : Except HostError Interpreter} (hi : Inv settings x)
    (h : x.attempts.Perm ((g, .made outcome) :: rest)) :
    ∃ attempts, attempts.Perm rest ∧
      x.step (.attempt g) = some { x with state := x.state.complete g outcome, attempts } := by
  have hg : g ∈ x.state.lifecycle.inFlight := by
    refine hi.attempts_perm.mem_iff.1 (List.mem_map.2 ⟨_, h.mem_iff.2 List.mem_cons_self, rfl⟩)
  refine ⟨_, Keyed.filter_of_perm hi.nodup h, ?_⟩
  rw [step_attempt hi h, next, State.step, if_pos hg]
  rfl

end Attempt

/-- Copies that are written one by one are all written. -/
theorem runs_flush (x : Service σ) : Runs fails x { x with cache := x.cache.flush } := by
  obtain ⟨copies, hcopies⟩ : ∃ copies, x.cache.pending = copies := ⟨_, rfl⟩
  rw [BinaryCache.flush, hcopies]
  -- The copies that are left are those that are to be written, and the first one is next.
  induction copies generalizing x with
  | nil =>
    obtain ⟨decode, state, ⟨store?, pending, accesses⟩, attempts⟩ := x
    obtain rfl : pending = [] := hcopies
    exact .refl _
  | cons copy copies ih =>
    obtain ⟨decode, state, ⟨store?, pending, accesses⟩, attempts⟩ := x
    obtain rfl : pending = copy :: copies := hcopies
    have hstep : step ⟨decode, state, ⟨store?, copy :: copies, accesses⟩, attempts⟩ (.write 0) =
        some ⟨decode, state, BinaryCache.writeCopy ⟨store?, copies, accesses⟩ copy, attempts⟩ := rfl
    refine .trans (.of_step hstep rfl) ?_
    cases store? with
    | none => exact ih _ rfl
    | some s => exact ih _ rfl

/-! ## Calls that others leave alone -/

/-- The call is to ask in the background. -/
def isSpawned (k : Ongoing) : Bool :=
  match k.progress with
  | .spawned => true
  | _ => false

theorem progress_of_isSpawned {k : Ongoing} (h : isSpawned k) : k.progress = .spawned := by
  rw [isSpawned] at h
  split at h
  · assumption
  · cases h

/-- A call gets further, and is not to ask in the background then. -/
theorem countP_mark {s : State} {i : Nat} {k : Ongoing} {p : Progress}
    (hk : s.calls[i]? = some k) (hp : isSpawned ⟨k.call, p⟩ = false) :
    (s.mark i p).calls.countP isSpawned + (isSpawned k).toNat = s.calls.countP isSpawned := by
  obtain ⟨hi, rfl⟩ := List.getElem?_eq_some_iff.1 hk
  have hmark : (s.mark i p).calls =
      s.calls.take i ++ ⟨s.calls[i].call, p⟩ :: s.calls.drop (i + 1) :=
    List.modify_eq_take_cons_drop hi
  have hcalls : s.calls = s.calls.take i ++ s.calls[i] :: s.calls.drop (i + 1) := by
    rw [← List.drop_eq_getElem_cons hi, List.take_append_drop]
  rw [hmark]
  conv_rhs => rw [hcalls]
  rw [List.countP_append, List.countP_append, List.countP_cons, List.countP_cons, hp]
  cases isSpawned s.calls[i] <;> simp [Nat.add_assoc]

/-- There are moves from one to the other that leave every call as far as it was, unless it
    was to ask in the background and has. -/
structure Leads (fails : HostError → Prop) (x x' : Service σ) : Prop where
  runs : Runs fails x x'
  length_eq : x'.state.calls.length = x.state.calls.length
  kept {i : Nat} {k : Ongoing} : x.state.calls[i]? = some k →
    ∃ k', x'.state.calls[i]? = some k' ∧
      (k' = k ∨ isSpawned k ∧ k'.call = k.call ∧ k'.progress.attempt?.isSome)

namespace Leads

theorem of_runs (h : Runs fails x x') (hcalls : x'.state.calls = x.state.calls) :
    Leads fails x x' where
  runs := h
  length_eq := congrArg List.length hcalls
  kept {_ k} hk := ⟨k, hcalls ▸ hk, .inl rfl⟩

theorem refl (x : Service σ) : Leads fails x x := .of_runs (.refl x) rfl

theorem trans (h : Leads fails x x') (h' : Leads fails x' x'') : Leads fails x x'' where
  runs := h.runs.trans h'.runs
  length_eq := h'.length_eq.trans h.length_eq
  kept {i k} hk := by
    obtain ⟨k', hk', rfl | ⟨hspawned, hcall, hattempt⟩⟩ := h.kept hk
    · exact h'.kept hk'
    · obtain ⟨k'', hk'', rfl | ⟨hspawned', -⟩⟩ := h'.kept hk'
      · exact ⟨k'', hk'', .inr ⟨hspawned, hcall, hattempt⟩⟩
      · -- One who has asked is not to ask.
        rw [progress_of_isSpawned hspawned'] at hattempt
        cases hattempt

/-- One of those that were to ask in the background does so. -/
theorem of_ask {i : Nat} {k : Ongoing} (h : Runs fails x x')
    (hcalls : x'.state.calls = (x.state.ask i).calls) (hk : x.state.calls[i]? = some k)
    (hspawned : isSpawned k) : Leads fails x x' where
  runs := h
  length_eq := by
    rw [hcalls, State.ask, State.mark]
    exact List.length_modify ..
  kept {j k'} hk' := by
    rw [hcalls, State.ask, State.mark]
    dsimp only
    by_cases hj : i = j
    · subst hj
      rw [List.getElem?_modify_eq, hk']
      obtain rfl := Option.some.inj (hk.symm.trans hk')
      exact ⟨_, rfl, .inr ⟨hspawned, rfl, rfl⟩⟩
    · rw [List.getElem?_modify_ne _ _ hj]
      exact ⟨k', hk', .inl rfl⟩

end Leads

/-! ## Where a runner and the calls on it are -/

/-- The attempts of a runner: those that are to load what the store holds, those to which
    that is of no use, and those that wait for a download. -/
def underWay (sought : List (Nat × Option Bytes)) (missed : List Nat)
    (downloads : List (Nat × Nat)) : List (Nat × Stage) :=
  sought.map (fun a => (a.1, .sought a.2)) ++ missed.map (·, .missed) ++
    downloads.map fun d => (d.2, .awaiting)

theorem underWay_sought (sought : List (Nat × Option Bytes)) (missed : List Nat)
    (downloads : List (Nat × Nat)) (g : Nat) (found? : Option Bytes) :
    ((g, .sought found?) :: underWay sought missed downloads).Perm
      (underWay (sought ++ [(g, found?)]) missed downloads) := by
  simp only [underWay, List.map_append, List.map_cons, List.map_nil, List.append_assoc,
    List.singleton_append]
  exact List.perm_middle.symm

theorem underWay_missed (sought : List (Nat × Option Bytes)) (missed : List Nat)
    (downloads : List (Nat × Nat)) (g : Nat) :
    ((g, .missed) :: underWay sought missed downloads).Perm
      (underWay sought (missed ++ [g]) downloads) := by
  simp only [underWay, List.map_append, List.map_cons, List.map_nil, List.append_assoc,
    List.singleton_append]
  exact ((List.perm_middle.append_left _).trans List.perm_middle).symm

theorem underWay_awaiting (sought : List (Nat × Option Bytes)) (missed : List Nat)
    (downloads : List (Nat × Nat)) (n g : Nat) :
    ((g, .awaiting) :: underWay sought missed downloads).Perm
      (underWay sought missed (downloads ++ [(n, g)])) := by
  simp only [underWay, List.map_append, List.map_cons, List.map_nil]
  rw [← List.append_assoc]
  exact (List.perm_append_singleton ..).symm

/-- A runner, maybe on its way to let all go on, and the same as calls and attempts that go on
    at the same time. So many more calls are to ask in the background than the runner knows,
    and these attempts are under way. -/
structure Shows (x : Service σ) (r : Runner σ) (spawned : Nat) (attempts : List (Nat × Stage)) :
    Prop where
  inv : Inv r.settings x
  decode : x.decode = r.decode
  lifecycle : x.state.lifecycle = r.lifecycle
  cache : x.cache = r.cache
  attempts : x.attempts.Perm attempts
  spawned : x.state.calls.countP isSpawned = r.preloads + spawned
  nodup : (r.downloads.map Prod.fst).Nodup
  lt_requested {d : Nat × Nat} : d ∈ r.downloads → d.1 < r.requested

/-- A runner between two calls. -/
def Rests (x : Service σ) (r : Runner σ) : Prop :=
  x.Shows r 0 (underWay r.opening [] r.downloads)

namespace Shows

variable {spawned g : Nat} {stage : Stage} {attempts attempts' : List (Nat × Stage)}
  {sought : List (Nat × Option Bytes)} {missed : List Nat}

variable (fails)

omit [Store σ] in
theorem load (h : x.Shows r spawned attempts) : x.load = r.load := by
  funext bytes
  rw [Service.load, Runner.load, h.inv.settings_eq, h.decode]

omit [Store σ] in
theorem url (h : x.Shows r spawned attempts) : x.url = r.settings.binaryUrl := by
  rw [Service.url, h.inv.settings_eq]

omit [Store σ] in
theorem perm (h : x.Shows r spawned attempts) (hperm : attempts.Perm attempts') :
    x.Shows r spawned attempts' :=
  { h with attempts := h.attempts.trans hperm }

omit [Store σ] in
/-- An attempt gets further. -/
theorem reach (h : x.Shows r spawned ((g, stage) :: attempts)) (cache : BinaryCache σ)
    (stage' : Stage) :
    Shows ({ x with cache }.reach g stage') { r with cache } spawned ((g, stage') :: attempts) where
  inv := h.inv.reach cache g stage'
  decode := h.decode
  lifecycle := h.lifecycle
  cache := rfl
  attempts := attempts_reach (h.inv.store cache) h.attempts
  spawned := h.spawned
  nodup := h.nodup
  lt_requested := h.lt_requested

/-- An attempt completes that is to. -/
theorem complete {outcome : Except HostError Interpreter}
    (h : x.Shows r spawned ((g, .made outcome) :: attempts)) :
    ∃ x', Leads fails x x' ∧ x'.Shows (r.complete g outcome) spawned attempts := by
  obtain ⟨rest, hrest, hstep⟩ := step_made h.inv h.attempts
  refine ⟨_, .of_runs (.of_step hstep rfl) rfl, ?_⟩
  exact { h with
    inv := h.inv.step hstep
    lifecycle := by simp [State.complete, Runner.complete, h.lifecycle]
    attempts := hrest }

/-! ## What goes on by itself -/

/-- An attempt loads what the store holds. -/
theorem considerFound {found? : Option Bytes}
    (h : x.Shows r spawned
      (underWay ((g, found?) :: sought) (r.opening.map Prod.fst) r.downloads)) :
    ∃ x', Leads fails x x' ∧ ∃ r', r.considerFound g found? = r' ∧
      x'.Shows r' spawned (underWay sought (r'.opening.map Prod.fst) r'.downloads) := by
  have hg : x.Shows r spawned ((g, .sought found?) ::
      underWay sought (r.opening.map Prod.fst) r.downloads) := h
  have hstep := step_attempt h.inv hg.attempts
  obtain ⟨cache, made?, hconsider⟩ :
      ∃ cache made?, Bootstrap.consider r.load r.settings.binaryUrl r.cache found? =
        (cache, made?) := ⟨_, _, rfl⟩
  rw [next, h.load, h.url, h.cache, hconsider] at hstep
  cases made? with
  | some i =>
    -- It completes with what was found.
    obtain ⟨x', hleads, h'⟩ := (hg.reach cache (.made (.ok i))).complete fails
    refine ⟨x', .trans (.of_runs (.of_step hstep rfl) rfl) hleads, _,
      Runner.considerFound_of_some hconsider, h'⟩
  | none =>
    refine ⟨_, .of_runs (.of_step hstep rfl) rfl, _, Runner.considerFound_of_none hconsider, ?_⟩
    rw [List.map_append]
    exact { (hg.reach cache .missed).perm (underWay_missed ..) with }

/-- All attempts load what the store holds. -/
theorem foldl_considerFound
    (h : x.Shows r spawned (underWay sought (r.opening.map Prod.fst) r.downloads)) :
    ∃ x', Leads fails x x' ∧
      ∃ r', sought.foldl (fun r o => r.considerFound o.1 o.2) r = r' ∧
        x'.Shows r' spawned (underWay [] (r'.opening.map Prod.fst) r'.downloads) := by
  induction sought generalizing x r with
  | nil => exact ⟨x, .refl x, r, rfl, h⟩
  | cons o sought ih =>
    obtain ⟨x₁, hleads₁, r₁, rfl, h₁⟩ := h.considerFound fails
    obtain ⟨x', hleads, hr'⟩ := ih h₁
    exact ⟨x', hleads₁.trans hleads, hr'⟩

/-- An attempt asks the network. -/
theorem request (h : x.Shows r spawned (underWay [] (g :: missed) r.downloads)) :
    ∃ x', Leads fails x x' ∧
      x'.Shows (r.request g) spawned (underWay [] missed (r.request g).downloads) := by
  have hg : x.Shows r spawned ((g, .missed) :: underWay [] missed r.downloads) := h
  have hstep := step_attempt h.inv hg.attempts
  rw [next, h.url, h.cache] at hstep
  -- The number of the download is a new one.
  have hne : r.requested ∉ r.downloads.map Prod.fst := by
    intro hmem
    obtain ⟨d, hd, heq⟩ := List.mem_map.1 hmem
    exact absurd (h.lt_requested hd) (heq ▸ Nat.lt_irrefl _)
  refine ⟨_, .of_runs (.of_step hstep rfl) rfl, ?_⟩
  exact { (hg.reach _ .awaiting).perm (underWay_awaiting ..) with
    nodup := by
      rw [Runner.request, List.map_append]
      refine List.nodup_append.2 ⟨h.nodup, by simp, fun a ha b hb => ?_⟩
      obtain rfl := List.mem_singleton.1 hb
      rintro rfl
      exact hne ha
    lt_requested := fun {d} hd => by
      rcases List.mem_append.1 hd with hd | hd
      · exact Nat.lt_succ_of_lt (h.lt_requested hd)
      · obtain rfl := List.mem_singleton.1 hd
        exact Nat.lt_succ_self _ }

theorem foldl_request {os : List (Nat × Option Bytes)}
    (h : x.Shows r spawned (underWay [] (os.map Prod.fst) r.downloads)) :
    ∃ x', Leads fails x x' ∧ ∃ r', os.foldl (fun r o => r.request o.1) r = r' ∧
      x'.Shows r' spawned (underWay [] [] r'.downloads) ∧ r'.opening = r.opening := by
  induction os generalizing x r with
  | nil => exact ⟨x, .refl x, r, rfl, h, rfl⟩
  | cons o os ih =>
    obtain ⟨x₁, hleads₁, h₁⟩ := h.request fails
    obtain ⟨x', hleads, hr'⟩ := ih h₁
    exact ⟨x', hleads₁.trans hleads, hr'⟩

/-- All attempts go as far as they do without the network. -/
theorem openAttempts (h : x.Shows r spawned (underWay r.opening [] r.downloads)) :
    ∃ x', Leads fails x x' ∧ ∃ r', r.openAttempts = r' ∧
      x'.Shows r' spawned (underWay [] [] r'.downloads) ∧ r'.opening = [] := by
  -- The list of attempts to go on holds those that have missed, while the others go on.
  have hclosed : x.Shows { r with opening := [] } spawned (underWay r.opening [] r.downloads) :=
    { h with }
  obtain ⟨x₁, hleads₁, r₁, hr₁, h₁⟩ := hclosed.foldl_considerFound fails
  have hclosed₁ : x₁.Shows { r₁ with opening := [] } spawned
      (underWay [] (r₁.opening.map Prod.fst) r₁.downloads) := { h₁ with }
  obtain ⟨x', hleads, r', hr', h', hopening⟩ := hclosed₁.foldl_request fails
  refine ⟨x', hleads₁.trans hleads, r', ?_, h', hopening⟩
  rw [Runner.openAttempts, hr₁]
  exact hr'

/-- The network answers a download, if there is one of that number. -/
theorem answer (h : x.Shows r spawned (underWay [] [] r.downloads)) (n : Nat)
    {reply : Except HostError Bytes} (hfails : ∀ e, reply = .error e → fails e) :
    ∃ x', Leads fails x x' ∧ ∃ r', r.answer n reply = r' ∧
      x'.Shows r' spawned (underWay [] [] r'.downloads) ∧ r'.opening = r.opening := by
  rw [Runner.answer]
  cases hn : r.downloads.lookup n with
  | none => exact ⟨x, .refl x, r, rfl, h, rfl⟩
  | some g =>
    -- The download is taken from the list, and its attempt waits for nothing else.
    have hg : x.Shows r spawned ((g, .awaiting) ::
        underWay [] [] (r.downloads.filter fun d => d.1 != n)) :=
      h.perm ((Keyed.perm_of_lookup h.nodup hn).map _)
    obtain ⟨cache, outcome, hcomplete⟩ : ∃ cache outcome,
        Bootstrap.complete r.load r.settings.binaryUrl r.cache reply = (cache, outcome) :=
      ⟨_, _, rfl⟩
    have hstep : x.step (.answer g reply) =
        some (Service.reach { x with cache } g (.made outcome)) := by
      rw [step, Keyed.lookup_of_perm h.inv.nodup hg.attempts]
      dsimp only
      rw [h.load, h.url, h.cache, hcomplete]
    have hsub : (r.downloads.filter fun d => d.1 != n).Sublist r.downloads := List.filter_sublist
    have hmade : Shows (Service.reach { x with cache } g (.made outcome))
        { r with cache, downloads := r.downloads.filter fun d => d.1 != n } spawned
        ((g, .made outcome) :: underWay [] [] (r.downloads.filter fun d => d.1 != n)) :=
      { hg.reach cache (.made outcome) with
        nodup := h.nodup.sublist (hsub.map _)
        lt_requested := fun hd => h.lt_requested (hsub.subset hd) }
    obtain ⟨x', hleads, h'⟩ := hmade.complete fails
    dsimp only
    rw [hcomplete]
    exact ⟨x', .trans (.of_runs (.of_answer hstep hfails) rfl) hleads, _, rfl, h', rfl⟩

/-- The copies of downloads are written, the first one first. -/
theorem flush (h : x.Shows r spawned attempts) :
    ∃ x', Leads fails x x' ∧ x'.Shows r.flush spawned attempts := by
  refine ⟨_, .of_runs (runs_flush x) rfl, ?_⟩
  exact { h with inv := h.inv.store _, cache := congrArg BinaryCache.flush h.cache }

/-- The network answers all downloads that it has an answer for. -/
theorem foldl_answer {network : Nat → Option (Except HostError Bytes)}
    (hfails : ∀ n e, network n = some (.error e) → fails e) (ns : List Nat)
    (h : x.Shows r spawned (underWay [] [] r.downloads)) :
    ∃ x', Leads fails x x' ∧
      ∃ r', ns.foldl (fun r n =>
        match network n with
        | some reply => (r.answer n reply).flush
        | none => r) r = r' ∧
        x'.Shows r' spawned (underWay [] [] r'.downloads) ∧ r'.opening = r.opening := by
  induction ns generalizing x r with
  | nil => exact ⟨x, .refl x, r, rfl, h, rfl⟩
  | cons n ns ih =>
    rw [List.foldl_cons]
    cases hn : network n with
    | none => exact ih h
    | some reply =>
      obtain ⟨x₁, hleads₁, r₁, hr₁, h₁, hopening₁⟩ := h.answer fails n fun e he => hfails n e (he ▸ hn)
      obtain ⟨x₂, hleads₂, h₂⟩ := h₁.flush fails
      obtain ⟨x', hleads, r', hr', h', hopening⟩ := ih h₂
      dsimp only
      rw [hr₁]
      exact ⟨x', (hleads₁.trans hleads₂).trans hleads, r', hr', h', hopening.trans hopening₁⟩

/-- A new attempt asks the store. -/
theorem step_started (h : x.Shows r spawned ((g, .started) :: attempts)) :
    x.step (.attempt g) =
      some (Service.reach { x with cache := (r.cache.seek r.settings.binaryUrl).1 } g
        (.sought (r.cache.seek r.settings.binaryUrl).2)) := by
  rw [step_attempt h.inv h.attempts, next, h.url, h.cache]

/-- A call asks for the interpreter, and the store is asked if that starts an attempt. -/
theorem ask {i awaited : Nat} {k : Ongoing}
    (h : x.Shows r spawned (underWay r.opening [] r.downloads)) (hk : x.state.calls[i]? = some k)
    (hproceed : x.state.proceed i k = some (x.state.ask i))
    (hspawned : (x.state.ask i).calls.countP isSpawned = r.preloads + awaited) :
    ∃ x', Runs fails x x' ∧ x'.state.calls = (x.state.ask i).calls ∧
      x'.Shows r.acquire awaited (underWay r.acquire.opening [] r.acquire.downloads) := by
  have hstep : x.step (.proceed i) = some (x.withState (x.state.ask i)) := by
    rw [step, State.step, hk, Option.bind_some, hproceed, Option.map_some]
  have hasked : (x.state.ask i).lifecycle = r.lifecycle.acquire :=
    congrArg Lifecycle.acquire h.lifecycle
  have hinv := h.inv.step hstep
  by_cases hv : r.lifecycle.slot = .vacant
  · have hstarts : r.lifecycle.acquire.starts = r.lifecycle.starts + 1 := by
      rw [Lifecycle.acquire_of_vacant hv]
    have hwith : x.withState (x.state.ask i) =
        { x with
          state := x.state.ask i
          attempts := x.attempts ++ [(r.lifecycle.starts + 1, .started)] } := by
      rw [withState, hasked, h.lifecycle, hstarts, if_pos (Nat.lt_succ_self _)]
    rw [hwith] at hstep hinv
    have hnew : Shows { x with
          state := x.state.ask i
          attempts := x.attempts ++ [(r.lifecycle.starts + 1, .started)] }
        { r with lifecycle := r.lifecycle.acquire } awaited
        ((r.lifecycle.starts + 1, .started) :: underWay r.opening [] r.downloads) :=
      { h with
        inv := hinv
        lifecycle := hasked
        attempts := (List.perm_append_singleton ..).trans (h.attempts.cons _)
        spawned := hspawned }
    refine ⟨_, .trans (.of_step hstep rfl) (.of_step hnew.step_started rfl), rfl, ?_⟩
    rw [Runner.acquire_of_vacant hv]
    exact { (hnew.reach _ (.sought _)).perm (underWay_sought ..) with }
  · have hstarts := (Lifecycle.acquire_of_not_vacant hv).2.1
    have hwith : x.withState (x.state.ask i) = { x with state := x.state.ask i } :=
      withState_of_starts_eq (by rw [hasked, h.lifecycle, hstarts])
    rw [hwith] at hstep hinv
    rw [Runner.acquire_of_not_vacant hv]
    exact ⟨_, .of_step hstep rfl, rfl,
      { h with inv := hinv, lifecycle := hasked, spawned := hspawned }⟩

/-- One of the calls that are to ask in the background does so. -/
theorem preload (h : x.Shows r (spawned + 1) (underWay r.opening [] r.downloads)) :
    ∃ x', Leads fails x x' ∧ ∃ r', r.preload = r' ∧
      x'.Shows r' spawned (underWay r'.opening [] r'.downloads) := by
  have hpos : 0 < x.state.calls.countP isSpawned := by
    rw [h.spawned]
    omega
  obtain ⟨k, hmem, hspawned⟩ := List.countP_pos_iff.1 hpos
  obtain ⟨i, hk⟩ := List.mem_iff_getElem?.1 hmem
  have hproceed : x.state.proceed i k = some (x.state.ask i) := by
    rw [State.proceed, progress_of_isSpawned hspawned]
  have hcount : (x.state.ask i).calls.countP isSpawned = r.preloads + spawned := by
    have hmark := countP_mark (p := .asked x.state.lifecycle.callers x.state.lifecycle.source) hk rfl
    rw [h.spawned, hspawned] at hmark
    exact Nat.succ.inj hmark
  obtain ⟨x', hruns, hcalls, h'⟩ := h.ask fails hk hproceed hcount
  refine ⟨x', .of_ask hruns hcalls hk hspawned, _, rfl, ?_⟩
  -- Only the order in which attempts go on is another one.
  have hperm : (r.preload.opening).Perm r.acquire.opening := by
    rw [Runner.preload]
    dsimp only
    rw [List.partition_eq_filter_filter]
    exact List.filter_append_perm ..
  exact { h'.perm (((hperm.symm.map _).append_right _).append_right _) with }

/-- All calls that are to ask in the background do so. -/
theorem repeat_preload (n : Nat)
    (h : x.Shows r (spawned + n) (underWay r.opening [] r.downloads)) :
    ∃ x', Leads fails x x' ∧ ∃ r', n.repeat Runner.preload r = r' ∧
      x'.Shows r' spawned (underWay r'.opening [] r'.downloads) := by
  induction n generalizing spawned with
  | zero => exact ⟨x, .refl x, r, rfl, h⟩
  | succ n ih =>
    rw [← Nat.succ_eq_add_one, Nat.repeat]
    obtain ⟨x₁, hleads₁, r₁, rfl, h₁⟩ := @ih (spawned + 1) (by rwa [Nat.add_assoc, Nat.add_comm 1])
    obtain ⟨x', hleads, hr'⟩ := h₁.preload fails
    exact ⟨x', hleads₁.trans hleads, hr'⟩

end Shows

namespace Rests

/-- All goes on that can. -/
theorem settle {network : Nat → Option (Except HostError Bytes)}
    (hfails : ∀ n e, network n = some (.error e) → fails e) (h : x.Rests r) :
    ∃ x', Leads fails x x' ∧ x'.Rests (r.settle network) := by
  -- While they ask the runner counts none of them, and afterwards there is none.
  have hall : x.Shows { r with preloads := 0 } (0 + r.preloads)
      (underWay r.opening [] r.downloads) := { h with spawned := by simp [h.spawned] }
  obtain ⟨x₁, hleads₁, r₁, hr₁, h₁⟩ := hall.repeat_preload fails
  obtain ⟨x₂, hleads₂, r₂, hr₂, h₂, hopening₂⟩ := h₁.openAttempts fails
  obtain ⟨x', hleads, r', hr', h', hopening⟩ :=
    h₂.foldl_answer fails hfails (r₂.downloads.map Prod.fst)
  have hsettle : r.settle network = r' := by
    rw [Runner.settle, Runner.askPreloads, hr₁, hr₂]
    exact hr'
  refine ⟨x', (hleads₁.trans hleads₂).trans hleads, ?_⟩
  rw [hsettle, Rests, hopening, hopening₂]
  exact h'

omit [Store σ] in
/-- Nothing has happened yet. -/
theorem create (settings : Settings) (decode : Bytes → Option Image) (cache : BinaryCache σ) :
    (Service.initial settings decode cache).Rests (Runner.create settings decode cache) :=
  ⟨.initial settings decode cache, rfl, rfl, rfl, .nil, rfl, .nil, fun h => absurd h List.not_mem_nil⟩

theorem settings_of_runs {decode : Bytes → Option Image} {cache : BinaryCache σ} (h : x.Rests r)
    (hruns : Runs fails (Service.initial settings decode cache) x) : r.settings = settings :=
  h.inv.settings_eq.symm.trans (hruns.inv (.initial settings decode cache)).settings_eq

end Rests

end Concurrent.Service

end Playpen
