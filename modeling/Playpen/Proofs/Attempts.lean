import Playpen.Proofs.Lifecycle
import Playpen.Proofs.Recovery
import Playpen.Runner

/-!
# How an attempt of a runner goes

A runner takes an attempt through the parts of getting an interpreter, and does
other things in between. Each of its operations is said here for the case that
there is one attempt. Then nothing comes in between: the attempt makes one run of
both halves (`Runner.settle_acquire`), so what is known of that run is known of
the attempt.
-/

namespace Playpen.Runner

variable {σ : Type} [Store σ] {r : Runner σ} {attempt : Nat}

/-- The store is asked for a new attempt, and nothing else. -/
theorem acquire_of_vacant (hslot : r.lifecycle.slot = .vacant) :
    r.acquire =
      { r with
        lifecycle := r.lifecycle.acquire
        cache := (r.cache.seek r.settings.binaryUrl).1
        opening := r.opening ++
          [(r.lifecycle.starts + 1, (r.cache.seek r.settings.binaryUrl).2)] } := by
  have hstarts : r.lifecycle.acquire.starts = r.lifecycle.starts + 1 := by
    rw [Lifecycle.acquire_of_vacant hslot]
  rw [acquire]
  dsimp only
  rw [hstarts, if_pos (Nat.lt_succ_self _)]

/-- Whoever does not start an attempt only joins those who ask. -/
theorem acquire_of_not_vacant (hslot : r.lifecycle.slot ≠ .vacant) :
    r.acquire = { r with lifecycle := r.lifecycle.acquire } := by
  have hstarts := (Lifecycle.acquire_of_not_vacant hslot).2.1
  rw [acquire]
  dsimp only
  rw [hstarts, if_neg (Nat.lt_irrefl _)]

theorem considerFound_of_some {found? : Option Bytes} {c : BinaryCache σ} {i : Interpreter}
    (h : Bootstrap.consider r.load r.settings.binaryUrl r.cache found? = (c, some i)) :
    r.considerFound attempt found? = ({ r with cache := c } : Runner σ).complete attempt (.ok i) := by
  rw [considerFound, h]

theorem considerFound_of_none {found? : Option Bytes} {c : BinaryCache σ}
    (h : Bootstrap.consider r.load r.settings.binaryUrl r.cache found? = (c, none)) :
    r.considerFound attempt found? =
      { r with cache := c, opening := r.opening ++ [(attempt, none)] } := by
  rw [considerFound, h]

/-- The only attempt completes with what was found. -/
theorem openAttempts_of_some {found? : Option Bytes} {c : BinaryCache σ} {i : Interpreter}
    (hopening : r.opening = [(attempt, found?)])
    (h : Bootstrap.consider r.load r.settings.binaryUrl r.cache found? = (c, some i)) :
    r.openAttempts =
      ({ r with opening := [], cache := c } : Runner σ).complete attempt (.ok i) := by
  have hfound : ({ r with opening := [] } : Runner σ).considerFound attempt found? = _ :=
    considerFound_of_some h
  rw [openAttempts, hopening, List.foldl_cons, List.foldl_nil, hfound]
  rfl

/-- The only attempt asks the network. -/
theorem openAttempts_of_none {found? : Option Bytes} {c : BinaryCache σ}
    (hopening : r.opening = [(attempt, found?)])
    (h : Bootstrap.consider r.load r.settings.binaryUrl r.cache found? = (c, none)) :
    r.openAttempts = ({ r with opening := [], cache := c } : Runner σ).request attempt := by
  have hfound : ({ r with opening := [] } : Runner σ).considerFound attempt found? = _ :=
    considerFound_of_none h
  rw [openAttempts, hopening, List.foldl_cons, List.foldl_nil, hfound]
  rfl

/-- Nobody is to ask in the background. -/
theorem askPreloads_of_zero (hpreloads : r.preloads = 0) : r.askPreloads = r := by
  obtain ⟨settings, decode, cache, lifecycle, preloads, opening, downloads, requested⟩ := r
  obtain rfl : preloads = 0 := hpreloads
  rfl

variable {network : Nat → Option (Except HostError Bytes)} {answer : Except HostError Bytes}
  {found? : Option Bytes} {c c' c'' : BinaryCache σ} {l : Lifecycle Handle HostError}

/-- Where nothing was asked, nothing goes on. -/
theorem settle_of_nil (hpreloads : r.preloads = 0) (hopening : r.opening = [])
    (hdownloads : r.downloads = []) : r.settle network = r := by
  obtain ⟨settings, decode, cache, lifecycle, preloads, opening, downloads, requested⟩ := r
  obtain rfl : preloads = 0 := hpreloads
  obtain rfl : opening = [] := hopening
  obtain rfl : downloads = [] := hdownloads
  rfl

/-- An attempt that has asked the store completes with what was found. -/
theorem settle_of_some {i : Interpreter} (hpreloads : r.preloads = 0) (hdownloads : r.downloads = [])
    (h : Bootstrap.consider r.load r.settings.binaryUrl c found? = (c', some i)) :
    ({ r with lifecycle := l, cache := c, opening := [(attempt, found?)] } : Runner σ).settle
        network =
      { r with lifecycle := l.complete attempt (.ok ⟨attempt, i⟩), cache := c', opening := [] } := by
  have hopen := openAttempts_of_some
    (r := { r with lifecycle := l, cache := c, opening := [(attempt, found?)] }) rfl h
  rw [settle, askPreloads_of_zero (by exact hpreloads), hopen]
  dsimp only [complete]
  rw [hdownloads]
  rfl

/-- An attempt that has asked the store in vain asks the network, and completes with what
    that answers. -/
theorem settle_of_none (hpreloads : r.preloads = 0) (hdownloads : r.downloads = [])
    (h : Bootstrap.consider r.load r.settings.binaryUrl c found? = (c', none))
    (hnetwork : network r.requested = some answer) {outcome : Except HostError Interpreter}
    (hmade : Bootstrap.complete r.load r.settings.binaryUrl (c'.request r.settings.binaryUrl)
      answer = (c'', outcome)) :
    ({ r with lifecycle := l, cache := c, opening := [(attempt, found?)] } : Runner σ).settle
        network =
      { r with
        lifecycle := l.complete attempt (outcome.map (Handle.mk attempt))
        cache := c''.flush
        opening := []
        requested := r.requested + 1 } := by
  have hopen := openAttempts_of_none
    (r := { r with lifecycle := l, cache := c, opening := [(attempt, found?)] }) rfl h
  rw [settle, askPreloads_of_zero (by exact hpreloads), hopen]
  dsimp only [request]
  rw [hdownloads, List.nil_append, List.map_singleton, List.foldl_cons, List.foldl_nil, hnetwork]
  dsimp only [Runner.answer, flush, complete]
  rw [List.lookup_cons, beq_self_eq_true, List.filter_cons_of_neg (by simp), List.filter_nil]
  exact congrArg (fun made : BinaryCache σ × Except HostError Interpreter =>
    ({ r with
      lifecycle := l.complete attempt (made.2.map (Handle.mk attempt))
      cache := made.1.flush
      opening := []
      downloads := []
      requested := r.requested + 1 } : Runner σ)) hmade

/-- An attempt that nothing else goes on beside makes one run of both halves, and
    completes with what that comes to. The copy of a download is written. -/
theorem settle_acquire (hslot : r.lifecycle.slot = .vacant) (hpreloads : r.preloads = 0)
    (hopening : r.opening = []) (hdownloads : r.downloads = []) (hpending : r.cache.pending = [])
    (hnetwork : network r.requested = some answer) :
    ∃ c outcome, Bootstrap.run r.load r.settings.binaryUrl r.cache answer = (c, outcome) ∧
      r.acquire.settle network =
        { r with
          lifecycle := r.lifecycle.acquire.complete (r.lifecycle.starts + 1)
            (outcome.map (Handle.mk (r.lifecycle.starts + 1)))
          cache := c.flush
          requested := r.requested + (c.fetches - r.cache.fetches) } := by
  obtain ⟨c₁, found?, hseek⟩ :
      ∃ c₁ found?, r.cache.seek r.settings.binaryUrl = (c₁, found?) := ⟨_, _, rfl⟩
  obtain ⟨c₂, made?, hconsider⟩ :
      ∃ c₂ made?, Bootstrap.consider r.load r.settings.binaryUrl c₁ found? = (c₂, made?) :=
    ⟨_, _, rfl⟩
  have hbegin : Bootstrap.begin r.load r.settings.binaryUrl r.cache = (c₂, made?) := by
    rw [Bootstrap.begin, hseek]
    exact hconsider
  obtain ⟨hfetches, -⟩ := Bootstrap.begin_cases hbegin
  rw [acquire_of_vacant hslot, hseek, hopening, List.nil_append, Bootstrap.run, hbegin]
  cases made? with
  | some i =>
    have hflush : c₂.flush = c₂ :=
      BinaryCache.flush_of_nil ((Bootstrap.pending_begin hbegin).trans hpending)
    refine ⟨c₂, .ok i, rfl, ?_⟩
    rw [settle_of_some hpreloads hdownloads hconsider, hfetches, Nat.sub_self, hflush, ← hopening]
    rfl
  | none =>
    obtain ⟨c₃, outcome, hmade⟩ : ∃ c₃ outcome, Bootstrap.complete r.load r.settings.binaryUrl
        (c₂.request r.settings.binaryUrl) answer = (c₃, outcome) := ⟨_, _, rfl⟩
    have hcount : c₃.fetches = r.cache.fetches + 1 := by
      rw [Bootstrap.complete_eq] at hmade
      obtain ⟨rfl, -⟩ := Prod.mk.inj hmade
      rw [BinaryCache.fetches_receive]
      exact (BinaryCache.fetches_record c₂ _).trans (congrArg (· + 1) hfetches)
    refine ⟨c₃, outcome, hmade, ?_⟩
    rw [settle_of_none hpreloads hdownloads hconsider hnetwork hmade, hcount,
      Nat.add_sub_cancel_left, ← hopening]

end Playpen.Runner
