import Playpen.Proofs.SingleFlight

/-!
# A reset leaves nothing of before

Attempts that were started before a reset emptied the slot may complete at any
time after it. None of them fills the slot, since the slot waits for an attempt
with a higher number by then, or for none, or has what such an attempt has made
(`FreshSince`). So the reset itself comes to the outcome of a later attempt
(`fresh_after_reset`).
-/

namespace Playpen.Concurrent

open State

variable {s s' : State} {n i : Nat}

/-- A reset is still to ask, or depends on an attempt with a number above `n`. -/
def Progress.Above (n : Nat) : Progress → Prop
  | .cleared => True
  | .asked _ attempt | .obtained attempt _ => n < attempt
  | _ => False

/-- The slot and a reset, call `i`, depend on no attempt up to number `n`. -/
structure FreshSince (n i : Nat) (s : State) : Prop where
  le_starts : n ≤ s.lifecycle.starts
  of_starting {a : Nat} : s.lifecycle.slot = .starting a → n < a
  of_ready {h : Handle} : s.lifecycle.slot = .ready h → n < h.attempt
  call : ∃ k, s.calls[i]? = some k ∧ k.progress.Above n

namespace FreshSince

/-- A reset empties the slot. -/
theorem cleared {k : Ongoing} (h : s.calls[i]? = some k) :
    FreshSince s.lifecycle.starts i (s.clear i) where
  le_starts := Nat.le_refl _
  of_starting := nofun
  of_ready := nofun
  call := by
    refine ⟨{ k with progress := .cleared }, ?_, trivial⟩
    rw [State.clear, mark, List.getElem?_modify_eq, h]
    rfl

/-- A call gets further. -/
theorem mark {j : Nat} {p : Progress} (hf : FreshSince n i s) (hp : j = i → p.Above n) :
    FreshSince n i (s.mark j p) where
  le_starts := hf.le_starts
  of_starting := hf.of_starting
  of_ready := hf.of_ready
  call := by
    obtain ⟨k, hk, habove⟩ := hf.call
    by_cases hj : j = i
    · refine ⟨{ k with progress := p }, ?_, hp hj⟩
      rw [hj, State.mark, List.getElem?_modify_eq, hk]
      rfl
    · refine ⟨k, ?_, habove⟩
      rw [State.mark, List.getElem?_modify_ne _ _ hj, hk]

/-- Whoever asks depends on an attempt above `n`. -/
theorem lt_source (hf : FreshSince n i s) : n < s.lifecycle.source := by
  rw [Lifecycle.source]
  split
  · exact Nat.lt_succ_of_le hf.le_starts
  · rename_i a hs
    exact hf.of_starting hs
  · rename_i h hs
    exact hf.of_ready hs

theorem acquire (hf : FreshSince n i s) :
    FreshSince n i { s with lifecycle := s.lifecycle.acquire } where
  le_starts := by
    by_cases hv : s.lifecycle.slot = .vacant
    · rw [Lifecycle.acquire_of_vacant hv]
      exact Nat.le_succ_of_le hf.le_starts
    · rw [(Lifecycle.acquire_of_not_vacant hv).2.1]
      exact hf.le_starts
  of_starting {a} ha := by
    rcases s.lifecycle.slot_acquire with hs | ⟨h, hs, -⟩
    · obtain rfl := Slot.starting.inj (hs.symm.trans ha)
      exact hf.lt_source
    · exact nomatch hs.symm.trans ha
  of_ready {h} hh := by
    rcases s.lifecycle.slot_acquire with hs | ⟨h', hs, hsource⟩
    · exact nomatch hs.symm.trans hh
    · obtain rfl := Slot.ready.inj (hs.symm.trans hh)
      exact hsource ▸ hf.lt_source
  call := hf.call

/-- Another reset empties the slot. -/
theorem clear (hf : FreshSince n i s) :
    FreshSince n i { s with lifecycle := s.lifecycle.clear, clears := s.clears + 1 } where
  le_starts := hf.le_starts
  of_starting := nofun
  of_ready := nofun
  call := hf.call

/-- An attempt completes, and fills the slot only if its number is above `n`. -/
theorem complete (hf : FreshSince n i s) (g : Nat) (outcome : Except HostError Interpreter) :
    FreshSince n i (s.complete g outcome) where
  le_starts := by
    rw [State.complete, Lifecycle.complete_eq]
    exact hf.le_starts
  of_starting ha := hf.of_starting (Lifecycle.slot_complete_eq_starting.1 ha).1
  of_ready {h} hh := by
    rcases Lifecycle.slot_complete_eq_ready.1 hh with ⟨hs, hresult⟩ | hh
    · rw [Handle.attempt_of_map_mk hresult]
      exact hf.of_starting hs
    · exact hf.of_ready hh
  call := hf.call

theorem step {m : Move} (hf : FreshSince n i s) (h : s.step m = some s') :
    FreshSince n i s' := by
  obtain ⟨k₀, hk₀, habove⟩ := hf.call
  rcases step_cases h with ⟨c, rfl⟩ | ⟨j, k, hk, hsection⟩ | ⟨g, outcome, -, rfl⟩
  · have hlt := (List.getElem?_eq_some_iff.1 hk₀).1
    exact ⟨hf.le_starts, hf.of_starting, hf.of_ready, k₀,
      (List.getElem?_append_left hlt).trans hk₀, habove⟩
  · -- The reset itself goes on only from where it depends on nothing old.
    have habove (hj : j = i) : k.progress.Above n := by
      rw [hj, hk₀] at hk
      exact Option.some.inj hk ▸ habove
    cases hsection with
    | pass hp => exact hf.mark fun hj => (hp ▸ habove hj : Progress.called.Above n).elim
    | take hp => exact hf.mark fun hj => (hp ▸ habove hj : (Progress.asked _ _).Above n)
    | ask => exact hf.acquire.mark fun _ => hf.lt_source
    | clear => exact hf.clear.mark fun _ => trivial
  · exact hf.complete g outcome

/-- A reset that depends on an attempt depends on one that was not started when
    `n` was the last, and comes to its outcome. -/
theorem outcome (hf : FreshSince n i s) (hi : Inv s) :
    s.calls[i]?.map Ongoing.progress = some .cleared ∨
      ∃ g ∈ s.attempts, n < g ∧ s.attempt? i = some g ∧ s.received? i = s.result? g := by
  obtain ⟨k, hk, habove⟩ := hf.call
  have hdepends {g : Nat} (hg : k.progress.attempt? = some g) (hlt : n < g) :
      ∃ g ∈ s.attempts, n < g ∧ s.attempt? i = some g ∧ s.received? i = s.result? g := by
    have hattempt : s.attempt? i = some g := by rw [attempt?, hk, Option.bind_some, hg]
    obtain ⟨hmem, hreceived⟩ := hi.received?_eq hattempt
    exact ⟨g, hmem, hlt, hattempt, hreceived⟩
  obtain ⟨call, progress⟩ := k
  match progress with
  | .cleared => exact .inl (by rw [hk]; rfl)
  | .asked caller attempt => exact .inr (hdepends rfl habove)
  | .obtained attempt outcome => exact .inr (hdepends rfl habove)

end FreshSince

/-- Attempts are numbered apart, and the slot waits for the last one or for none;
    to others it pays no attention. After a reset has emptied the slot, whatever
    happens, an interpreter in it was made by an attempt that was started later,
    and the reset comes to the outcome of an attempt that was started later. -/
theorem fresh_after_reset {settings : Settings} {moves : List Move}
    (h : (initial settings).run moves = some s) :
    s.attempts.Nodup ∧
    (∀ g ∈ s.attempts, 0 < g ∧ g ≤ s.lifecycle.starts) ∧
    (∀ g, s.lifecycle.slot = .starting g → g = s.lifecycle.starts) ∧
    (∀ g outcome s', s.step (.complete g outcome) = some s' → s.lifecycle.slot ≠ .starting g →
      s'.lifecycle.slot = s.lifecycle.slot) ∧
    ∀ i s₁, s.calls[i]? = some ⟨.reset, .called⟩ → s.step (.proceed i) = some s₁ →
      s₁.lifecycle.slot = .vacant ∧ ∀ later s', s₁.run later = some s' →
        (∀ made, s'.lifecycle.slot = .ready made →
          s'.result? made.attempt = some (.ok made) ∧ made.attempt ∉ s.attempts) ∧
        (s'.calls[i]?.map Ongoing.progress = some .cleared ∨
          ∃ g ∈ s'.attempts, g ∉ s.attempts ∧ s'.attempt? i = some g ∧
            s'.received? i = s'.result? g) := by
  have hi := run_inv h
  refine ⟨hi.nodup, fun g => hi.mem_attempts.1, fun g hg => (hi.of_starting hg).1, ?_, ?_⟩
  · intro g outcome s' hm hs
    obtain ⟨-, hm⟩ := Option.ite_none_right_eq_some.1 hm
    obtain rfl := Option.some.inj hm
    exact Lifecycle.slot_complete_of_ne hs
  · intro i s₁ hk hm
    obtain rfl : s.clear i = s₁ := by
      rw [State.step, hk] at hm
      exact Option.some.inj hm
    refine ⟨rfl, fun later s' hrun => ?_⟩
    have hnew {g : Nat} (hg : s.lifecycle.starts < g) : g ∉ s.attempts :=
      fun hmem => Nat.not_lt.2 (hi.mem_attempts.1 hmem).2 hg
    -- Both invariants are carried from the reset through what happens later.
    have hi' : Inv s' := run_induction (fun hi hm => hi.step hm) hrun (hi.step hm)
    have hf : FreshSince s.lifecycle.starts i s' :=
      run_induction (fun hf hm => hf.step hm) hrun (.cleared hk)
    refine ⟨fun made hmade => ⟨hi'.of_ready hmade, hnew (hf.of_ready hmade)⟩, ?_⟩
    refine (hf.outcome hi').imp_right ?_
    rintro ⟨g, hmem, hlt, hg⟩
    exact ⟨g, hmem, hnew hlt, hg⟩

/-- An interpreter that has nothing to do. -/
def idle : Interpreter := ⟨⟨some (.function 0 0), none, true, fun _ => .halt .returned⟩, [], 0⟩

/-- A reset comes while the first attempt is in flight. That attempt completes
    first, and its interpreter does not get into the slot. -/
theorem fresh_after_reset_of_starting : ∃ s s₁ s',
    (initial .default).run [.call .start, .proceed 0, .call .reset] = some s ∧
    s.step (.proceed 1) = some s₁ ∧
    s₁.run [.proceed 1, .complete 1 (.ok idle), .complete 2 (.ok idle), .proceed 1] = some s' ∧
    s.attempts = [1] ∧ s'.lifecycle.slot = .ready ⟨2, idle⟩ ∧ 2 ∉ s.attempts ∧
    s'.received? 1 = some (.ok ⟨2, idle⟩) := by
  refine ⟨_, _, _, rfl, rfl, rfl, rfl, rfl, ?_⟩
  obtain ⟨-, -, -, -, hreset⟩ := @fresh_after_reset _ .default
    [.call .start, .proceed 0, .call .reset] rfl
  obtain ⟨-, hlater⟩ := hreset 1 _ rfl rfl
  obtain ⟨hmade, houtcome⟩ := hlater
    [.proceed 1, .complete 1 (.ok idle), .complete 2 (.ok idle), .proceed 1] _ rfl
  refine ⟨(hmade _ rfl).2, ?_⟩
  rcases houtcome with hcleared | ⟨g, -, -, hg, hreceived⟩
  · exact nomatch hcleared
  · obtain rfl := Option.some.inj hg
    exact hreceived

end Playpen.Concurrent
