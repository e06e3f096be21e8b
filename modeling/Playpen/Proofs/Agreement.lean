import Playpen.Proofs.FreshReset

/-!
# The slot agrees with what calls get

The slot waits only for an attempt that is still in flight, and someone waits for
it there. When that attempt completes, the slot is filled or left vacant just as
all who wait for it get an interpreter or an error. From then on a call that was
given an interpreter finds it in the slot, unless a reset has emptied it
(`Follows`). So nobody waits for an attempt that has come to its end, and the
slot does not either (`slot_agrees`).
-/

namespace Playpen

theorem Slot.ofOutcome_eq_vacant {η ε : Type} {outcome : Except ε η} :
    ofOutcome outcome = .vacant ↔ ∃ e, outcome = .error e := by
  cases outcome <;> simp [ofOutcome]

namespace Concurrent

open State

variable {s s' : State} {i g n : Nat}

/-- A call has asked, and has not got the outcome of that attempt. -/
def State.Waits (s : State) (i g : Nat) : Prop := s.attempt? i = some g ∧ s.received? i = none

/-! ## Calls depend on one attempt -/

/-- A call that gets further keeps the attempt it depends on. -/
theorem State.attempt?_mark {j : Nat} {k : Ongoing} {p : Progress} (hk : s.calls[j]? = some k)
    (hp : ∀ g ∈ k.progress.attempt?, p.attempt? = some g) (h : s.attempt? i = some g) :
    (s.mark j p).attempt? i = some g := by
  by_cases hj : j = i
  · subst hj
    rw [attempt?, hk] at h
    rw [attempt?, State.mark, List.getElem?_modify_eq, hk]
    exact hp g h
  · rw [attempt?, State.mark, List.getElem?_modify_ne _ _ hj]
    exact h

theorem State.attempt?_step {m : Move} (hm : s.step m = some s') (h : s.attempt? i = some g) :
    s'.attempt? i = some g := by
  rcases step_cases hm with ⟨c, rfl⟩ | ⟨j, k, hk, hsection⟩ | ⟨a, outcome, -, rfl⟩
  · obtain ⟨k, hk, hg⟩ := Option.bind_eq_some_iff.1 h
    rw [attempt?, List.getElem?_append_left (List.getElem?_eq_some_iff.1 hk).1, hk]
    exact hg
  · cases hsection with
    | take hp => exact attempt?_mark hk (hp ▸ fun _ hg => hg) h
    | pass hp | ask hp | clear hp =>
      refine attempt?_mark hk (fun g hg => ?_) h
      rw [hp] at hg
      cases hg
  · exact h

/-- Whoever asks depends on the attempt that is next, if that is not under way. -/
theorem State.attempt?_ask {k : Ongoing} (hk : s.calls[i]? = some k) :
    (s.ask i).attempt? i = some s.lifecycle.source := by
  rw [attempt?, ask, State.mark, List.getElem?_modify_eq, hk]
  rfl

/-- Some call depends on each attempt. -/
def State.AllAsked (s : State) : Prop := ∀ g ∈ s.attempts, ∃ i, s.attempt? i = some g

theorem State.AllAsked.step {m : Move} (ha : s.AllAsked) (hm : s.step m = some s') :
    s'.AllAsked := by
  intro g hg
  have hold (hg : g ∈ s.attempts) : ∃ i, s'.attempt? i = some g := by
    obtain ⟨i, hi⟩ := ha g hg
    exact ⟨i, attempt?_step hm hi⟩
  by_cases hv : s.lifecycle.slot = .vacant
  · rcases step_cases hm with ⟨c, rfl⟩ | ⟨i, k, hk, hsection⟩ | ⟨a, outcome, hin, rfl⟩
    · exact hold hg
    · cases hsection with
      | pass | take | clear => exact hold hg
      | ask =>
        -- The one attempt that is new is that of the call that asks.
        rw [attempts, ask, Lifecycle.acquire_of_vacant hv, List.cons_append, List.mem_cons] at hg
        rcases hg with rfl | hg
        · refine ⟨i, (attempt?_ask hk).trans ?_⟩
          rw [Lifecycle.source, hv]
        · exact hold hg
    · exact hold ((Inv.perm_complete hin outcome).mem_iff.1 hg)
  · exact hold ((step_of_not_vacant hm hv).2.mem_iff.1 hg)

theorem State.run_allAsked {settings : Settings} {moves : List Move}
    (h : (initial settings).run moves = some s) : s.AllAsked :=
  run_induction (fun ha hm => ha.step hm) h nofun

/-! ## Waiting -/

theorem Inv.result?_eq_none_iff (hi : Inv s) (hg : g ∈ s.attempts) :
    s.result? g = none ↔ g ∈ s.lifecycle.inFlight := by
  refine ⟨fun h => ?_, hi.result?_eq_none⟩
  rcases List.mem_append.1 hg with hg | hg
  · exact hg
  · obtain ⟨p, hp, rfl⟩ := List.mem_map.1 hg
    have hne := List.lookup_eq_none_iff.1 h p hp
    rw [bne_self_eq_false] at hne
    exact absurd hne Bool.false_ne_true

/-- Whoever waits, waits for an attempt in flight. -/
theorem Inv.waits_iff (hi : Inv s) :
    s.Waits i g ↔ s.attempt? i = some g ∧ g ∈ s.lifecycle.inFlight := by
  refine and_congr_right fun h => ?_
  obtain ⟨hmem, hreceived⟩ := hi.received?_eq h
  rw [hreceived, hi.result?_eq_none_iff hmem]

/-- When an attempt completes, all who wait for it get its outcome. -/
theorem Inv.received?_complete (hi : Inv s) (hg : g ∈ s.lifecycle.inFlight)
    {outcome : Except HostError Interpreter} (h : s.Waits i g) :
    (s.complete g outcome).received? i = some (outcome.map (Handle.mk g)) := by
  have hattempt : (s.complete g outcome).attempt? i = some g := h.1
  rw [((hi.complete hg outcome).received?_eq hattempt).2, Inv.result?_complete, if_pos rfl]

/-- Someone waits for the attempt that the slot waits for. -/
theorem Inv.exists_waits (hi : Inv s) (ha : s.AllAsked) (hg : s.lifecycle.slot = .starting g) :
    ∃ i, s.Waits i g := by
  have hin := (hi.of_starting hg).2
  obtain ⟨i, hattempt⟩ := ha g (List.mem_append_left _ hin)
  exact ⟨i, hi.waits_iff.2 ⟨hattempt, hin⟩⟩

section

variable {outcome : Except HostError Interpreter}

/-- The slot is filled exactly if all who wait for it get what it is filled with. -/
theorem Inv.slot_complete_eq_ready_iff (hi : Inv s) (ha : s.AllAsked)
    (hg : s.lifecycle.slot = .starting g) {made : Handle} :
    (s.complete g outcome).lifecycle.slot = .ready made ↔
      ∀ i, s.Waits i g → (s.complete g outcome).received? i = some (.ok made) := by
  have hin := (hi.of_starting hg).2
  have hslot : (s.complete g outcome).lifecycle.slot = _ := Lifecycle.slot_complete_of_eq hg
  rw [hslot, Slot.ofOutcome_eq_ready]
  constructor
  · intro hmade i hw
    rw [hi.received?_complete hin hw, hmade]
  · intro hall
    -- That someone waits is needed for what all get to say anything of the slot.
    obtain ⟨i, hw⟩ := hi.exists_waits ha hg
    exact Option.some.inj ((hi.received?_complete hin hw).symm.trans (hall i hw))

/-- The slot is left vacant exactly if all who wait for it get an error. -/
theorem Inv.slot_complete_eq_vacant_iff (hi : Inv s) (ha : s.AllAsked)
    (hg : s.lifecycle.slot = .starting g) :
    (s.complete g outcome).lifecycle.slot = .vacant ↔
      ∀ i, s.Waits i g → ∃ e, (s.complete g outcome).received? i = some (.error e) := by
  have hin := (hi.of_starting hg).2
  have hslot : (s.complete g outcome).lifecycle.slot = _ := Lifecycle.slot_complete_of_eq hg
  rw [hslot, Slot.ofOutcome_eq_vacant]
  constructor
  · rintro ⟨e, he⟩ i hw
    exact ⟨e, by rw [hi.received?_complete hin hw, he]⟩
  · intro hall
    obtain ⟨i, hw⟩ := hi.exists_waits ha hg
    obtain ⟨e, he⟩ := hall i hw
    exact ⟨e, Option.some.inj ((hi.received?_complete hin hw).symm.trans he)⟩

end

/-! ## Since a call has asked -/

/-- The slot waits for the attempt or has what it has made, or the attempt has
    failed. -/
inductive Follows (s : State) (g : Nat) : Prop
  | pending : s.lifecycle.slot = .starting g → Follows s g
  | made {h : Handle} : s.lifecycle.slot = .ready h → s.result? g = some (.ok h) → Follows s g
  | failed {e : HostError} : s.result? g = some (.error e) → Follows s g

namespace Follows

theorem ask (hi : Inv s) (i : Nat) : Follows (s.ask i) s.lifecycle.source := by
  rcases Lifecycle.slot_acquire s.lifecycle with hslot | ⟨h, hslot, hsource⟩
  · exact .pending hslot
  · exact .made hslot (hsource ▸ (hi.ask i).of_ready hslot)

/-- A move may leave alone the slot and what attempts came to. -/
theorem frame (hf : Follows s g) (hslot : s'.lifecycle.slot = s.lifecycle.slot)
    (hfinished : s'.finished = s.finished) : Follows s' g := by
  have hresult : s'.result? g = s.result? g := by rw [result?, hfinished, result?]
  cases hf with
  | pending hs => exact .pending (hslot.trans hs)
  | made hs hr => exact .made (hslot.trans hs) (hresult.trans hr)
  | failed hr => exact .failed (hresult.trans hr)

/-- Someone else asks. -/
theorem acquire (hf : Follows s g) (i : Nat) : Follows (s.ask i) g := by
  have hslot (hv : s.lifecycle.slot ≠ .vacant) : (s.ask i).lifecycle.slot = s.lifecycle.slot :=
    (Lifecycle.acquire_of_not_vacant hv).1
  cases hf with
  | pending hs => exact .pending ((hslot (hs ▸ nofun)).trans hs)
  | made hs hresult => exact .made ((hslot (hs ▸ nofun)).trans hs) hresult
  | failed hresult => exact .failed hresult

/-- An attempt completes, which may be the one that the call waits for. -/
theorem complete (hf : Follows s g) (hi : Inv s) {a : Nat} (ha : a ∈ s.lifecycle.inFlight)
    (outcome : Except HostError Interpreter) : Follows (s.complete a outcome) g := by
  cases hf with
  | pending hs =>
    by_cases hag : g = a
    · subst hag
      have hslot : (s.complete g outcome).lifecycle.slot = _ := Lifecycle.slot_complete_of_eq hs
      have hresult : (s.complete g outcome).result? g = _ := Inv.result?_complete
      rw [if_pos rfl] at hresult
      cases outcome with
      | ok interpreter => exact .made hslot hresult
      | error e => exact .failed hresult
    · -- The slot does not wait for the other one, and stays as it is.
      refine .pending ((Lifecycle.slot_complete_of_ne ?_).trans hs)
      exact fun h => hag (Slot.starting.inj (hs.symm.trans h))
  | made hs hresult =>
    refine .made ((Lifecycle.slot_complete_of_ne ?_).trans hs)
      (hi.result?_complete_of_some ha hresult)
    exact fun h => nomatch hs.symm.trans h
  | failed hresult => exact .failed (hi.result?_complete_of_some ha hresult)

/-- What the attempt has made is in the slot. -/
theorem slot_eq (hf : Follows s g) (hi : Inv s) {h : Handle} (hg : s.result? g = some (.ok h)) :
    s.lifecycle.slot = .ready h := by
  cases hf with
  | pending hs => exact nomatch (hi.result?_eq_none (hi.of_starting hs).2).symm.trans hg
  | made hs hresult =>
    obtain rfl := Except.ok.inj (Option.some.inj (hresult.symm.trans hg))
    exact hs
  | failed hresult => exact nomatch hresult.symm.trans hg

end Follows

/-- Call `i` depends on attempt `g`, and unless a reset has emptied the slot since
    there had been `n` of them, the slot follows that attempt. -/
structure Attached (n i g : Nat) (s : State) : Prop where
  inv : Inv s
  attempt?_eq : s.attempt? i = some g
  le_clears : n ≤ s.clears
  follows : s.clears = n → Follows s g

namespace Attached

/-- A call asks, and is attached to what it finds or starts. -/
theorem ask {k : Ongoing} (hi : Inv s) (hk : s.calls[i]? = some k) :
    Attached s.clears i s.lifecycle.source (s.ask i) where
  inv := hi.ask i
  attempt?_eq := attempt?_ask hk
  le_clears := Nat.le_refl _
  follows _ := .ask hi i

theorem step {m : Move} (ha : Attached n i g s) (hm : s.step m = some s') :
    Attached n i g s' := by
  have hinv := ha.inv.step hm
  have hattempt := attempt?_step hm ha.attempt?_eq
  rcases step_cases hm with ⟨c, rfl⟩ | ⟨j, k, hk, hsection⟩ | ⟨a, outcome, hin, rfl⟩
  · exact ⟨hinv, hattempt, ha.le_clears, fun h => (ha.follows h).frame rfl rfl⟩
  · cases hsection with
    | pass | take =>
      exact ⟨hinv, hattempt, ha.le_clears, fun h => (ha.follows h).frame rfl rfl⟩
    | ask => exact ⟨hinv, hattempt, ha.le_clears, fun h => (ha.follows h).acquire j⟩
    | clear =>
      -- There are more of them now than when the call asked, and there always will be.
      refine ⟨hinv, hattempt, Nat.le_succ_of_le ha.le_clears, fun h => ?_⟩
      exact absurd h (Nat.ne_of_gt (Nat.lt_succ_of_le ha.le_clears))
  · exact ⟨hinv, hattempt, ha.le_clears, fun h => (ha.follows h).complete ha.inv hin outcome⟩

/-- What the call was given is in the slot, if that was not emptied since. -/
theorem slot_eq (ha : Attached n i g s) (hclears : s.clears = n) {made : Handle}
    (h : s.received? i = some (.ok made)) : s.lifecycle.slot = .ready made :=
  (ha.follows hclears).slot_eq ha.inv ((ha.inv.received?_eq ha.attempt?_eq).2.symm.trans h)

end Attached

/-- A call that comes to depend on an attempt has asked. -/
theorem exists_ask {s₁ : State} (hbefore : s.attempt? i = none)
    (hm : s.step (.proceed i) = some s₁) (hafter : s₁.attempt? i ≠ none) :
    ∃ k, s.calls[i]? = some k ∧ s₁ = s.ask i := by
  obtain ⟨k, hk, h⟩ := Option.bind_eq_some_iff.1 hm
  have hmark {p : Progress} (hs : s₁.calls = (s.mark i p).calls) : p.attempt? ≠ none := by
    rw [attempt?, hs, State.mark, List.getElem?_modify_eq, hk] at hafter
    exact hafter
  rw [attempt?, hk, Option.bind_some] at hbefore
  cases proceed_cases h with
  | pass _ hp => exact absurd (by rcases hp with rfl | rfl <;> rfl) (hmark rfl)
  | take hp =>
    rw [hp] at hbefore
    cases hbefore
  | ask => exact ⟨k, hk, rfl⟩
  | clear => exact absurd rfl (hmark rfl)

/-- The attempt that the slot waits for has not completed, and someone waits for
    it. Whoever waits, for that attempt or for another, is served when it completes.
    When the attempt of the slot does, the slot is filled exactly if all who wait
    for it get what it is filled with, and left vacant exactly if they all get an
    error. And a call that was given an interpreter finds it in the slot, as long as
    no reset has emptied the slot since the call looked at it. -/
theorem slot_agrees {settings : Settings} {moves : List Move}
    (h : (initial settings).run moves = some s) :
    (∀ g, s.lifecycle.slot = .starting g →
      g ∈ s.lifecycle.inFlight ∧ s.result? g = none ∧ ∃ i, s.Waits i g) ∧
    (∀ i g, s.Waits i g → ∀ outcome, ∃ s', s.step (.complete g outcome) = some s' ∧
      s'.received? i = some (outcome.map (Handle.mk g))) ∧
    (∀ g outcome s', s.lifecycle.slot = .starting g → s.step (.complete g outcome) = some s' →
      (∀ made, s'.lifecycle.slot = .ready made ↔
        ∀ i, s.Waits i g → s'.received? i = some (.ok made)) ∧
      (s'.lifecycle.slot = .vacant ↔
        ∀ i, s.Waits i g → ∃ e, s'.received? i = some (.error e))) ∧
    ∀ i s₁, s.attempt? i = none → s.step (.proceed i) = some s₁ → s₁.attempt? i ≠ none →
      ∀ later s', s₁.run later = some s' → s'.clears = s.clears →
        ∀ made, s'.received? i = some (.ok made) → s'.lifecycle.slot = .ready made := by
  have hi := run_inv h
  have ha := run_allAsked h
  refine ⟨fun g hg => ?_, fun i g hw outcome => ?_, fun g outcome s' hg hm => ?_, ?_⟩
  · have hin := (hi.of_starting hg).2
    exact ⟨hin, hi.result?_eq_none hin, hi.exists_waits ha hg⟩
  · have hin := (hi.waits_iff.1 hw).2
    exact ⟨_, if_pos hin, hi.received?_complete hin hw⟩
  · obtain ⟨-, hm⟩ := Option.ite_none_right_eq_some.1 hm
    obtain rfl := Option.some.inj hm
    exact ⟨fun made => hi.slot_complete_eq_ready_iff ha hg, hi.slot_complete_eq_vacant_iff ha hg⟩
  · intro i s₁ hbefore hm hafter later s' hrun hclears made hmade
    obtain ⟨k, hk, rfl⟩ := exists_ask hbefore hm hafter
    have hattached : Attached s.clears i s.lifecycle.source s' :=
      run_induction (fun ha hm => ha.step hm) hrun (.ask hi hk)
    exact hattached.slot_eq hclears hmade

/-- One call waits when another is made. If the attempt fails the first gets the
    error; if the second asks before it completes, it finds in the slot what it
    gets. -/
theorem slot_agrees_of_two_calls : ∃ s s₁ s₂ s',
    (initial .default).run [.call .start, .proceed 0, .call .start] = some s ∧
    s.lifecycle.slot = .starting 1 ∧ s.Waits 0 1 ∧
    s.step (.complete 1 (.error Runner.zeroTimeout)) = some s₂ ∧
    s₂.lifecycle.slot = .vacant ∧ (∃ e, s₂.received? 0 = some (.error e)) ∧
    s.step (.proceed 1) = some s₁ ∧
    s₁.run [.complete 1 (.ok idle), .proceed 1] = some s' ∧ s'.clears = s.clears ∧
    s'.received? 1 = some (.ok ⟨1, idle⟩) ∧ s'.lifecycle.slot = .ready ⟨1, idle⟩ := by
  have hrun : (initial .default).run [.call .start, .proceed 0, .call .start] = some _ := rfl
  obtain ⟨-, -, hcompleted, hkept⟩ := slot_agrees hrun
  refine ⟨_, _, _, _, hrun, rfl, ⟨rfl, rfl⟩, rfl, rfl, ?_, rfl, rfl, rfl, rfl, ?_⟩
  · exact (hcompleted 1 _ _ rfl rfl).2.1 rfl 0 ⟨rfl, rfl⟩
  · exact hkept 1 _ rfl rfl nofun [.complete 1 (.ok idle), .proceed 1] _ rfl rfl _ rfl

end Concurrent

end Playpen
