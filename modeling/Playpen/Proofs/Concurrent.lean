import Playpen.Concurrent
import Playpen.Proofs.Lifecycle
import Playpen.Proofs.Runs

/-!
# What holds however calls interleave

Attempts are numbered from 1, the slot waits for the last one only while it is in
flight, and a value in the slot is what its attempt came to. Every call that has
asked depends on one attempt: it has nothing while that is in flight, and the
outcome of just that attempt afterwards. Every move preserves all this (`Inv`),
so it holds after every run (`State.run_inv`).
-/

namespace Playpen

/-- Whoever asks depends on the attempt that the slot waits for then, or on the
    one that has made the handle in it. -/
theorem Lifecycle.slot_acquire {ε : Type} (l : Lifecycle Handle ε) :
    l.acquire.slot = .starting l.source ∨
      ∃ h, l.acquire.slot = .ready h ∧ h.attempt = l.source := by
  cases hs : l.slot with
  | vacant => rw [acquire_of_vacant hs, source, hs]; exact .inl rfl
  | starting attempt => rw [acquire_of_starting hs, source, hs]; exact .inl rfl
  | ready h => rw [acquire_of_ready hs, source, hs]; exact .inr ⟨h, rfl, rfl⟩

/-- A handle knows the attempt that has made it. -/
theorem Handle.attempt_of_map_mk {g : Nat} {outcome : Except HostError Interpreter} {h : Handle}
    (hh : outcome.map (Handle.mk g) = .ok h) : h.attempt = g := by
  cases outcome with
  | error e => exact nomatch hh
  | ok interpreter =>
    obtain rfl := Except.ok.inj hh
    rfl

namespace Concurrent

open State

variable {s s' : State}

/-! ## Moves -/

/-- What the next section of a call may do, and when. -/
inductive Section (s : State) (i : Nat) (k : Ongoing) : State → Prop
  /-- It is over at once, or goes on in the background. -/
  | pass {p : Progress} : k.progress = .called → p = .spawned ∨ p = .dismissed →
      Section s i k (s.mark i p)
  /-- It takes what it was given. -/
  | take {caller attempt : Nat} {outcome : Except HostError Handle} :
      k.progress = .asked caller attempt → s.lifecycle.outcome? caller = some outcome →
      Section s i k (s.mark i (.obtained attempt outcome))
  | ask : k.progress.attempt? = none → Section s i k (s.ask i)
  | clear : k = ⟨.reset, .called⟩ → Section s i k (s.clear i)

theorem State.proceed_cases {i : Nat} {k : Ongoing} (h : s.proceed i k = some s') :
    Section s i k s' := by
  obtain ⟨call, progress⟩ := k
  cases progress with
  | called =>
    cases call with
    | start => exact Option.some.inj h ▸ .ask rfl
    | reset => exact Option.some.inj h ▸ .clear rfl
    | preload background =>
      obtain rfl := Option.some.inj h
      refine .pass rfl ?_
      split
      · exact .inl rfl
      · exact .inr rfl
    | execute source input? timeout? =>
      obtain rfl := Option.some.inj h
      split
      · exact .pass rfl (.inr rfl)
      · exact .ask rfl
    | checkSyntax source => exact Option.some.inj h ▸ .pass rfl (.inr rfl)
  | cleared => exact Option.some.inj h ▸ .ask rfl
  | spawned => exact Option.some.inj h ▸ .ask rfl
  | asked caller attempt =>
    obtain ⟨outcome, ho, rfl⟩ := Option.map_eq_some_iff.1 h
    exact .take rfl ho
  | obtained attempt outcome => exact nomatch h
  | dismissed => exact nomatch h

/-- A move is a call, the section of one, or the completion of an attempt that is
    in flight. -/
theorem State.step_cases {m : Move} (h : s.step m = some s') :
    (∃ c, s' = { s with calls := s.calls ++ [{ call := c }] }) ∨
    (∃ i k, s.calls[i]? = some k ∧ Section s i k s') ∨
    (∃ g outcome, g ∈ s.lifecycle.inFlight ∧ s' = s.complete g outcome) := by
  cases m with
  | call c => exact .inl ⟨c, (Option.some.inj h).symm⟩
  | proceed i =>
    obtain ⟨k, hk, h⟩ := Option.bind_eq_some_iff.1 h
    exact .inr (.inl ⟨i, k, hk, proceed_cases h⟩)
  | complete g outcome =>
    obtain ⟨hg, h⟩ := Option.ite_none_right_eq_some.1 h
    exact .inr (.inr ⟨g, outcome, hg, (Option.some.inj h).symm⟩)

/-- What every move preserves holds after every run. -/
theorem State.run_induction {P : State → Prop}
    (hstep : ∀ {s m s'}, P s → State.step s m = some s' → P s')
    {moves : List Move} (h : s.run moves = some s') (hs : P s) : P s' :=
  Runs.run_induction (fun _ => hstep) h hs

/-! ## The invariant -/

/-- A call that has asked waits as long as its attempt is in flight, and has the
    outcome of the attempt otherwise. -/
def Progress.Served (s : State) : Progress → Prop
  | .asked caller attempt =>
    caller < s.lifecycle.callers ∧ attempt ∈ s.attempts ∧
      (∀ a, (caller, a) ∈ s.lifecycle.waiting ↔ a = attempt ∧ a ∈ s.lifecycle.inFlight) ∧
      s.lifecycle.outcome? caller = s.result? attempt
  | .obtained attempt outcome => s.result? attempt = some outcome
  | _ => True

/-- What holds of every state that is reached. -/
structure Inv (s : State) : Prop where
  attempts_perm : s.attempts.Perm (List.range' 1 s.lifecycle.starts)
  of_starting {a : Nat} : s.lifecycle.slot = .starting a →
    a = s.lifecycle.starts ∧ a ∈ s.lifecycle.inFlight
  of_ready {h : Handle} : s.lifecycle.slot = .ready h → s.result? h.attempt = some (.ok h)
  of_waiting {caller a : Nat} : (caller, a) ∈ s.lifecycle.waiting → caller < s.lifecycle.callers
  outcome?_eq_none {caller : Nat} : s.lifecycle.callers ≤ caller →
    s.lifecycle.outcome? caller = none
  served {k : Ongoing} : k ∈ s.calls → k.progress.Served s
  /-- Every attempt but one was made necessary by a reset or a failure, and if the
      slot is vacant there is none that was not. -/
  starts_le : s.lifecycle.starts + (if s.lifecycle.slot.isVacant then 1 else 0) ≤
    1 + s.clears + s.failures

namespace Inv

theorem initial (settings : Settings) : Inv (.initial settings) where
  attempts_perm := .nil
  of_starting := nofun
  of_ready := nofun
  of_waiting := nofun
  outcome?_eq_none _ := rfl
  served := nofun
  starts_le := Nat.le_refl _

theorem nodup (hi : Inv s) : s.attempts.Nodup :=
  hi.attempts_perm.nodup_iff.2 List.nodup_range'

theorem mem_attempts (hi : Inv s) {a : Nat} :
    a ∈ s.attempts ↔ 0 < a ∧ a ≤ s.lifecycle.starts := by
  rw [hi.attempts_perm.mem_iff, List.mem_range'_1]
  omega

theorem length_attempts (hi : Inv s) : s.attempts.length = s.lifecycle.starts := by
  rw [hi.attempts_perm.length_eq, List.length_range']

/-- An attempt in flight has come to nothing. -/
theorem result?_eq_none (hi : Inv s) {a : Nat} (h : a ∈ s.lifecycle.inFlight) :
    s.result? a = none := by
  refine List.lookup_eq_none_iff.2 fun p hp => bne_iff_ne.2 ?_
  rintro rfl
  exact (List.nodup_append.1 hi.nodup).2.2 _ h _ (List.mem_map_of_mem hp) rfl

theorem mem_attempts_of_result? {a : Nat} {outcome : Except HostError Handle}
    (h : s.result? a = some outcome) : a ∈ s.attempts := by
  obtain ⟨l₁, l₂, hl, -⟩ := List.lookup_eq_some_iff.1 h
  refine List.mem_append_right _ (List.mem_map.2 ⟨(a, outcome), ?_, rfl⟩)
  rw [hl]
  exact List.mem_append_right _ List.mem_cons_self

/-! ## Every move preserves the invariant -/

/-- A call gets further. -/
theorem mark {i : Nat} {p : Progress} (hi : Inv s) (hp : p.Served s) : Inv (s.mark i p) where
  attempts_perm := hi.attempts_perm
  of_starting := hi.of_starting
  of_ready := hi.of_ready
  of_waiting := hi.of_waiting
  outcome?_eq_none := hi.outcome?_eq_none
  served {k} hk := by
    obtain ⟨j, hj⟩ := List.mem_iff_getElem?.1 hk
    rw [State.mark, List.getElem?_modify] at hj
    obtain ⟨k', hk', rfl⟩ := Option.map_eq_some_iff.1 hj
    split
    · exact hp
    · exact hi.served (List.mem_of_getElem? hk')
  starts_le := hi.starts_le

/-- A call is made. -/
theorem call (hi : Inv s) (c : Call) : Inv { s with calls := s.calls ++ [{ call := c }] } where
  attempts_perm := hi.attempts_perm
  of_starting := hi.of_starting
  of_ready := hi.of_ready
  of_waiting := hi.of_waiting
  outcome?_eq_none := hi.outcome?_eq_none
  served {k} hk := by
    rcases List.mem_append.1 hk with hk | hk
    · exact hi.served hk
    · obtain rfl := List.mem_singleton.1 hk
      exact trivial
  starts_le := hi.starts_le

/-- The slot is emptied. -/
theorem clear (hi : Inv s) :
    Inv { s with lifecycle := s.lifecycle.clear, clears := s.clears + 1 } where
  attempts_perm := hi.attempts_perm
  of_starting := nofun
  of_ready := nofun
  of_waiting := hi.of_waiting
  outcome?_eq_none := hi.outcome?_eq_none
  served := hi.served
  starts_le := by
    have := hi.starts_le
    change s.lifecycle.starts + 1 ≤ 1 + (s.clears + 1) + s.failures
    omega

/-- Someone asks, and those who asked before are served as they were. -/
theorem served_acquire (hi : Inv s) {p : Progress} (hp : p.Served s) :
    p.Served { s with lifecycle := s.lifecycle.acquire } := by
  match p with
  | .asked caller attempt =>
    obtain ⟨hlt, hmem, hwaiting, houtcome⟩ := hp
    -- Neither its number nor its attempt's is one that is given out now.
    have hin := Lifecycle.mem_inFlight_acquire (hi.mem_attempts.1 hmem).2
    refine ⟨?_, ?_, fun a => ?_, ?_⟩
    · rw [Lifecycle.callers_acquire]
      exact Nat.lt_succ_of_lt hlt
    · rw [attempts, List.mem_append] at hmem ⊢
      exact hmem.imp_left hin.2
    · rw [Lifecycle.mem_waiting_acquire (Nat.ne_of_lt hlt), hwaiting]
      refine and_congr_right fun ha => ?_
      rw [ha]
      exact hin.symm
    · rw [Lifecycle.outcome?_acquire (Nat.ne_of_lt hlt)]
      exact houtcome
  | .obtained attempt outcome => exact hp
  | .called | .cleared | .spawned | .dismissed => exact trivial

theorem acquire (hi : Inv s) : Inv { s with lifecycle := s.lifecycle.acquire } where
  attempts_perm := by
    by_cases hv : s.lifecycle.slot = .vacant
    · -- The new attempt has the next number.
      rw [attempts, Lifecycle.acquire_of_vacant hv, List.range'_1_concat, Nat.add_comm]
      exact (hi.attempts_perm.cons _).trans (List.perm_append_singleton ..).symm
    · obtain ⟨-, hstarts, hin⟩ := Lifecycle.acquire_of_not_vacant hv
      rw [attempts, hstarts, hin]
      exact hi.attempts_perm
  of_starting {a} ha := by
    by_cases hv : s.lifecycle.slot = .vacant
    · rw [Lifecycle.acquire_of_vacant hv] at ha ⊢
      obtain rfl := Slot.starting.inj ha
      exact ⟨rfl, List.mem_cons_self⟩
    · obtain ⟨hslot, hstarts, hin⟩ := Lifecycle.acquire_of_not_vacant hv
      rw [hstarts, hin]
      exact hi.of_starting (hslot ▸ ha)
  of_ready {h} hh := by
    by_cases hv : s.lifecycle.slot = .vacant
    · rw [Lifecycle.acquire_of_vacant hv] at hh
      exact nomatch hh
    · exact hi.of_ready ((Lifecycle.acquire_of_not_vacant hv).1 ▸ hh)
  of_waiting {caller a} ha := by
    rw [Lifecycle.callers_acquire]
    by_cases hc : caller = s.lifecycle.callers
    · exact hc ▸ Nat.lt_succ_self _
    · exact Nat.lt_succ_of_lt (hi.of_waiting ((Lifecycle.mem_waiting_acquire hc).1 ha))
  outcome?_eq_none {caller} hc := by
    rw [Lifecycle.callers_acquire] at hc
    rw [Lifecycle.outcome?_acquire (Nat.ne_of_gt hc)]
    exact hi.outcome?_eq_none (Nat.le_of_succ_le hc)
  served hk := hi.served_acquire (hi.served hk)
  starts_le := by
    have hle := hi.starts_le
    by_cases hv : s.lifecycle.slot = .vacant
    · rw [hv] at hle
      rw [Lifecycle.acquire_of_vacant hv]
      exact hle
    · obtain ⟨hslot, hstarts, -⟩ := Lifecycle.acquire_of_not_vacant hv
      rw [hslot, hstarts]
      exact hle

/-- Whoever asks is served from then on. -/
theorem served_asked (hi : Inv s) :
    (Progress.asked s.lifecycle.callers s.lifecycle.source).Served
      { s with lifecycle := s.lifecycle.acquire } := by
  have hi' := hi.acquire
  have hwaiting {a : Nat} : (s.lifecycle.callers, a) ∈ s.lifecycle.acquire.waiting ↔
      s.lifecycle.acquire.slot = .starting a :=
    Lifecycle.mem_waiting_acquire_self fun a ha => Nat.lt_irrefl _ (hi.of_waiting ha)
  have houtcome := Lifecycle.outcome?_acquire_self (hi.outcome?_eq_none (Nat.le_refl _))
  have hlt : s.lifecycle.callers < s.lifecycle.acquire.callers := by
    rw [Lifecycle.callers_acquire]
    exact Nat.lt_succ_self _
  rcases Lifecycle.slot_acquire s.lifecycle with hslot | ⟨h, hslot, hsource⟩
  · -- The attempt is in flight.
    have hin := (hi'.of_starting hslot).2
    refine ⟨hlt, List.mem_append_left _ hin, fun a => ?_, ?_⟩
    · rw [hwaiting, hslot, Slot.starting.injEq]
      exact ⟨fun ha => ⟨ha.symm, ha ▸ hin⟩, fun ha => ha.1.symm⟩
    · rw [houtcome, hslot]
      exact (hi'.result?_eq_none hin).symm
  · -- The attempt has made the handle that is there.
    have hresult := hi'.of_ready hslot
    rw [hsource] at hresult
    refine ⟨hlt, mem_attempts_of_result? hresult, fun a => ?_, ?_⟩
    · rw [hwaiting, hslot]
      refine iff_of_false nofun ?_
      rintro ⟨rfl, ha⟩
      exact nomatch (hi'.result?_eq_none ha).symm.trans hresult
    · rw [houtcome, hslot]
      exact hresult.symm

theorem ask (hi : Inv s) (i : Nat) : Inv (s.ask i) :=
  hi.acquire.mark hi.served_asked

/-- An attempt that completes is still one that was started. -/
theorem perm_complete {g : Nat} (hg : g ∈ s.lifecycle.inFlight)
    (outcome : Except HostError Interpreter) :
    (s.complete g outcome).attempts.Perm s.attempts := by
  rw [State.complete, attempts, Lifecycle.complete_eq, attempts, List.map_cons]
  exact List.perm_middle.trans ((List.perm_cons_erase hg).symm.append_right _)

theorem result?_complete {g a : Nat} {outcome : Except HostError Interpreter} :
    (s.complete g outcome).result? a =
      if a = g then some (outcome.map (Handle.mk g)) else s.result? a := by
  rw [State.complete, result?, List.lookup_cons, result?]
  by_cases ha : a = g
  · rw [if_pos ha, beq_iff_eq.2 ha]
  · rw [if_neg ha, beq_false_of_ne ha]

/-- What an attempt came to stays. -/
theorem result?_complete_of_some (hi : Inv s) {g a : Nat} (hg : g ∈ s.lifecycle.inFlight)
    {outcome : Except HostError Interpreter} {result : Except HostError Handle}
    (h : s.result? a = some result) : (s.complete g outcome).result? a = some result := by
  rw [result?_complete, if_neg, h]
  rintro rfl
  exact nomatch (hi.result?_eq_none hg).symm.trans h

theorem mem_inFlight_complete (hi : Inv s) {g a : Nat} {outcome : Except HostError Interpreter} :
    a ∈ (s.complete g outcome).lifecycle.inFlight ↔ a ∈ s.lifecycle.inFlight ∧ a ≠ g := by
  rw [State.complete, Lifecycle.complete_eq, and_comm]
  exact (List.nodup_append.1 hi.nodup).1.mem_erase_iff

/-- An attempt completes, and those who asked before are served as is right. -/
theorem served_complete (hi : Inv s) {g : Nat} (hg : g ∈ s.lifecycle.inFlight)
    (outcome : Except HostError Interpreter) {p : Progress} (hp : p.Served s) :
    p.Served (s.complete g outcome) := by
  match p with
  | .asked caller attempt =>
    obtain ⟨hlt, hmem, hwaiting, houtcome⟩ := hp
    refine ⟨hlt, ((perm_complete hg outcome).mem_iff).2 hmem, fun a => ?_, ?_⟩
    · refine Lifecycle.mem_waiting_complete.trans ?_
      rw [hwaiting, hi.mem_inFlight_complete, and_assoc]
    · -- It waits for its own attempt only, so it gets that outcome or keeps what it has.
      rw [result?_complete, State.complete, Lifecycle.outcome?_complete, houtcome]
      by_cases ha : attempt = g
      · rw [if_pos ((hwaiting g).2 ⟨ha.symm, hg⟩), if_pos ha]
      · rw [if_neg fun hw => ha ((hwaiting g).1 hw).1.symm, if_neg ha]
  | .obtained attempt result => exact hi.result?_complete_of_some hg hp
  | .called | .cleared | .spawned | .dismissed => exact trivial

theorem complete (hi : Inv s) {g : Nat} (hg : g ∈ s.lifecycle.inFlight)
    (outcome : Except HostError Interpreter) : Inv (s.complete g outcome) where
  attempts_perm := (perm_complete hg outcome).trans hi.attempts_perm
  of_starting {a} ha := by
    obtain ⟨ha, hne⟩ := Lifecycle.slot_complete_eq_starting.1 ha
    obtain ⟨hstarts, hin⟩ := hi.of_starting ha
    rw [hi.mem_inFlight_complete, State.complete, Lifecycle.complete_eq]
    exact ⟨hstarts, hin, hne⟩
  of_ready {h} hh := by
    rcases Lifecycle.slot_complete_eq_ready.1 hh with ⟨-, hresult⟩ | hh
    · rw [result?_complete, if_pos (Handle.attempt_of_map_mk hresult), hresult]
    · exact hi.result?_complete_of_some hg (hi.of_ready hh)
  of_waiting ha := by
    rw [State.complete, Lifecycle.mem_waiting_complete] at ha
    exact hi.of_waiting ha.1
  outcome?_eq_none {caller} hc := by
    rw [State.complete, Lifecycle.outcome?_complete,
      if_neg fun hw => Nat.not_lt.2 hc (hi.of_waiting hw)]
    exact hi.outcome?_eq_none hc
  served hk := hi.served_complete hg outcome (hi.served hk)
  starts_le := by
    have hle := hi.starts_le
    rw [State.complete, Lifecycle.complete_eq]
    dsimp only
    by_cases hs : s.lifecycle.slot = .starting g
    · -- A failure leaves the slot vacant, and is counted.
      rw [hs] at hle ⊢
      rw [if_pos (Slot.awaits_iff.2 rfl), Slot.awaits_iff.2 rfl]
      cases outcome with
      | ok i => exact hle
      | error e => exact Nat.succ_le_succ hle
    · have hawaits : s.lifecycle.slot.awaits g = false :=
        Bool.eq_false_iff.2 (mt Slot.awaits_iff.1 hs)
      rw [hawaits]
      exact hle

/-! ## Runs -/

theorem step (hi : Inv s) {m : Move} (h : s.step m = some s') : Inv s' := by
  rcases step_cases h with ⟨c, rfl⟩ | ⟨i, k, hk, hsection⟩ | ⟨g, outcome, hg, rfl⟩
  · exact hi.call c
  · cases hsection with
    | pass _ hp => exact hi.mark (by rcases hp with rfl | rfl <;> exact trivial)
    | take hp ho =>
      have hserved := hi.served (List.mem_of_getElem? hk)
      rw [hp] at hserved
      exact hi.mark (hserved.2.2.2.symm.trans ho)
    | ask => exact hi.ask i
    | clear => exact hi.clear.mark trivial
  · exact hi.complete hg outcome

end Inv

/-- Every state that is reached is as it should be. -/
theorem State.run_inv {settings : Settings} {moves : List Move}
    (h : (initial settings).run moves = some s) : Inv s :=
  run_induction (fun hi hm => hi.step hm) h (.initial settings)

end Concurrent

end Playpen
