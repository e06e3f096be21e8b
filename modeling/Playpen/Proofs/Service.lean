import Playpen.Proofs.Concurrent
import Playpen.Proofs.Recovery
import Playpen.Service

/-!
# What holds while attempts go on

Attempts are gone through beside the calls that wait for them. A move is one of the calls
(`State.step`), takes an attempt a part further, completes it, or changes the store only
(`Service.step_cases`). So what is known of the calls (`Concurrent.Inv`) is known here too,
and the attempts under way are those that have not completed (`Service.Inv`).
-/

namespace Playpen.Concurrent

variable {s s' : State}

theorem State.settings_step {m : Move} (h : s.step m = some s') : s'.settings = s.settings := by
  rcases step_cases h with ⟨c, rfl⟩ | ⟨i, k, -, hsection⟩ | ⟨g, outcome, -, rfl⟩
  · rfl
  · cases hsection <;> rfl
  · rfl

/-- Only completing an attempt changes what attempts have come to. -/
theorem State.result?_step {m : Move} (h : s.step m = some s')
    (hm : ∀ g outcome, m ≠ .complete g outcome) (g : Nat) : s'.result? g = s.result? g := by
  cases m with
  | call c =>
    obtain rfl := Option.some.inj h
    rfl
  | proceed i =>
    obtain ⟨k, -, hproceed⟩ := Option.bind_eq_some_iff.1 h
    cases proceed_cases hproceed <;> rfl
  | complete g outcome => exact absurd rfl (hm g outcome)

/-- A section of a call starts the next attempt or none. -/
theorem State.inFlight_step {m : Move} (h : s.step m = some s')
    (hm : ∀ g outcome, m ≠ .complete g outcome) :
    s'.lifecycle.inFlight =
      if s.lifecycle.starts < s'.lifecycle.starts then
        s'.lifecycle.starts :: s.lifecycle.inFlight
      else s.lifecycle.inFlight := by
  have hsame {l : Lifecycle Handle HostError} (hstarts : l.starts = s.lifecycle.starts)
      (hin : l.inFlight = s.lifecycle.inFlight) :
      l.inFlight = if s.lifecycle.starts < l.starts then l.starts :: s.lifecycle.inFlight
        else s.lifecycle.inFlight := by
    rw [if_neg (by omega), hin]
  cases m with
  | call c =>
    obtain rfl := Option.some.inj h
    exact hsame rfl rfl
  | proceed i =>
    obtain ⟨k, -, hproceed⟩ := Option.bind_eq_some_iff.1 h
    cases proceed_cases hproceed with
    | pass | take | clear => exact hsame rfl rfl
    | ask =>
      rw [show (s.ask i).lifecycle = s.lifecycle.acquire from rfl]
      by_cases hv : s.lifecycle.slot = .vacant
      · rw [Lifecycle.acquire_of_vacant hv, if_pos (Nat.lt_succ_self _)]
      · obtain ⟨-, hstarts, hin⟩ := Lifecycle.acquire_of_not_vacant hv
        exact hsame hstarts hin
  | complete g outcome => exact absurd rfl (hm g outcome)

namespace Service

variable {σ : Type} [Store σ] {x x' : Service σ} {settings : Settings}

/-! ## Moves -/

omit [Store σ] in
theorem withState_of_starts_eq {state : State}
    (h : state.lifecycle.starts = x.state.lifecycle.starts) :
    x.withState state = { x with state } := by
  rw [withState, if_neg (by omega)]

/-- What a move may do. -/
inductive Goes (x : Service σ) : Move σ → Service σ → Prop where
  /-- A call is made or gets further, and an attempt that it starts is under way. -/
  | calls {m : Move σ} {m' : Concurrent.Move} {state : State} :
      x.state.step m' = some state → (∀ g outcome, m' ≠ .complete g outcome) →
      Goes x m (x.withState state)
  /-- An attempt gets further, and does not fail. -/
  | reach {m : Move σ} {cache : BinaryCache σ} {g : Nat} {stage : Stage} :
      (∀ e, stage ≠ .made (.error e)) → Goes x m ({ x with cache }.reach g stage)
  | answer {cache : BinaryCache σ} {g : Nat} {answer : Except HostError Bytes} :
      Goes x (.answer g answer)
        ({ x with cache }.reach g (.made (Bootstrap.downloaded x.load answer)))
  | complete {m : Move σ} {g : Nat} {outcome : Except HostError Interpreter} {state : State} :
      (g, .made outcome) ∈ x.attempts → x.state.step (.complete g outcome) = some state →
      Goes x m { x with state, attempts := x.attempts.filter fun a => a.1 != g }
  /-- Only the store changes. -/
  | store {m : Move σ} {cache : BinaryCache σ} : Goes x m { x with cache }

theorem next_cases {m : Move σ} {g : Nat} {stage : Stage} (hg : (g, stage) ∈ x.attempts)
    (h : x.next g stage = some x') : Goes x m x' := by
  cases stage with
  | started =>
    obtain rfl := Option.some.inj h
    exact .reach nofun
  | sought found? =>
    rw [next] at h
    obtain ⟨cache, made?, hconsider⟩ :
      ∃ cache made?, Bootstrap.consider x.load x.url x.cache found? = (cache, made?) := ⟨_, _, rfl⟩
    rw [hconsider] at h
    cases made? with
    | some i =>
      obtain rfl := Option.some.inj h
      exact .reach nofun
    | none =>
      obtain rfl := Option.some.inj h
      exact .reach nofun
  | missed =>
    obtain rfl := Option.some.inj h
    exact .reach nofun
  | awaiting => cases h
  | made outcome =>
    obtain ⟨state, hstate, rfl⟩ := Option.map_eq_some_iff.1 h
    exact .complete hg hstate

theorem step_cases {m : Move σ} (h : x.step m = some x') : Goes x m x' := by
  cases m with
  | call c =>
    rw [step] at h
    obtain ⟨state, hstate, rfl⟩ := Option.map_eq_some_iff.1 h
    exact .calls hstate nofun
  | proceed i =>
    obtain ⟨state, hstate, rfl⟩ := Option.map_eq_some_iff.1 h
    exact .calls hstate nofun
  | attempt g =>
    obtain ⟨stage, hstage, hnext⟩ := Option.bind_eq_some_iff.1 h
    obtain ⟨before, after, hattempts, -⟩ := List.lookup_eq_some_iff.1 hstage
    exact next_cases (hattempts ▸ List.mem_append_right _ List.mem_cons_self) hnext
  | answer g answer =>
    rw [step] at h
    split at h
    · rw [Bootstrap.complete_eq] at h
      obtain rfl := Option.some.inj h
      exact .answer
    · cases h
  | write n =>
    obtain ⟨copy, -, rfl⟩ := Option.map_eq_some_iff.1 h
    exact .store
  | change s =>
    obtain ⟨-, h⟩ := Option.ite_none_right_eq_some.1 h
    obtain rfl := Option.some.inj h
    exact .store

/-! ## The invariant -/

/-- What holds of every state that is reached. -/
structure Inv (settings : Settings) (x : Service σ) : Prop where
  settings_eq : x.state.settings = settings
  calls : Concurrent.Inv x.state
  /-- The attempts under way are those that calls wait for, or that were let go of. -/
  attempts_perm : (x.attempts.map Prod.fst).Perm x.state.lifecycle.inFlight

namespace Inv

omit [Store σ] in
theorem initial (settings : Settings) (decode : Bytes → Option Image) (cache : BinaryCache σ) :
    Inv settings (initial settings decode cache) where
  settings_eq := rfl
  calls := .initial settings
  attempts_perm := .nil

omit [Store σ] in
theorem nodup (hi : Inv settings x) : (x.attempts.map Prod.fst).Nodup :=
  hi.attempts_perm.nodup_iff.2 (List.nodup_append.1 hi.calls.nodup).1

omit [Store σ] in
/-- What the store holds is of no account. -/
theorem store (hi : Inv settings x) (cache : BinaryCache σ) : Inv settings { x with cache } :=
  ⟨hi.settings_eq, hi.calls, hi.attempts_perm⟩

omit [Store σ] in
/-- The parts of an attempt are gone through without touching the calls. -/
theorem reach (hi : Inv settings x) (cache : BinaryCache σ) (g : Nat) (stage : Stage) :
    Inv settings ({ x with cache }.reach g stage) where
  settings_eq := hi.settings_eq
  calls := hi.calls
  attempts_perm := by
    refine .trans (.of_eq ?_) hi.attempts_perm
    rw [Service.reach, List.map_map]
    refine List.map_congr_left fun a _ => ?_
    rw [Function.comp_apply]
    split
    · exact Eq.symm ‹_›
    · rfl

omit [Store σ] in
/-- A call is made or gets further. -/
theorem withState (hi : Inv settings x) {m : Concurrent.Move} {state : State}
    (h : x.state.step m = some state) (hm : ∀ g outcome, m ≠ .complete g outcome) :
    Inv settings (x.withState state) where
  settings_eq := (State.settings_step h).trans hi.settings_eq
  calls := hi.calls.step h
  attempts_perm := by
    -- Both lists get the new attempt, one at its end and the other at its head.
    rw [Service.withState]
    dsimp only
    rw [State.inFlight_step h hm]
    split
    · rw [List.map_append]
      exact (List.perm_append_singleton ..).trans (hi.attempts_perm.cons _)
    · exact hi.attempts_perm

omit [Store σ] in
/-- An attempt is no longer under way when it has completed. -/
theorem complete (hi : Inv settings x) {g : Nat} {outcome : Except HostError Interpreter}
    {state : State} (h : x.state.step (.complete g outcome) = some state) :
    Inv settings { x with state, attempts := x.attempts.filter fun a => a.1 != g } where
  settings_eq := (State.settings_step h).trans hi.settings_eq
  calls := hi.calls.step h
  attempts_perm := by
    obtain ⟨-, h⟩ := Option.ite_none_right_eq_some.1 h
    obtain rfl := Option.some.inj h
    rw [State.complete, Lifecycle.complete_eq]
    dsimp only
    have hmap : (x.attempts.filter fun a => a.1 != g).map Prod.fst =
        (x.attempts.map Prod.fst).filter (· != g) := by
      rw [List.filter_map]
      rfl
    -- An attempt is under way once, so taking it away leaves what is still in flight.
    rw [hmap, ← hi.nodup.erase_eq_filter]
    exact hi.attempts_perm.erase g

theorem step {m : Move σ} (hi : Inv settings x) (h : x.step m = some x') : Inv settings x' := by
  cases step_cases h with
  | calls hstate hm => exact hi.withState hstate hm
  | reach hstage => exact hi.reach _ _ _
  | answer => exact hi.reach _ _ _
  | complete hg hstate => exact hi.complete hstate
  | store => exact hi.store _

end Inv

/-- What every move of a run preserves holds after it. -/
theorem run_induction {P : Service σ → Prop} {moves : List (Move σ)}
    (hstep : ∀ {x m x'}, m ∈ moves → P x → step x m = some x' → P x')
    (h : x.run moves = some x') (hx : P x) : P x' :=
  Playpen.Runs.run_induction hstep h hx

/-- What happens to the calls is a run of theirs. -/
theorem exists_run_state {moves : List (Move σ)} (h : x.run moves = some x') :
    ∃ calls, x.state.run calls = some x'.state := by
  -- The moves so far are those of the calls among them, one move at a time.
  refine run_induction (P := fun y => ∃ calls, x.state.run calls = some y.state) ?_ h ⟨[], rfl⟩
  rintro y m y' - ⟨before, hbefore⟩ hstep
  cases step_cases hstep with
  | calls hstate => exact ⟨_, Playpen.Runs.run_concat hbefore hstate⟩
  | complete _ hstate => exact ⟨_, Playpen.Runs.run_concat hbefore hstate⟩
  | reach | answer | store => exact ⟨before, hbefore⟩

theorem run_inv {moves : List (Move σ)} (h : x.run moves = some x') (hi : Inv settings x) :
    Inv settings x' :=
  run_induction (fun _ hi hm => hi.step hm) h hi

end Service

end Playpen.Concurrent
