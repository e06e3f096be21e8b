import Playpen.Proofs.Errors
import Playpen.Proofs.Refinement

/-!
# What the tasks of a runner come to

A runner that takes a call takes it through its sections until it waits or is over
(`Rests.call`), and what its task comes to the call may come to (`Carries.replies`). So all
that a runner does can happen when calls and attempts go on at the same time
(`Runner.Took.exists_service`), and what is known of that holds of runners, such as which
errors there are (`Runner.error_of_reply?`).
-/

namespace Playpen

theorem Runner.state_eq_uninitialized_iff {σ : Type} {r : Runner σ} :
    r.state = .uninitialized ↔ r.lifecycle.slot.isVacant := by
  rw [state]
  cases r.lifecycle.slot <;> simp [Slot.isVacant]

namespace Concurrent.Service

variable {σ : Type} [Store σ] {x x' x'' : Service σ} {r : Runner σ} {settings : Settings}
  {fails : HostError → Prop}

namespace Rests

/-! ## Calls -/

theorem calls_mark {s : State} {calls : List Ongoing} {k : Ongoing} {p : Progress}
    (h : s.calls = calls ++ [k]) : (s.mark calls.length p).calls = calls ++ [⟨k.call, p⟩] := by
  rw [State.mark]
  dsimp only
  rw [h, List.modify_eq_take_cons_drop (by simp)]
  simp

theorem getElem?_last {s : State} {calls : List Ongoing} {k : Ongoing} (h : s.calls = calls ++ [k]) :
    s.calls[calls.length]? = some k := by
  rw [h]
  exact List.getElem?_concat_length

variable (fails) {calls : List Ongoing} {k : Ongoing}

/-- A call is made. -/
theorem called (h : x.Rests r) (c : Call) :
    ∃ x', Runs fails x x' ∧ x'.state.calls = x.state.calls ++ [{ call := c }] ∧ x'.Rests r := by
  have hstep : x.step (.call c) =
      some { x with state := { x.state with calls := x.state.calls ++ [{ call := c }] } } :=
    congrArg some (withState_of_starts_eq rfl)
  refine ⟨_, .of_step hstep rfl, rfl, ?_⟩
  exact { h with
    inv := h.inv.step hstep
    spawned := by
      rw [List.countP_append, h.spawned]
      rfl }

/-- The call that was made last asks. -/
theorem askLast (h : x.Rests r) (hcalls : x.state.calls = calls ++ [k]) (hk : isSpawned k = false)
    (hproceed : x.state.proceed calls.length k = some (x.state.ask calls.length)) :
    ∃ x' g, Runs fails x x' ∧
      x'.state.calls = calls ++ [⟨k.call, .asked r.lifecycle.callers g⟩] ∧ x'.Rests r.acquire := by
  have hcount : (x.state.ask calls.length).calls.countP isSpawned = r.preloads + 0 := by
    have hmark := countP_mark
      (p := .asked x.state.lifecycle.callers x.state.lifecycle.source) (getElem?_last hcalls) rfl
    rw [hk] at hmark
    exact hmark.trans h.spawned
  obtain ⟨x', hruns, hcalls', h'⟩ := h.ask fails (getElem?_last hcalls) hproceed hcount
  refine ⟨x', x.state.lifecycle.source, hruns, hcalls'.trans ?_, h'⟩
  rw [← h.lifecycle]
  exact calls_mark hcalls

/-- The call that was made last is over at once, or goes on in the background. -/
theorem markLast {p : Progress} {preloads : Nat} (h : x.Rests r)
    (hcalls : x.state.calls = calls ++ [k])
    (hproceed : x.state.proceed calls.length k = some (x.state.mark calls.length p))
    (hcount : (x.state.mark calls.length p).calls.countP isSpawned = preloads) :
    ∃ x', Runs fails x x' ∧ x'.state.calls = calls ++ [⟨k.call, p⟩] ∧
      x'.Rests { r with preloads } := by
  have hstep : x.step (.proceed calls.length) =
      some { x with state := x.state.mark calls.length p } := by
    rw [step, State.step, getElem?_last hcalls, Option.bind_some, hproceed]
    exact congrArg some (withState_of_starts_eq rfl)
  refine ⟨_, .of_step hstep rfl, calls_mark hcalls, ?_⟩
  exact { h with inv := h.inv.step hstep, spawned := hcount }

theorem dismissLast {c : Call} (h : x.Rests r) (hcalls : x.state.calls = calls ++ [{ call := c }])
    (hproceed : x.state.proceed calls.length { call := c } =
      some (x.state.mark calls.length .dismissed)) :
    ∃ x', Runs fails x x' ∧ x'.state.calls = calls ++ [⟨c, .dismissed⟩] ∧ x'.Rests r :=
  h.markLast fails hcalls hproceed ((countP_mark (getElem?_last hcalls) rfl).trans h.spawned)

/-- The call that was made last empties the slot. -/
theorem clearLast (h : x.Rests r) (hcalls : x.state.calls = calls ++ [{ call := .reset }]) :
    ∃ x', Runs fails x x' ∧ x'.state.calls = calls ++ [⟨.reset, .cleared⟩] ∧
      x'.Rests r.clear := by
  have hstep : x.step (.proceed calls.length) =
      some { x with state := x.state.clear calls.length } := by
    rw [step, State.step, getElem?_last hcalls]
    exact congrArg some (withState_of_starts_eq rfl)
  refine ⟨_, .of_step hstep rfl, calls_mark hcalls, ?_⟩
  exact { h with
    inv := h.inv.step hstep
    lifecycle := congrArg Lifecycle.clear h.lifecycle
    spawned := (countP_mark (getElem?_last hcalls) rfl).trans h.spawned }

end Rests

/-- The call is the one that the task of a runner was made for, and as far. -/
inductive Carries (settings : Settings) : Ongoing → Task → Prop where
  | refused {c : Call} {request : Request} : c.request? settings = some request →
      Carries settings ⟨c, .dismissed⟩ (.answered (.failed Runner.zeroTimeout))
  | preloaded {background : Bool} {p : Progress} : p ≠ .called →
      Carries settings ⟨.preload background, p⟩ (.answered .done)
  | checked {source : String} {v : SyntaxVerdict} :
      Carries settings ⟨.checkSyntax source, .dismissed⟩ (.answered (.verdict v))
  | checking {source : String} : Carries settings ⟨.checkSyntax source, .dismissed⟩ .checking
  | initializing {c : Call} {caller g : Nat} : c = .start ∨ c = .reset →
      Carries settings ⟨c, .asked caller g⟩ (.initializing caller)
  | executing {c : Call} {request : Request} {caller g : Nat} :
      c.request? settings = some request →
      Carries settings ⟨c, .asked caller g⟩ (.executing caller request)

/-- A runner that takes a call takes it through its sections, with nothing between them, until
    it waits or is over. -/
theorem Rests.call (fails : HostError → Prop) (h : x.Rests r) (c : Call) :
    ∃ x' p, Runs fails x x' ∧ x'.state.calls = x.state.calls ++ [⟨c, p⟩] ∧
      x'.Rests (r.call c).1 ∧ Carries r.settings ⟨c, p⟩ (r.call c).2 := by
  obtain ⟨y, hmade, hcalls, hy⟩ := h.called fails c
  cases c with
  | start =>
    obtain ⟨x', g, hruns, hcalls', h'⟩ := hy.askLast fails hcalls rfl rfl
    exact ⟨x', _, hmade.trans hruns, hcalls', h', .initializing (.inl rfl)⟩
  | reset =>
    obtain ⟨z, hcleared, hcalls', hz⟩ := hy.clearLast fails hcalls
    obtain ⟨x', g, hruns, hcalls'', h'⟩ := hz.askLast fails hcalls' rfl rfl
    exact ⟨x', _, (hmade.trans hcleared).trans hruns, hcalls'', h', .initializing (.inr rfl)⟩
  | preload background =>
    have hproceed : y.state.proceed x.state.calls.length { call := .preload background } =
        some (y.state.mark x.state.calls.length
          (if background && r.lifecycle.slot.isVacant then .spawned else .dismissed)) := by
      rw [← hy.lifecycle]
      rfl
    by_cases hvacant : background ∧ r.state = .uninitialized
    · have hrunner : r.call (.preload background) =
          ({ r with preloads := r.preloads + 1 }, .answered .done) :=
        congrArg (·, _) (if_pos hvacant)
      rw [Runner.state_eq_uninitialized_iff, ← Bool.and_eq_true] at hvacant
      rw [if_pos hvacant] at hproceed
      have hcount : (y.state.mark x.state.calls.length .spawned).calls.countP isSpawned =
          r.preloads + 1 := by
        rw [Rests.calls_mark hcalls, List.countP_append, h.spawned]
        rfl
      obtain ⟨x', hruns, hcalls', h'⟩ := hy.markLast fails hcalls hproceed hcount
      rw [hrunner]
      refine ⟨x', _, hmade.trans hruns, hcalls', h', .preloaded fun h => ?_⟩
      cases h
    · have hrunner : r.call (.preload background) = (r, .answered .done) :=
        congrArg (·, _) (if_neg hvacant)
      rw [Runner.state_eq_uninitialized_iff, ← Bool.and_eq_true] at hvacant
      rw [if_neg hvacant] at hproceed
      obtain ⟨x', hruns, hcalls', h'⟩ := hy.dismissLast fails hcalls hproceed
      rw [hrunner]
      refine ⟨x', _, hmade.trans hruns, hcalls', h', .preloaded fun h => ?_⟩
      cases h
  | execute source input? timeout? =>
    by_cases hzero : (timeout?.getD r.settings.defaultTimeout).isZero
    · rw [Runner.call_execute_of_zero timeout? hzero]
      rw [← hy.inv.settings_eq] at hzero
      obtain ⟨x', hruns, hcalls', h'⟩ := hy.dismissLast fails hcalls (congrArg some (if_pos hzero))
      exact ⟨x', _, hmade.trans hruns, hcalls', h', .refused rfl⟩
    · rw [Runner.call_execute_of_not_zero timeout? hzero]
      rw [← hy.inv.settings_eq] at hzero
      obtain ⟨x', g, hruns, hcalls', h'⟩ := hy.askLast fails hcalls rfl (congrArg some (if_neg hzero))
      exact ⟨x', _, hmade.trans hruns, hcalls', h', .executing rfl⟩
  | checkSyntax source =>
    obtain ⟨x', hruns, hcalls', h'⟩ := hy.dismissLast fails hcalls rfl
    refine ⟨x', _, hmade.trans hruns, hcalls', h', ?_⟩
    rw [Runner.call]
    cases SyntaxCheck.run (r.handle?.map Handle.interpreter) source with
    | none => exact .checking
    | some v => exact .checked

/-- Asking in the background is of no account for a task. -/
theorem Leads.carries (h : Leads fails x x') {i : Nat} {c : Call} {p : Progress} {t : Task}
    (hp : x.state.calls[i]? = some ⟨c, p⟩) (ht : Carries settings ⟨c, p⟩ t) :
    ∃ p', x'.state.calls[i]? = some ⟨c, p'⟩ ∧ Carries settings ⟨c, p'⟩ t := by
  obtain ⟨⟨c', p'⟩, hk', heq | ⟨hspawned, rfl, hattempt⟩⟩ := h.kept hp
  · obtain ⟨rfl, rfl⟩ := Ongoing.mk.inj heq
    exact ⟨_, hk', ht⟩
  · obtain rfl : p = .spawned := progress_of_isSpawned hspawned
    cases ht with
    | preloaded =>
      refine ⟨p', hk', .preloaded ?_⟩
      rintro rfl
      cases hattempt

/-- What a task comes to the call may come to, as soon as it has taken what it was given. -/
theorem Carries.replies (h : x.Rests r) {i : Nat} {k : Ongoing} {t : Task} {reply : Reply}
    (hk : x.state.calls[i]? = some k) (ht : Carries r.settings k t)
    (hreply : r.reply? t = some reply) (hverdict : ∀ v, reply ≠ .verdict v) :
    ∃ x' p, Runs fails x x' ∧ x'.state.calls[i]? = some ⟨k.call, p⟩ ∧
      Ongoing.Replies r.settings ⟨k.call, p⟩ reply := by
  -- One who was given an outcome takes it.
  have htake {c : Call} {caller g : Nat} {outcome : Except HostError Handle}
      (hk : x.state.calls[i]? = some ⟨c, .asked caller g⟩)
      (houtcome : r.lifecycle.outcome? caller = some outcome) :
      ∃ x', Runs fails x x' ∧ x'.state.calls[i]? = some ⟨c, .obtained g outcome⟩ := by
    have hstep : x.step (.proceed i) =
        some { x with state := x.state.mark i (.obtained g outcome) } := by
      rw [step, State.step, hk, Option.bind_some, State.proceed, h.lifecycle]
      dsimp only
      rw [houtcome]
      exact congrArg some (withState_of_starts_eq rfl)
    refine ⟨_, .of_step hstep rfl, ?_⟩
    rw [State.mark]
    dsimp only
    rw [List.getElem?_modify_eq, hk]
    rfl
  cases ht with
  | refused hr =>
    obtain rfl := Option.some.inj hreply
    exact ⟨x, _, .refl x, hk, .refused hr⟩
  | preloaded hp =>
    obtain rfl := Option.some.inj hreply
    exact ⟨x, _, .refl x, hk, .preloaded hp⟩
  | checked =>
    obtain rfl := Option.some.inj hreply
    exact absurd rfl (hverdict _)
  | checking => cases hreply
  | initializing hc =>
    obtain ⟨outcome, houtcome, hreply⟩ := Option.map_eq_some_iff.1 hreply
    obtain ⟨x', hruns, hk'⟩ := htake hk houtcome
    refine ⟨x', _, hruns, hk', ?_⟩
    cases outcome with
    | ok handle =>
      obtain rfl := hreply
      rcases hc with rfl | rfl
      · exact .started
      · exact .restarted
    | error e =>
      obtain rfl := hreply
      refine .failed fun background => ?_
      rcases hc with rfl | rfl <;> intro h <;> cases h
  | executing hr =>
    obtain ⟨outcome, houtcome, hreply⟩ := Option.map_eq_some_iff.1 hreply
    obtain ⟨x', hruns, hk'⟩ := htake hk houtcome
    refine ⟨x', _, hruns, hk', ?_⟩
    cases outcome with
    | ok handle =>
      obtain rfl := hreply
      exact .ran hr (Race.returns_run _ _ 0)
    | error e =>
      obtain rfl := hreply
      refine .failed fun background => ?_
      rintro rfl
      cases hr

end Concurrent.Service

/-! ## All that a runner does -/

namespace Runner

open Concurrent

variable {σ : Type} [Store σ] {settings : Settings} {decode : Bytes → Option Image}
  {cache : BinaryCache σ} {fails : HostError → Prop} {r : Runner σ} {tasks : List (Call × Task)}

/-- A runner that has taken these calls, and made these tasks for them, and has let all go on
    now and then. The network has failed only so, and what is in the store may be changed by
    others. -/
inductive Took (settings : Settings) (decode : Bytes → Option Image) (cache : BinaryCache σ)
    (fails : HostError → Prop) : Runner σ → List (Call × Task) → Prop where
  | create : Took settings decode cache fails (create settings decode cache) []
  | call {r : Runner σ} {tasks : List (Call × Task)} (c : Call) :
      Took settings decode cache fails r tasks →
      Took settings decode cache fails (r.call c).1 (tasks ++ [(c, (r.call c).2)])
  | settle {r : Runner σ} {tasks : List (Call × Task)}
      {network : Nat → Option (Except HostError Bytes)} :
      Took settings decode cache fails r tasks →
      (∀ n e, network n = some (.error e) → fails e) →
      Took settings decode cache fails (r.settle network) tasks
  | change {r : Runner σ} {tasks : List (Call × Task)} (s : σ) :
      Took settings decode cache fails r tasks → r.cache.isCached →
      Took settings decode cache fails { r with cache := { r.cache with store? := some s } } tasks

/-- All that it has done can happen when calls and attempts go on at the same time. -/
theorem Took.exists_service (h : Took settings decode cache fails r tasks) :
    ∃ x, Service.Runs fails (.initial settings decode cache) x ∧ x.Rests r ∧
      x.state.calls.length = tasks.length ∧ ∀ (i : Nat) c t, tasks[i]? = some (c, t) →
        ∃ p, x.state.calls[i]? = some ⟨c, p⟩ ∧ Service.Carries settings ⟨c, p⟩ t := by
  induction h with
  | create =>
    refine ⟨_, .refl _, .create settings decode cache, rfl, fun i c t ht => ?_⟩
    cases ht
  | @call r tasks c _ ih =>
    obtain ⟨x, hruns, hrests, hlength, htasks⟩ := ih
    obtain ⟨x', p, hruns', hcalls, hrests', hcarries⟩ := hrests.call fails c
    rw [hrests.settings_of_runs hruns] at hcarries
    refine ⟨x', hruns.trans hruns', hrests', by simp [hcalls, hlength], fun i c' t ht => ?_⟩
    rw [hcalls]
    by_cases hi : i < tasks.length
    · rw [List.getElem?_append_left hi] at ht
      rw [List.getElem?_append_left (hlength ▸ hi)]
      exact htasks i c' t ht
    · -- It is the task of this call.
      have hlast : i = tasks.length := by
        have := (List.getElem?_eq_some_iff.1 ht).1
        rw [List.length_append, List.length_singleton] at this
        omega
      rw [hlast, List.getElem?_concat_length] at ht
      obtain ⟨rfl, rfl⟩ := Prod.mk.inj (Option.some.inj ht)
      rw [hlast, ← hlength, List.getElem?_concat_length]
      exact ⟨p, rfl, hcarries⟩
  | settle _ hfails ih =>
    obtain ⟨x, hruns, hrests, hlength, htasks⟩ := ih
    obtain ⟨x', hleads, hrests'⟩ := hrests.settle hfails
    refine ⟨x', hruns.trans hleads.runs, hrests', hleads.length_eq.trans hlength,
      fun i c t ht => ?_⟩
    obtain ⟨p, hp, hcarries⟩ := htasks i c t ht
    exact hleads.carries hp hcarries
  | change s _ hcached ih =>
    obtain ⟨x, hruns, hrests, hlength, htasks⟩ := ih
    have hstep : x.step (.change s) =
        some { x with cache := { x.cache with store? := some s } } := by
      rw [← hrests.cache] at hcached
      exact if_pos hcached
    refine ⟨_, hruns.trans (.of_step hstep rfl), ?_, hlength, htasks⟩
    exact { hrests with inv := hrests.inv.store _, cache := by rw [hrests.cache] }

/-- In particular its life cycle is that of calls that go on at the same time. -/
theorem Took.exists_state (h : Took settings decode cache fails r tasks) :
    ∃ moves s, (State.initial settings).run moves = some s ∧ s.lifecycle = r.lifecycle := by
  obtain ⟨x, ⟨moves, hmoves, -⟩, hrests, -⟩ := h.exists_service
  obtain ⟨calls, hcalls⟩ := Service.exists_run_state hmoves
  exact ⟨calls, x.state, hcalls, hrests.lifecycle⟩

/-- If the network fails with errors of downloads only, a task fails because its limit is
    zero, or because the interpreter could not be got. -/
theorem error_of_reply? (h : Took settings decode cache (fun e => e.isFetch) r tasks) {i : Nat}
    {c : Call} {t : Task} (ht : tasks[i]? = some (c, t)) {e : HostError}
    (hreply : r.reply? t = some (.failed e)) :
    if c.hasZeroLimit settings then e = zeroTimeout else e.isInitialization := by
  obtain ⟨x, hruns, hrests, -, htasks⟩ := h.exists_service
  obtain ⟨p, hp, hcarries⟩ := htasks i c t ht
  have hsettings := hrests.settings_of_runs hruns
  rw [← hsettings] at hcarries
  obtain ⟨x', p', hruns', hp', hreplies⟩ := hcarries.replies hrests hp hreply fun v h => by cases h
  obtain ⟨moves, hmoves, hfetch⟩ := hruns.trans hruns'
  have hinv := Service.run_inv hmoves (.initial settings decode cache)
  have hsound := Service.run_sound hfetch hmoves .initial
  rw [hsettings] at hreplies
  have hkind := hsound.error_of_replies hinv hp' hreplies
  split at hkind
  · rwa [if_pos ‹_›]
  · rw [if_neg ‹_›]
    exact hkind.1

end Runner

end Playpen
