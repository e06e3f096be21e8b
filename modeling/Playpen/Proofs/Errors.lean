import Playpen.Http.Exchange
import Playpen.Proofs.Race
import Playpen.Proofs.Service
import Playpen.Proofs.SingleFlight

/-!
# What callers are told when something goes wrong

Stores fail in their own ways, programs in theirs, and neither is an error for who has
made a call. An attempt fails with the error of a download or of loading what was
downloaded, whatever else goes on (`Service.Inv`), and that is the only error that
reaches those who wait for it. Apart from it there is the refusal of a limit of zero,
which comes before anything else. So every error is of one of two kinds, and which one
is known from the call alone (`Service.fails_only_initializing`).
-/

namespace Playpen

/-! ## Errors of getting an interpreter -/

theorem HostError.isInitialization_of_isFetch {e : HostError} (h : e.isFetch) :
    e.isInitialization := by
  cases e with
  | fetch url reason => rfl
  | _ => cases h

theorem LoadFault.isInitialization_error (fault : LoadFault) : fault.error.isInitialization := by
  cases fault <;> rfl

/-- Only a download that fails, or a binary that does not load, can make an attempt fail. -/
theorem Bootstrap.isInitialization_of_downloaded {load : Loader} {answer : Except HostError Bytes}
    {e : HostError} (hfetch : ∀ e, answer = .error e → e.isFetch)
    (h : downloaded load answer = .error e) : e.isInitialization := by
  rcases error_of_downloaded h with hanswer | ⟨bytes, fault, -, -, rfl⟩
  · exact HostError.isInitialization_of_isFetch (hfetch e hanswer)
  · exact fault.isInitialization_error

/-- The network that is asked for documents fails so. -/
theorem Http.isFetch_of_download {send : Url → Exchange} {address : String} {e : HostError}
    (h : download send address = .error e) : e.isFetch := by
  rw [download] at h
  cases hfetch : fetch send address with
  | ok bytes =>
    rw [hfetch] at h
    cases h
  | error why =>
    rw [hfetch] at h
    obtain rfl := Except.error.inj h
    rfl

/-- The run that a call asks for. -/
def Call.request? (settings : Settings) : Call → Option Request
  | .execute source input? timeout? => some
    { source
      input := (input?.map Input.ofText).getD .none
      timeout := timeout?.getD settings.defaultTimeout }
  | _ => none

/-- The limit of the run that a call asks for is zero. -/
def Call.hasZeroLimit (settings : Settings) (c : Call) : Bool :=
  (c.request? settings).any fun r => r.timeout.isZero

namespace Concurrent

/-! ## What calls come to -/

/-- What a call may come to as far as it is. A preload is over for its caller when it has
    looked at the slot, and what a check has found is not kept. -/
inductive Ongoing.Replies (settings : Settings) : Ongoing → Reply → Prop where
  | refused {c : Call} {r : Request} : c.request? settings = some r →
      Replies settings ⟨c, .dismissed⟩ (.failed Runner.zeroTimeout)
  | preloaded {background : Bool} {p : Progress} : p ≠ .called →
      Replies settings ⟨.preload background, p⟩ .done
  | started {g : Nat} {h : Handle} : Replies settings ⟨.start, .obtained g (.ok h)⟩ .done
  | restarted {g : Nat} {h : Handle} : Replies settings ⟨.reset, .obtained g (.ok h)⟩ .done
  | failed {c : Call} {g : Nat} {e : HostError} : (∀ background, c ≠ .preload background) →
      Replies settings ⟨c, .obtained g (.error e)⟩ (.failed e)
  /-- The program is run on what was obtained, and that is a race. -/
  | ran {c : Call} {r : Request} {g epoch : Nat} {h : Handle} {o : Outcome} :
      c.request? settings = some r →
      Race.Returns ⟨h.interpreter, settings.interruptOnTimeout⟩ r epoch o →
      Replies settings ⟨c, .obtained g (.ok h)⟩ (.outcome o)

/-- A limit of zero is refused, and no other is. -/
structure Ongoing.Fits (settings : Settings) (k : Ongoing) : Prop where
  of_zero : k.call.hasZeroLimit settings → k.progress = .called ∨ k.progress = .dismissed
  of_dismissed {r : Request} : k.call.request? settings = some r → k.progress = .dismissed →
    k.call.hasZeroLimit settings

namespace Ongoing

variable {settings : Settings} {k : Ongoing}

theorem Fits.attempt?_eq_none (hk : k.Fits settings) (hzero : k.call.hasZeroLimit settings) :
    k.progress.attempt? = none := by
  rcases hk.of_zero hzero with hp | hp <;> rw [hp] <;> rfl

/-- An error is the refusal of a limit of zero, or that of an attempt. -/
theorem Fits.cases_of_failed (hk : k.Fits settings) {e : HostError}
    (h : k.Replies settings (.failed e)) :
    k.call.hasZeroLimit settings ∧ e = Runner.zeroTimeout ∨
      ¬k.call.hasZeroLimit settings ∧ ∃ g, k.progress = .obtained g (.error e) := by
  cases h with
  | refused hr => exact .inl ⟨hk.of_dismissed hr rfl, rfl⟩
  | failed =>
    -- One who has asked had a limit.
    refine .inr ⟨fun hzero => ?_, _, rfl⟩
    rcases hk.of_zero hzero with hp | hp <;> cases hp

/-- A limit of zero comes to nothing but its refusal. -/
theorem Fits.eq_of_zero (hk : k.Fits settings) (hzero : k.call.hasZeroLimit settings) {reply : Reply}
    (h : k.Replies settings reply) : reply = .failed Runner.zeroTimeout := by
  cases h with
  | refused => rfl
  | preloaded | started | restarted => cases hzero
  | failed | ran => rcases hk.of_zero hzero with hp | hp <;> cases hp

/-- One who has a handle to run a program on is told what comes of the run, whatever the
    program does. -/
theorem Replies.eq_outcome {c : Call} {r : Request} {g : Nat} {h : Handle} {reply : Reply}
    (hr : c.request? settings = some r)
    (hreply : Replies settings ⟨c, .obtained g (.ok h)⟩ reply) : ∃ o, reply = .outcome o := by
  cases hreply with
  | preloaded | started | restarted => cases hr
  | ran => exact ⟨_, rfl⟩

end Ongoing

section Calls

variable {s s' : State}

/-- The next section of a call leaves it with a progress that fits. -/
theorem State.exists_progress_of_proceed {i : Nat} {k : Ongoing} (h : s.proceed i k = some s')
    (hk : k.Fits s.settings) :
    ∃ p, s'.calls = (s.mark i p).calls ∧ Ongoing.Fits s.settings ⟨k.call, p⟩ := by
  obtain ⟨call, progress⟩ := k
  -- Only a call that has not looked at the slot can have a limit of zero.
  have hpast {p : Progress} (hp : p ≠ .dismissed) (hcalled : progress ≠ .called)
      (hdismissed : progress ≠ .dismissed) : Ongoing.Fits s.settings ⟨call, p⟩ :=
    ⟨fun hzero => ((hk.of_zero hzero).elim hcalled hdismissed).elim, fun _ h => absurd h hp⟩
  have hasked : (s.ask i).calls =
      (s.mark i (.asked s.lifecycle.callers s.lifecycle.source)).calls := rfl
  cases progress with
  | called =>
    cases call with
    | start =>
      obtain rfl := Option.some.inj h
      exact ⟨_, hasked, nofun, nofun⟩
    | reset =>
      obtain rfl := Option.some.inj h
      exact ⟨.cleared, rfl, nofun, nofun⟩
    | preload background =>
      obtain rfl := Option.some.inj h
      exact ⟨_, rfl, nofun, nofun⟩
    | checkSyntax source =>
      obtain rfl := Option.some.inj h
      exact ⟨.dismissed, rfl, nofun, nofun⟩
    | execute source input? timeout? =>
      obtain rfl := Option.some.inj h
      by_cases hzero : (timeout?.getD s.settings.defaultTimeout).isZero
      · rw [if_pos hzero]
        exact ⟨.dismissed, rfl, fun _ => .inr rfl, fun _ _ => hzero⟩
      · rw [if_neg hzero]
        exact ⟨_, hasked, fun h => absurd h hzero, nofun⟩
  | cleared | spawned =>
    obtain rfl := Option.some.inj h
    exact ⟨_, hasked, hpast nofun nofun nofun⟩
  | asked caller attempt =>
    obtain ⟨outcome, -, rfl⟩ := Option.map_eq_some_iff.1 h
    exact ⟨_, rfl, hpast nofun nofun nofun⟩
  | obtained attempt outcome => cases h
  | dismissed => cases h

/-- Whatever happens, only limits of zero are refused. -/
theorem State.fits_step {m : Move} (h : s.step m = some s')
    (hs : ∀ k ∈ s.calls, k.Fits s.settings) : ∀ k ∈ s'.calls, k.Fits s'.settings := by
  rw [settings_step h]
  cases m with
  | call c =>
    obtain rfl := Option.some.inj h
    intro k hk
    rcases List.mem_append.1 hk with hk | hk
    · exact hs k hk
    · obtain rfl := List.mem_singleton.1 hk
      exact ⟨fun _ => .inl rfl, nofun⟩
  | proceed i =>
    obtain ⟨k, hk, hproceed⟩ := Option.bind_eq_some_iff.1 h
    obtain ⟨p, hcalls, hp⟩ := exists_progress_of_proceed hproceed (hs k (List.mem_of_getElem? hk))
    rw [hcalls]
    intro k' hk'
    obtain ⟨j, hj⟩ := List.mem_iff_getElem?.1 hk'
    rw [mark, List.getElem?_modify] at hj
    obtain ⟨k₀, hk₀, rfl⟩ := Option.map_eq_some_iff.1 hj
    split
    · rename_i hij
      obtain rfl := Option.some.inj ((hij ▸ hk).symm.trans hk₀)
      exact hp
    · exact hs k₀ (List.mem_of_getElem? hk₀)
  | complete g outcome =>
    obtain ⟨-, h⟩ := Option.ite_none_right_eq_some.1 h
    obtain rfl := Option.some.inj h
    exact hs

end Calls

namespace Service

variable {σ : Type} [Store σ] {x x' : Service σ} {settings : Settings}

/-- Only limits of zero are refused, and attempts fail with errors of getting an
    interpreter only. -/
structure Sound (x : Service σ) : Prop where
  fits : ∀ k ∈ x.state.calls, k.Fits x.state.settings
  of_made {g : Nat} {e : HostError} : (g, .made (.error e)) ∈ x.attempts → e.isInitialization
  of_result {g : Nat} {e : HostError} : x.state.result? g = some (.error e) → e.isInitialization

namespace Sound

omit [Store σ] in
theorem initial {decode : Bytes → Option Image} {cache : BinaryCache σ} :
    Sound (Service.initial settings decode cache) :=
  ⟨nofun, nofun, nofun⟩

omit [Store σ] in
theorem reach (hs : Sound x) (cache : BinaryCache σ) (g : Nat) {stage : Stage}
    (hstage : ∀ e, stage = .made (.error e) → e.isInitialization) :
    Sound ({ x with cache }.reach g stage) where
  fits := hs.fits
  of_made {g' e} h := by
    obtain ⟨a, ha, heq⟩ := List.mem_map.1 h
    split at heq
    · exact hstage e (Prod.mk.inj heq).2
    · exact hs.of_made (heq ▸ ha)
  of_result := hs.of_result

omit [Store σ] in
theorem withState (hs : Sound x) {m : Concurrent.Move} {state : State}
    (h : x.state.step m = some state) (hm : ∀ g outcome, m ≠ .complete g outcome) :
    Sound (x.withState state) where
  fits := State.fits_step h hs.fits
  of_made {g e} h := by
    rw [Service.withState] at h
    dsimp only at h
    split at h
    · rcases List.mem_append.1 h with h | h
      · exact hs.of_made h
      · cases List.mem_singleton.1 h
    · exact hs.of_made h
  of_result hg := hs.of_result ((State.result?_step h hm _).symm.trans hg)

omit [Store σ] in
theorem complete (hs : Sound x) {g : Nat} {outcome : Except HostError Interpreter}
    {state : State} (hg : (g, .made outcome) ∈ x.attempts)
    (h : x.state.step (.complete g outcome) = some state) :
    Sound { x with state, attempts := x.attempts.filter fun a => a.1 != g } where
  fits := State.fits_step h hs.fits
  of_made h := hs.of_made (List.mem_filter.1 h).1
  of_result {a e} ha := by
    obtain ⟨-, h⟩ := Option.ite_none_right_eq_some.1 h
    obtain rfl := Option.some.inj h
    rw [Concurrent.Inv.result?_complete] at ha
    split at ha
    · -- It is this attempt, which was made to fail by an answer.
      cases outcome with
      | ok i => cases ha
      | error e' =>
        obtain rfl := Except.error.inj (Option.some.inj ha)
        exact hs.of_made hg
    · exact hs.of_result ha

/-- If the network answers, it fails with an error of a download. -/
theorem step {m : Move σ} (hs : Sound x)
    (hfetch : ∀ g e, m = .answer g (.error e) → e.isFetch) (h : x.step m = some x') :
    Sound x' := by
  cases step_cases h with
  | calls hstate hm => exact hs.withState hstate hm
  | reach hstage => exact hs.reach _ _ fun e he => absurd he (hstage e)
  | answer =>
    refine hs.reach _ _ fun e he => ?_
    exact Bootstrap.isInitialization_of_downloaded (fun e he => hfetch _ e (congrArg _ he))
      (Stage.made.inj he)
  | complete hg hstate => exact hs.complete hg hstate
  | store => exact ⟨hs.fits, hs.of_made, hs.of_result⟩

end Sound

theorem run_sound {moves : List (Move σ)}
    (hfetch : ∀ g e, .answer g (.error e) ∈ moves → e.isFetch) (h : x.run moves = some x')
    (hs : Sound x) : Sound x' := by
  refine run_induction (fun hmem hs hm => hs.step (fun g e he => ?_) hm) h hs
  exact hfetch g e (he ▸ hmem)

/-! ## What callers are told -/

variable {i : Nat} {k : Ongoing}

omit [Store σ] in
/-- An error is told to those only who wait for the attempt that it is the error of. -/
theorem Sound.error_of_replies (hs : Sound x) (hi : Inv settings x)
    (hk : x.state.calls[i]? = some k) {e : HostError} (h : k.Replies settings (.failed e)) :
    if k.call.hasZeroLimit settings then e = Runner.zeroTimeout
    else e.isInitialization ∧ ∃ g, x.state.attempt? i = some g ∧
      x.state.result? g = some (.error e) := by
  have hfits : k.Fits settings := hi.settings_eq ▸ hs.fits k (List.mem_of_getElem? hk)
  rcases hfits.cases_of_failed h with ⟨hzero, he⟩ | ⟨hzero, g, hprogress⟩
  · rwa [if_pos hzero]
  · have hattempt : x.state.attempt? i = some g := by
      rw [State.attempt?, hk, Option.bind_some, hprogress]
      rfl
    have hreceived : x.state.received? i = some (.error e) := by
      rw [State.received?, hk, Option.bind_some, hprogress]
      rfl
    have hresult := (hi.calls.received?_eq hattempt).2.symm.trans hreceived
    rw [if_neg hzero]
    exact ⟨hs.of_result hresult, g, hattempt, hresult⟩

/-- A limit of zero is refused at once, and that is all that is done. -/
theorem refuses (hfits : k.Fits x.state.settings) (hk : x.state.calls[i]? = some k)
    (hzero : k.call.hasZeroLimit x.state.settings) :
    k.Replies x.state.settings (.failed Runner.zeroTimeout) ∧ x.step (.proceed i) = none ∨
      x.step (.proceed i) = some { x with state := x.state.mark i .dismissed } ∧
        Ongoing.Replies x.state.settings ⟨k.call, .dismissed⟩ (.failed Runner.zeroTimeout) := by
  obtain ⟨call, progress⟩ := k
  cases call with
  | start | reset | preload | checkSyntax => cases hzero
  | execute source input? timeout? =>
    rw [Service.step, State.step, hk, Option.bind_some]
    rcases hfits.of_zero hzero with hp | hp
    · obtain rfl : progress = .called := hp
      refine .inr ⟨?_, .refused rfl⟩
      have hlimit : (timeout?.getD x.state.settings.defaultTimeout).isZero := hzero
      rw [State.proceed]
      dsimp only
      rw [if_pos hlimit]
      exact congrArg some (withState_of_starts_eq rfl)
    · obtain rfl : progress = .dismissed := hp
      exact .inl ⟨.refused rfl, rfl⟩

/-- As long as the network fails with errors of downloads only, an error is of one of two
    kinds, whatever the stores hold, whichever of their operations fail, and whatever
    programs do. Calls to run a program within no time are told that, and nothing else is
    done for them. All others are told an error only if it is that of getting the
    interpreter, namely by the attempt that they depend on. So the errors of stores reach
    nobody. And whoever has obtained the interpreter to run a program gets an outcome,
    however far the run is. -/
theorem fails_only_initializing {decode : Bytes → Option Image} {cache : BinaryCache σ}
    {moves : List (Move σ)} (hfetch : ∀ g e, .answer g (.error e) ∈ moves → e.isFetch)
    (h : (Service.initial settings decode cache).run moves = some x)
    {i : Nat} {k : Ongoing} (hk : x.state.calls[i]? = some k) :
    (∀ e, k.Replies settings (.failed e) →
      (if k.call.hasZeroLimit settings then e = Runner.zeroTimeout
        else e.isInitialization ∧ ∃ g, x.state.attempt? i = some g ∧
          x.state.result? g = some (.error e)) ∧
      ∀ why, e ≠ .cacheUnavailable why ∧ e ≠ .file why ∧
        (e = .settings why → k.call.hasZeroLimit settings)) ∧
    (k.call.hasZeroLimit settings → x.state.attempt? i = none ∧
      (∀ reply, k.Replies settings reply → reply = .failed Runner.zeroTimeout) ∧
      (k.Replies settings (.failed Runner.zeroTimeout) ∧ x.step (.proceed i) = none ∨
        x.step (.proceed i) = some { x with state := x.state.mark i .dismissed } ∧
          Ongoing.Replies settings ⟨k.call, .dismissed⟩ (.failed Runner.zeroTimeout))) ∧
    ∀ r g handle, k.call.request? settings = some r → k.progress = .obtained g (.ok handle) →
      (∀ reply, k.Replies settings reply → ∃ o, reply = .outcome o) ∧
      ∀ epoch moves race,
        (Race.start r epoch).run ⟨handle.interpreter, settings.interruptOnTimeout⟩ r moves =
          some race →
        ∃ later race' o,
          race.run ⟨handle.interpreter, settings.interruptOnTimeout⟩ r later = some race' ∧
          race'.caller = .returned o ∧ k.Replies settings (.outcome o) := by
  have hi := run_inv h (.initial settings decode cache)
  have hs := run_sound hfetch h .initial
  have hfits := hs.fits k (List.mem_of_getElem? hk)
  rw [hi.settings_eq] at hfits
  refine ⟨fun e he => ⟨hs.error_of_replies hi hk he, fun why => ?_⟩, fun hzero => ?_,
    fun r g handle hr hprogress => ?_⟩
  · -- Neither kind is an error of a store, and only one is of the settings.
    have hkind := hs.error_of_replies hi hk he
    split at hkind
    · obtain rfl := hkind
      exact ⟨nofun, nofun, fun _ => ‹_›⟩
    · obtain ⟨hinit, -⟩ := hkind
      refine ⟨?_, ?_, ?_⟩ <;> rintro rfl <;> cases hinit
  · have hrefuses := @refuses _ _ x i k
    rw [hi.settings_eq] at hrefuses
    refine ⟨?_, fun reply => hfits.eq_of_zero hzero, hrefuses hfits hk hzero⟩
    rw [State.attempt?, hk, Option.bind_some, hfits.attempt?_eq_none hzero]
  · obtain ⟨call, progress⟩ := k
    obtain rfl : progress = .obtained g (.ok handle) := hprogress
    refine ⟨fun reply => Ongoing.Replies.eq_outcome hr, fun epoch moves race hrace => ?_⟩
    obtain ⟨later, race', o, hlater, ho⟩ := Race.exists_run_returned _ r race
    exact ⟨later, race', o, hlater, ho,
      .ran hr ⟨_, race', (Race.run_append hrace later).trans hlater, ho⟩⟩

/-- One call starts an attempt, for which the store fails and the network too, and another
    asks for a run within no time. -/
def refusals : List (Move (Faulty MemoryStore)) :=
  [.call .start, .call (.execute "1" none (some (.ofMillis 0))), .proceed 0, .proceed 1,
    .attempt 1, .attempt 1, .attempt 1, .answer 1 (.error (.fetch "u" "refused")), .attempt 1,
    .proceed 0]

/-- The first is told the error of the network, and the second that of its limit. -/
theorem fails_only_initializing_of_refusals : ∃ x : Service (Faulty MemoryStore),
    (Service.initial .default (fun _ => none)
        (.ofStore? (some ⟨MemoryStore.empty, { lookup := true }⟩))).run refusals = some x ∧
      (∀ g e, .answer g (.error e) ∈ refusals → e.isFetch) ∧
      x.state.calls[0]? = some ⟨.start, .obtained 1 (.error (.fetch "u" "refused"))⟩ ∧
      x.state.result? 1 = some (.error (.fetch "u" "refused")) ∧
      x.state.calls[1]? = some ⟨.execute "1" none (some (.ofMillis 0)), .dismissed⟩ ∧
      x.state.attempt? 1 = none := by
  have hfetch : ∀ g e, .answer g (.error e) ∈ refusals → e.isFetch := by
    simp [refusals, HostError.isFetch]
  obtain ⟨x, hx, hfirst, hsecond⟩ : ∃ x : Service (Faulty MemoryStore),
      (Service.initial .default (fun _ => none)
          (.ofStore? (some ⟨MemoryStore.empty, { lookup := true }⟩))).run refusals = some x ∧
        x.state.calls[0]? = some ⟨.start, .obtained 1 (.error (.fetch "u" "refused"))⟩ ∧
        x.state.calls[1]? = some ⟨.execute "1" none (some (.ofMillis 0)), .dismissed⟩ :=
    ⟨_, rfl, rfl, rfl⟩
  refine ⟨x, hx, hfetch, hfirst, ?_, hsecond, ?_⟩
  · obtain ⟨herror, -⟩ := fails_only_initializing hfetch hx hfirst
    obtain ⟨⟨-, g, hg, hresult⟩, -⟩ := herror _ (.failed nofun)
    rw [State.attempt?, hfirst] at hg
    obtain rfl := Option.some.inj hg
    exact hresult
  · obtain ⟨-, hzero, -⟩ := fails_only_initializing hfetch hx hsecond
    exact (hzero rfl).1

end Service

end Concurrent

end Playpen
