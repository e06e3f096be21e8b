import Mathlib.Tactic.IntervalCases
import Playpen.Proofs.Engine

/-!
# Interrupts that come while a program looks up

A caller who gives up sets the flag of the evaluation and then advances the epoch, so that
the program looks up, sees the flag and is interrupted. But a program may be looking up
already, as somebody else has advanced the epoch, and have read the flag before it was
set. When it goes back to work it puts its deadline past the epoch of that moment, and the
interrupt is lost: unless the epoch is advanced again, it does not look up any more. This
is the only way to lose one (`Engine.heeds_or_loses`).
-/

namespace Playpen

/-! ## One race -/

namespace Evaluation

variable {e : Evaluation} {epoch : Nat} {b : Guest.Behaviour}

theorem deadline_make_le (h : e.deadline ≤ epoch + 1) (m : Move) :
    (e.make epoch m).deadline ≤ epoch + 1 := by
  cases m with
  | enter =>
    rw [make, enter]
    split
    · split
      · exact h
      · split <;> exact h
    · exact h
  | advance =>
    rw [make, advance]
    split <;> exact h
  | poll =>
    rw [make, poll]
    split
    · split <;> exact h
    · exact h
  | resume =>
    rw [make, resume]
    split
    · split
      · exact h
      · exact Nat.le_refl _
    · exact h

/-- A program that runs has run before and has its deadline, or is started and has not
    found the flag set, or is back at work and had not seen it. -/
theorem running_of_make {m : Move} (h : (e.make epoch m).phase = .running b) :
    (∃ b', e.phase = .running b' ∧ (e.make epoch m).deadline = e.deadline) ∨
      e.cancelled = false ∨ ∃ b', e.phase = .polled b' false := by
  obtain ⟨phase, streams, cancelled, deadline⟩ := e
  cases phase with
  | created start =>
    cases m with
    | enter =>
      cases cancelled with
      | true => cases h
      | false => exact .inr (.inl rfl)
    | advance | poll | resume => cases h
  | running b' =>
    refine .inl ⟨b', rfl, ?_⟩
    cases m with
    | enter | resume => rfl
    | advance => cases b' <;> rfl
    | poll =>
      rw [make, poll]
      dsimp only
      split <;> rfl
  | polled b' stop =>
    cases m with
    | resume =>
      cases stop with
      | true => cases h
      | false => exact .inr (.inr ⟨b', rfl⟩)
    | enter | advance | poll => cases h
  | ended ending => cases m <;> cases h

theorem poll_of_due (hphase : e.phase = .running b) (hdue : e.deadline ≤ epoch) :
    e.poll epoch = { e with phase := .polled b e.cancelled } := by
  rw [poll, hphase]
  exact if_pos hdue

/-- A program that spins and is not to look up does not get anywhere. -/
theorem make_of_not_due (hphase : e.phase = .running .spin) (hlt : epoch < e.deadline)
    (m : Move) : e.make epoch m = e := by
  cases m with
  | enter => rw [make, enter, hphase]
  | advance => rw [make, advance, hphase]
  | poll =>
    rw [make, poll, hphase]
    exact if_neg (Nat.not_le.2 hlt)
  | resume => rw [make, resume, hphase]

/-- A program whose flag is set is interrupted when it looks up. -/
theorem interrupted_of_due (hphase : e.phase = .running b) (hcancelled : e.cancelled)
    (hdue : e.deadline ≤ epoch) :
    ([.poll, .resume].foldl (make epoch) e).ending? = some .interrupted := by
  rw [List.foldl_cons, make, poll_of_due hphase hdue, hcancelled]
  rfl

end Evaluation

namespace Race

variable {s : Session} {r : Request} {x y : Race} {m : Move} {e : Evaluation}
  {b : Guest.Behaviour}

/-- One who waits has not set the flag. -/
theorem Reached.not_cancelled_of_waiting (h : Reached s r x) (hcaller : x.caller = .waiting) :
    x.cancelled = false := by
  obtain ⟨epoch, moves, hx⟩ := h
  by_cases hblank : Text.isBlank r.source.toList
  · exact (run_idle hblank hx).cancelled
  · have hsound := (run_inv hblank hx).caller
    rwa [hcaller] at hsound

/-- The caller has set the flag and advanced the epoch. -/
def IsGivenUp (x : Race) : Prop := x.cancelled ∧ ∃ o, x.caller = .returned o

/-- The caller has given up while the program looks up and has not seen the flag. -/
def Overlooks (x : Race) : Prop :=
  x.IsGivenUp ∧ ∃ e b, x.worker? = some (.evaluating e) ∧ e.phase = .polled b false

/-- The caller has given up, and the program runs and is not to look up at this epoch. -/
def Loses (x : Race) (b : Guest.Behaviour) : Prop :=
  x.IsGivenUp ∧ ∃ e, x.worker? = some (.evaluating e) ∧ e.phase = .running b ∧ x.epoch < e.deadline

/-- A program that runs looks up at the next epoch, or at this one if the caller has given
    up. -/
structure Alert (x : Race) : Prop where
  next {e : Evaluation} : x.worker? = some (.evaluating e) → e.deadline ≤ x.epoch + 1
  now {e : Evaluation} {b : Guest.Behaviour} : x.IsGivenUp → x.worker? = some (.evaluating e) →
    e.phase = .running b → e.deadline ≤ x.epoch

namespace Alert

theorem not_loses (h : x.Alert) (b : Guest.Behaviour) : ¬x.Loses b := by
  rintro ⟨hgiven, e, he, hphase, hlt⟩
  exact absurd (h.now hgiven he hphase) (Nat.not_le.2 hlt)

theorem worker {m : Worker.Move} (h : x.Alert) (hx : Reached s r x) (ho : ¬x.Overlooks)
    (hm : x.step s r (.worker m) = some y) : y.Alert := by
  obtain ⟨w', hw', rfl⟩ := Option.map_eq_some_iff.1 hm
  obtain ⟨w, hw, hstep⟩ := Option.bind_eq_some_iff.1 hw'
  cases w with
  | queued =>
    cases m with
    | begin =>
      obtain rfl := Option.some.inj hstep
      rw [Worker.begin]
      split
      · refine ⟨fun he => ?_, fun _ he => ?_⟩ <;> cases he
      · refine ⟨fun he => ?_, fun _ he hphase => ?_⟩
        · cases he
          exact Nat.le_refl _
        · cases he
          cases hphase
    | evaluate m | conclude => cases hstep
  | evaluating e =>
    cases m with
    | begin => cases hstep
    | evaluate m =>
      obtain rfl := Option.some.inj hstep
      refine ⟨fun he => ?_, fun hgiven he hphase => ?_⟩
      · cases he
        exact Evaluation.deadline_make_le (h.next hw) m
      · cases he
        rcases Evaluation.running_of_make hphase with ⟨b, hb, hdeadline⟩ | hcancelled | ⟨b, hb⟩
        · rw [hdeadline]
          exact h.now hgiven hw hb
        · -- The flag of the evaluation is that of the race.
          cases hgiven.1.symm.trans ((hx.evaluating hw).1.symm.trans hcancelled)
        · exact absurd ⟨hgiven, e, b, hw, hb⟩ ho
    | conclude =>
      obtain ⟨ending, -, rfl⟩ := Option.map_eq_some_iff.1 hstep
      refine ⟨fun he => ?_, fun _ he => ?_⟩ <;> cases he
  | done o => cases m <;> cases hstep

/-- The epoch is advanced, after which a program looks up that was to do so next. -/
theorem advance (h : x.Alert) (caller : Caller) :
    { x with caller, epoch := x.epoch + 1 }.Alert :=
  ⟨fun he => (h.next he).trans (Nat.le_succ _), fun _ he _ => h.next he⟩

theorem step (h : x.Alert) (hx : Reached s r x) (ho : ¬x.Overlooks)
    (hm : x.step s r m = some y) : y.Alert := by
  cases m with
  | worker m => exact h.worker hx ho hm
  | ring => exact Option.some.inj hm ▸ ⟨h.next, h.now⟩
  | tick => exact Option.some.inj hm ▸ h.advance x.caller
  | take =>
    rw [Race.step] at hm
    split at hm
    · rename_i o _ hdone
      -- The worker is done, so no program runs any more.
      obtain rfl := Option.some.inj hm
      refine ⟨h.next, fun _ he => ?_⟩
      cases hdone.symm.trans he
    · cases hm
  | giveUp =>
    rw [Race.step] at hm
    split at hm
    · rename_i hcaller _
      -- The flag is still to be set.
      obtain rfl := Option.some.inj hm
      have hunset := hx.not_cancelled_of_waiting hcaller
      refine ⟨h.next, fun hgiven => ?_⟩
      cases hunset.symm.trans hgiven.1
    · cases hm
  | cancel =>
    rw [Race.step] at hm
    split at hm
    · -- The flag is set, but the epoch is still to be advanced.
      obtain rfl := Option.some.inj hm
      refine ⟨fun he => ?_, fun hgiven => ?_⟩
      · obtain ⟨w, hw, hcancel⟩ := Option.map_eq_some_iff.1 he
        cases w with
        | evaluating e =>
          cases hcancel
          exact h.next (e := e) hw
        | queued | done o => cases hcancel
      · obtain ⟨-, o, hcaller⟩ := hgiven
        cases hcaller
    · cases hm
  | wake =>
    rw [Race.step] at hm
    split at hm
    · exact Option.some.inj hm ▸ h.advance _
    · cases hm

end Alert

/-! ## How an interrupt is lost -/

/-- A program that spins and is not to look up does not get anywhere, and nobody who has
    given up does anything about it. -/
theorem Loses.step (h : x.Loses .spin) (hm : x.step s r m = some y) (hepoch : y.epoch = x.epoch) :
    y.Loses .spin := by
  obtain ⟨⟨hcancelled, o, hcaller⟩, e, he, hphase, hlt⟩ := h
  cases m with
  | worker m =>
    obtain ⟨w', hw', rfl⟩ := Option.map_eq_some_iff.1 hm
    rw [he] at hw'
    cases m with
    | begin => cases hw'
    | conclude =>
      obtain ⟨ending, hending, -⟩ := Option.map_eq_some_iff.1 hw'
      rw [Evaluation.ending?, hphase] at hending
      cases hending
    | evaluate m =>
      obtain rfl := Option.some.inj hw'
      refine ⟨⟨hcancelled, o, hcaller⟩, e, ?_, hphase, hlt⟩
      exact congrArg (some ∘ Worker.evaluating) (Evaluation.make_of_not_due hphase hlt m)
  | ring =>
    obtain rfl := Option.some.inj hm
    exact ⟨⟨hcancelled, o, hcaller⟩, e, he, hphase, hlt⟩
  | tick =>
    obtain rfl := Option.some.inj hm
    exact absurd hepoch (Nat.succ_ne_self _)
  | take | giveUp | cancel | wake =>
    rw [Race.step, hcaller] at hm
    cases hm

/-- A program looks up, and before it is back at work its caller has given up. -/
def overlooking : List Move :=
  [.ring, .giveUp, .worker (.evaluate .poll), .cancel, .wake, .worker (.evaluate .resume)]

theorem run_overlooking (hcaller : x.caller = .waiting) (he : x.worker? = some (.evaluating e))
    (hphase : e.phase = .running b) (hcancelled : e.cancelled = false)
    (hdue : e.deadline ≤ x.epoch) (i : Interpreter) :
    ∃ y, x.run ⟨i, true⟩ r overlooking = some y ∧ y.Loses b := by
  obtain ⟨epoch, worker?, cancelled, rung, caller⟩ := x
  obtain ⟨phase, streams, unset, deadline⟩ := e
  obtain rfl : caller = .waiting := hcaller
  obtain rfl : worker? = some (.evaluating ⟨phase, streams, unset, deadline⟩) := he
  obtain rfl : phase = .running b := hphase
  obtain rfl : unset = false := hcancelled
  have hpoll : step ⟨i, true⟩ r
      ⟨epoch, some (.evaluating ⟨.running b, streams, false, deadline⟩), cancelled, true, .expired⟩
      (.worker (.evaluate .poll)) =
      some ⟨epoch, some (.evaluating ⟨.polled b false, streams, false, deadline⟩), cancelled, true,
        .expired⟩ := by
    rw [step_evaluate rfl, Evaluation.make, Evaluation.poll_of_due rfl hdue]
  refine ⟨_, Runs.run_cons_eq_some_iff.2 ⟨_, rfl, Runs.run_cons_eq_some_iff.2 ⟨_, rfl,
    Runs.run_cons_eq_some_iff.2 ⟨_, hpoll, rfl⟩⟩⟩, ⟨rfl, _, rfl⟩, _, rfl, rfl, ?_⟩
  exact Nat.lt_succ_self (epoch + 1)

end Race

/-! ## The races on an engine -/

/-- The race that a run is. -/
def Activity.race? : Activity → Option Race
  | .run _ _ x => some x
  | .check .. => none

namespace Engine

variable {x y : Engine} {n k : Nat} {u v : Use} {i : Interpreter} {race race' : Race}
  {b : Guest.Behaviour}

/-- The race that use `n` is, as it stands now. -/
def race? (x : Engine) (n : Nat) : Option Race := x.uses[n]?.bind fun u => (x.observe u).race?

theorem exists_use_of_race? (h : x.race? n = some race) :
    ∃ u interrupt r, x.uses[n]? = some u ∧ x.observe u = .run interrupt r race := by
  obtain ⟨u, hu, hrace⟩ := Option.bind_eq_some_iff.1 h
  cases hobserve : x.observe u with
  | run interrupt r x =>
    rw [hobserve] at hrace
    obtain rfl := Option.some.inj hrace
    exact ⟨u, interrupt, r, hu, hobserve⟩
  | check source e? =>
    rw [hobserve] at hrace
    exact nomatch hrace

theorem race?_of_use {interrupt : Bool} {r : Request} (hu : x.uses[n]? = some u)
    (hobserve : x.observe u = .run interrupt r race) : x.race? n = some race := by
  rw [race?, hu, Option.bind_some, hobserve]
  rfl

/-- A race on an engine is one that can be reached. -/
theorem Inv.reached {interrupt : Bool} {r : Request} (hi : Inv x) (hu : x.uses[n]? = some u)
    (hobserve : x.observe u = .run interrupt r race) :
    race.epoch = x.epoch ∧ Race.Reached ⟨x.interpreter, interrupt⟩ r race := by
  have hsound := hi.sound hu
  rw [hobserve] at hsound
  exact ⟨hsound.1, hsound.2.2⟩

/-- To a race whatever others do is at most somebody who advances the epoch. -/
theorem race?_of_spared (hi : Inv x) (hi' : Inv y)
    (hepoch : y.epoch = x.epoch ∨ y.epoch = x.epoch + 1) (hflag : y.flag k = x.flag k)
    (hu : x.uses[k]? = some u) (hu' : y.uses[k]? = some u) (h : y.race? k = some race') :
    ∃ race s r, x.race? k = some race ∧ Race.Reached s r race ∧
      (race' = race ∨ ∃ m, race.step s r m = some race') := by
  obtain ⟨v, interrupt, r, hv, hobserve'⟩ := exists_use_of_race? h
  obtain rfl := Option.some.inj (hu'.symm.trans hv)
  have hx := (hi.owns hu).observe
  have hy := (hi'.owns hu').observe
  rw [hflag] at hy
  generalize u.activity = a at hx hy
  rw [hy] at hobserve'
  cases a with
  | check source e? => exact nomatch hobserve'
  | run interrupt' r' race₀ =>
    obtain ⟨-, -, rfl⟩ := Activity.run.inj hobserve'
    refine ⟨_, ⟨x.interpreter, interrupt'⟩, r', race?_of_use hu hx, (hi.reached hu hx).2, ?_⟩
    rcases hepoch with hepoch | hepoch
    · exact .inl (by rw [hepoch])
    · exact .inr ⟨.tick, by rw [hepoch]; rfl⟩

/-- A race that has gone on stands as it came out. -/
theorem observe_race (hi : Inv x) (hu : x.uses[n]? = some u) {interrupt : Bool} {r : Request}
    {m : Race.Move} (hobserve : x.observe u = .run interrupt r race)
    (hm : race.step ⟨x.interpreter, interrupt⟩ r m = some race') :
    let v : Use := { u with activity := .run interrupt r race' }
    let y : Engine := { x with
      epoch := race'.epoch
      flags := if m = .cancel then x.flags.cancel u.held else x.flags
      uses := x.uses.set n v }
    y.uses[n]? = some v ∧ y.observe v = .run interrupt r race' := by
  intro v y
  have hv : y.uses[n]? = some v := List.getElem?_set_self (List.getElem?_eq_some_iff.1 hu).1
  have howns : y.Owns n v := (hi.race hu hobserve hm).owns hv
  refine ⟨hv, howns.observe.trans ?_⟩
  rw [show y.flag n = race'.cancelled from (hi.spares hu hobserve hm).2]
  have hseen := ((hi.reached hu hobserve).2.step hm).map_withFlag
  exact congrArg (fun w => Activity.run interrupt r { race' with worker? := w }) hseen

/-- A run that begins has no evaluation yet. One that goes on makes a move of its race, or
    is left alone. -/
theorem race?_step {m : Move} (hi : Inv x) (h : x.step m = some y)
    (hk : y.race? k = some race') :
    (x.race? k = none ∧ ∀ e, race'.worker? ≠ some (.evaluating e)) ∨
      ∃ race s r, x.race? k = some race ∧ Race.Reached s r race ∧
        (race' = race ∨ ∃ m, race.step s r m = some race') := by
  have hi' := hi.step h
  obtain ⟨v, interrupt, r, hv, hobserve⟩ := exists_use_of_race? hk
  rcases step_cases h with ⟨a, rfl, ha⟩ | ⟨n, u, m, hu, hproceed⟩
  · rcases Inv.uses_accept hv with hold | ⟨rfl, rfl⟩
    · exact .inr (race?_of_spared hi hi' (.inl rfl) Inv.flag_accept hold hv hk)
    · refine .inl ⟨?_, fun e he => ?_⟩
      · rw [race?, List.getElem?_eq_none (Nat.le_refl _)]
        rfl
      · rw [(hi'.owns hv).observe] at hobserve
        rcases ha with ⟨interrupt', r', rfl⟩ | ⟨source, rfl⟩
        · obtain ⟨-, -, rfl⟩ := Activity.run.inj hobserve
          obtain ⟨w, hw, hwith⟩ := Option.map_eq_some_iff.1 he
          rw [Race.start] at hw
          split at hw
          · cases hw
          · obtain rfl := Option.some.inj hw
            cases hwith
        · cases hobserve
  · rcases proceed_cases hproceed with ⟨interrupt', r', race, m', race'', hrace, hm, rfl⟩ |
      ⟨source, e?, e, hcheck, rfl, -⟩
    · have hspares := (hi.spares hu hrace hm).1
      rcases Runs.of_getElem?_set_eq_some hv with ⟨rfl, rfl⟩ | ⟨hne, hold⟩
      · have hafter := (observe_race hi hu hrace hm).2
        obtain ⟨-, -, rfl⟩ := Activity.run.inj (hafter.symm.trans hobserve)
        exact .inr ⟨race, _, r', race?_of_use hu hrace, (hi.reached hu hrace).2, .inr ⟨m', hm⟩⟩
      · exact .inr (race?_of_spared hi hi' hspares.epoch (hspares.flag hne) hold hv hk)
    · rcases Runs.of_getElem?_set_eq_some hv with ⟨rfl, rfl⟩ | ⟨hne, hold⟩
      · cases hobserve
      · exact .inr (race?_of_spared hi hi' (.inl rfl) rfl hold hv hk)

/-- A run stays one. -/
theorem exists_race?_step {m : Move} (h : x.step m = some y) (hk : x.race? k = some race) :
    ∃ race', y.race? k = some race' := by
  obtain ⟨u, interrupt, r, hu, hobserve⟩ := exists_use_of_race? hk
  obtain ⟨race₀, hactivity⟩ : ∃ race₀, u.activity = .run interrupt r race₀ := by
    rw [observe] at hobserve
    cases hactivity : u.activity with
    | run interrupt' r' race₀ =>
      rw [hactivity] at hobserve
      obtain ⟨rfl, rfl, -⟩ := Activity.run.inj hobserve
      exact ⟨race₀, rfl⟩
    | check source e? =>
      rw [hactivity] at hobserve
      cases hobserve
  have hsome {v : Use} {race₀ : Race} (hv : y.uses[k]? = some v)
      (hv' : v.activity = .run interrupt r race₀) : ∃ race', y.race? k = some race' := by
    obtain ⟨race', hrace'⟩ : ∃ race', y.observe v = .run interrupt r race' := by
      rw [observe, hv']
      exact ⟨_, rfl⟩
    exact ⟨race', race?_of_use hv hrace'⟩
  rcases step_cases h with ⟨a, rfl, -⟩ | ⟨n, v, m, hv, hproceed⟩
  · exact hsome ((List.getElem?_append_left (List.getElem?_eq_some_iff.1 hu).1).trans hu) hactivity
  · rcases proceed_cases hproceed with ⟨interrupt', r', race, m', race'', hrace, -, rfl⟩ |
      ⟨source, e?, e, hcheck, rfl, -⟩
    · by_cases hn : n = k
      · subst hn
        obtain rfl := Option.some.inj (hu.symm.trans hv)
        obtain ⟨rfl, rfl, -⟩ := Activity.run.inj (hrace.symm.trans hobserve)
        exact hsome (List.getElem?_set_self (List.getElem?_eq_some_iff.1 hu).1) rfl
      · exact hsome ((List.getElem?_set_ne hn).trans hu) hactivity
    · by_cases hn : n = k
      · subst hn
        obtain rfl := Option.some.inj (hu.symm.trans hv)
        cases hcheck.symm.trans hobserve
      · exact hsome ((List.getElem?_set_ne hn).trans hu) hactivity

/-- A race can be gone through on an engine. -/
theorem exists_run_race (hi : Inv x) (hu : x.uses[n]? = some u) {interrupt : Bool} {r : Request}
    {moves : List Race.Move} (hobserve : x.observe u = .run interrupt r race)
    (h : race.run ⟨x.interpreter, interrupt⟩ r moves = some race') :
    ∃ y, x.run (moves.map fun m => .proceed n (.race m)) = some y ∧
      y.race? n = some race' := by
  induction moves generalizing x u race with
  | nil => exact ⟨x, rfl, Option.some.inj h ▸ race?_of_use hu hobserve⟩
  | cons m moves ih =>
    obtain ⟨race₁, hm, h⟩ := Runs.run_cons_eq_some_iff.1 h
    obtain ⟨hv, hv'⟩ := observe_race hi hu hobserve hm
    have hstep : x.step (.proceed n (.race m)) = some { x with
        epoch := race₁.epoch
        flags := if m = .cancel then x.flags.cancel u.held else x.flags
        uses := x.uses.set n { u with activity := .run interrupt r race₁ } } := by
      rw [step, hu, Option.bind_some]
      unfold proceed
      rw [hobserve]
      exact congrArg (Option.map _) hm
    obtain ⟨y, hrun, hy⟩ := ih (hi.race hu hobserve hm) hv hv' h
    exact ⟨y, Runs.run_cons_eq_some_iff.2 ⟨_, hstep, hrun⟩, hy⟩

/-! ## What is lost -/

/-- The caller of a run has given up while its program looks up and has not seen the flag. -/
def Overlooks (x : Engine) (n : Nat) : Prop := ∃ race, x.race? n = some race ∧ race.Overlooks

/-- The caller of a run has given up, and its program runs and is not to look up. -/
def Loses (x : Engine) (n : Nat) (b : Guest.Behaviour) : Prop :=
  ∃ race, x.race? n = some race ∧ race.Loses b

theorem alert_step {m : Move} (hi : Inv x) (hx : ∀ race, x.race? n = some race → race.Alert)
    (ho : ¬x.Overlooks n) (h : x.step m = some y) (hrace : y.race? n = some race') :
    race'.Alert := by
  rcases race?_step hi h hrace with ⟨-, hnone⟩ | ⟨race, s, r, hold, hreached, rfl | ⟨m, hm⟩⟩
  · exact ⟨fun he => absurd he (hnone _), fun _ he => absurd he (hnone _)⟩
  · exact hx race' hold
  · exact (hx race hold).step hreached (fun hover => ho ⟨race, hold, hover⟩) hm

theorem alert_run {moves : List Move} (hi : Inv x)
    (hx : ∀ race, x.race? n = some race → race.Alert)
    (ho : ∀ before z, before <+: moves → x.run before = some z → ¬z.Overlooks n)
    (h : x.run moves = some y) (hrace : y.race? n = some race') : race'.Alert := by
  induction moves generalizing x with
  | nil =>
    obtain rfl := Option.some.inj h
    exact hx race' hrace
  | cons m moves ih =>
    obtain ⟨z, hz, h⟩ := Runs.run_cons_eq_some_iff.1 h
    have hnow : ¬x.Overlooks n := ho [] x List.nil_prefix rfl
    refine ih (hi.step hz) (fun race hrace => alert_step hi hx hnow hz hrace)
      (fun before w hbefore hw => ?_) h
    exact ho (m :: before) w (List.cons_prefix_cons.2 ⟨rfl, hbefore⟩)
      (Runs.run_cons_eq_some_iff.2 ⟨z, hz, hw⟩)

theorem epoch_le_step {m : Move} (hi : Inv x) (h : x.step m = some y) : x.epoch ≤ y.epoch := by
  rcases step_cases h with ⟨a, rfl, -⟩ | ⟨n, u, m, hu, hproceed⟩
  · exact Nat.le_refl _
  · rcases proceed_cases hproceed with ⟨interrupt, r, race, m', race', hrace, hm, rfl⟩ |
      ⟨source, e?, e, -, rfl, -⟩
    · rcases (hi.spares hu hrace hm).1.epoch with hepoch | hepoch
      · exact Nat.le_of_eq hepoch.symm
      · exact (Nat.le_succ _).trans (Nat.le_of_eq hepoch.symm)
    · exact Nat.le_refl _

/-- A race has the epoch of the engine. -/
theorem epoch_of_race? (hi : Inv x) (h : x.race? n = some race) : race.epoch = x.epoch := by
  obtain ⟨u, interrupt, r, hu, hobserve⟩ := exists_use_of_race? h
  exact (hi.reached hu hobserve).1

/-- A program that spins and whose interrupt was lost spins as long as nobody advances the
    epoch again. -/
theorem Loses.run {later : List Move} (hi : Inv x) (hx : x.Loses n .spin)
    (h : x.run later = some y) (hepoch : y.epoch = x.epoch) : y.Loses n .spin := by
  have hinv : Inv y ∧ x.epoch ≤ y.epoch ∧ (y.epoch = x.epoch → y.Loses n .spin) := by
    refine run_induction (P := fun z => Inv z ∧ x.epoch ≤ z.epoch ∧
      (z.epoch = x.epoch → z.Loses n .spin)) (fun {z m w} hz hm => ?_) h
      ⟨hi, Nat.le_refl _, fun _ => hx⟩
    obtain ⟨hiz, hle, hlost⟩ := hz
    have hle' := epoch_le_step hiz hm
    refine ⟨hiz.step hm, hle.trans hle', fun hepoch => ?_⟩
    -- The epoch never goes back, so it has been the same all the time.
    have hsame : z.epoch = x.epoch := by omega
    obtain ⟨race, hrace, hrace_lost⟩ := hlost hsame
    obtain ⟨race', hrace'⟩ := exists_race?_step hm hrace
    refine ⟨race', hrace', ?_⟩
    rcases race?_step hiz hm hrace' with ⟨hnone, -⟩ | ⟨race₁, s, r, hold, -, heq | ⟨m, hstep⟩⟩
    · exact nomatch hnone.symm.trans hrace
    · obtain rfl := Option.some.inj (hrace.symm.trans hold)
      exact heq ▸ hrace_lost
    · obtain rfl := Option.some.inj (hrace.symm.trans hold)
      refine hrace_lost.step hstep ?_
      rw [epoch_of_race? (hiz.step hm) hrace', epoch_of_race? hiz hrace, hepoch, hsame]
  exact hinv.2.2 hepoch

/-- Of all that goes on on an interpreter at one time. As long as the caller of a run does
    not give up just while its program looks up, no interrupt of it is lost: once the caller
    has set the flag and advanced the epoch, the program is to look up, and when it does it
    is interrupted. But if the epoch has been advanced by somebody else, and the program
    looks up and reads the flag before its caller gives up, and is back at work only
    afterwards, then the interrupt is lost; and a program that spins does so from then on,
    whatever happens, as long as nobody advances the epoch again. -/
theorem heeds_or_loses {epoch : Nat} {moves : List Move}
    (h : (start i epoch).run moves = some x) (n : Nat) :
    ((∀ before y, before <+: moves → (start i epoch).run before = some y → ¬y.Overlooks n) →
      (∀ b, ¬x.Loses n b) ∧
      ∀ race e b, x.race? n = some race → race.IsGivenUp →
        race.worker? = some (.evaluating e) → e.phase = .running b →
        ∃ y race' e', x.run [.proceed n (.race (.worker (.evaluate .poll))),
            .proceed n (.race (.worker (.evaluate .resume)))] = some y ∧
          y.race? n = some race' ∧ race'.worker? = some (.evaluating e') ∧
          e'.ending? = some .interrupted) ∧
    ∀ u r race e b, x.uses[n]? = some u → x.observe u = .run true r race →
      race.caller = .waiting → race.worker? = some (.evaluating e) → e.phase = .running b →
      e.deadline ≤ x.epoch →
      ∃ y, x.run (Race.overlooking.map fun m => .proceed n (.race m)) = some y ∧ y.Loses n b ∧
        (b = .spin → ∀ later z, y.run later = some z → z.epoch = y.epoch → z.Loses n .spin) := by
  obtain ⟨hi, -⟩ := run_inv h
  refine ⟨fun ho => ?_, fun u r race e b hu hobserve hcaller he hphase hdue => ?_⟩
  · have halert {race : Race} (hrace : x.race? n = some race) : race.Alert :=
      alert_run (.start i epoch) (fun _ hnone => nomatch hnone) ho h hrace
    refine ⟨fun b ⟨race, hrace, hlost⟩ => (halert hrace).not_loses b hlost,
      fun race e b hrace hgiven he hphase => ?_⟩
    obtain ⟨u, interrupt, r, hu, hobserve⟩ := exists_use_of_race? hrace
    have hcancelled := ((hi.reached hu hobserve).2.evaluating he).1.trans hgiven.1
    have hinterrupted := Evaluation.interrupted_of_due hphase hcancelled
      ((halert hrace).now hgiven he hphase)
    have hrun : race.run ⟨x.interpreter, interrupt⟩ r
        [.worker (.evaluate .poll), .worker (.evaluate .resume)] =
        some { race with
          worker? := some (.evaluating ([.poll, .resume].foldl (Evaluation.make race.epoch) e)) } :=
      Runs.run_cons_eq_some_iff.2 ⟨_, Race.step_evaluate he .poll,
        Runs.run_cons_eq_some_iff.2 ⟨_, Race.step_evaluate rfl .resume, rfl⟩⟩
    obtain ⟨y, hy, hrace'⟩ := exists_run_race hi hu hobserve hrun
    exact ⟨y, _, _, hy, hrace', rfl, hinterrupted⟩
  · obtain ⟨hepoch, hreached⟩ := hi.reached hu hobserve
    have hcancelled := (hreached.evaluating he).1.trans
      (hreached.not_cancelled_of_waiting hcaller)
    obtain ⟨race', hrun, hlost⟩ := Race.run_overlooking (r := r) hcaller he hphase hcancelled
      (hepoch ▸ hdue) x.interpreter
    obtain ⟨y, hy, hrace'⟩ := exists_run_race hi hu hobserve hrun
    have hi' : Inv y := (run_inv ((Runs.run_append h _).trans hy)).1
    refine ⟨y, hy, ⟨race', hrace', hlost⟩, fun hspin later z hz hsame => ?_⟩
    subst hspin
    exact Loses.run hi' ⟨race', hrace', hlost⟩ hz hsame

/-- Two programs spin, and the caller of the first gives up. -/
def oneTimeout : List Move :=
  [.run true { source := "gets", input := .ofText "x" },
    .run true { source := "gets", input := .ofText "x" }, .proceed 0 (.race (.worker .begin)),
    .proceed 1 (.race (.worker .begin)), .proceed 0 (.race (.worker (.evaluate .enter))),
    .proceed 1 (.race (.worker (.evaluate .enter))),
    .proceed 0 (.race (.worker (.evaluate .advance))),
    .proceed 1 (.race (.worker (.evaluate .advance))), .proceed 0 (.race .ring),
    .proceed 0 (.race .giveUp), .proceed 0 (.race .cancel), .proceed 0 (.race .wake)]

/-- The first is interrupted. But the second has to look up, too, and as its own caller
    gives up meanwhile its interrupt is lost. -/
theorem heeds_or_loses_of_two_timeouts : ∃ x y z race e,
    (start heedful 0).run oneTimeout = some x ∧
    x.run [.proceed 0 (.race (.worker (.evaluate .poll))),
      .proceed 0 (.race (.worker (.evaluate .resume)))] = some y ∧
    y.race? 0 = some race ∧ race.worker? = some (.evaluating e) ∧ e.ending? = some .interrupted ∧
    x.run (Race.overlooking.map fun m => .proceed 1 (.race m)) = some z ∧ z.Loses 1 .spin := by
  obtain ⟨x, hx⟩ : ∃ x, (start heedful 0).run oneTimeout = some x := ⟨_, rfl⟩
  obtain ⟨hheeds, -⟩ := heeds_or_loses hx 0
  obtain ⟨-, hloses⟩ := heeds_or_loses hx 1
  obtain rfl := Option.some.inj hx
  obtain ⟨z, hz, hlost, -⟩ := hloses _ _ _ _ .spin rfl rfl rfl rfl rfl (Nat.le_refl 1)
  obtain ⟨-, hinterrupted⟩ := hheeds fun before y hbefore hy ho => by
    obtain ⟨race, hrace, ⟨-, o, hcaller⟩, e, b, he, hphase⟩ := ho
    -- The caller is back only at the end, and then the program is not looking up.
    have hlength : before.length ≤ 12 := hbefore.length_le
    rw [List.prefix_iff_eq_take.1 hbefore] at hy
    generalize before.length = k at hlength hy
    interval_cases k <;> cases hy <;> cases hrace <;> cases hcaller
    cases he
    exact nomatch hphase
  obtain ⟨y, race, e, hy, hrace, he, hending⟩ :=
    hinterrupted _ _ .spin rfl ⟨rfl, _, rfl⟩ rfl rfl
  exact ⟨_, y, z, race, e, rfl, hy, hrace, he, hending, hz, hlost⟩

end Engine

end Playpen
