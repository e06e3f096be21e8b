import Playpen.Proofs.Prospect
import Playpen.Proofs.Runs

/-!
# A race has two outcomes

Whatever happens in a race and in which order, the flag of the evaluation is set only
by a caller who has given up, and a worker whose flag was not set has what is to be
expected of the request (`Race.Inv`). So a caller is given that or a timeout, and
nothing of an evaluation that was stopped or left behind; and each of the two can
happen (`Race.returns_iff`).
-/

namespace Playpen

variable {s : Session} {r : Request} {o : Outcome}

/-! ## The worker -/

namespace Worker

variable {epoch : Nat} {cancelled : Bool} {w w' : Worker}

/-- As long as the flag is not set, the worker is on the way to what is to be expected
    of the request, or there. -/
def Sound (s : Session) (r : Request) (cancelled : Bool) : Worker → Prop
  | .queued => True
  | .evaluating e =>
    Arguments.isPassable r.source ∧ e.cancelled = cancelled ∧
      (cancelled = false → e.prospect? = (s.prepare r).prospect?)
  | .done o => cancelled = false → s.evaluate none r = some o

theorem Sound.begin (s : Session) (r : Request) (epoch : Nat) (cancelled : Bool) :
    (begin s r epoch cancelled).Sound s r cancelled := by
  cases hsource : Arguments.isPassable r.source with
  | false =>
    rw [Worker.begin, hsource]
    intro _
    rw [Session.evaluate, hsource]
    rfl
  | true =>
    rw [Worker.begin, hsource]
    exact ⟨hsource, rfl, fun _ => rfl⟩

theorem Sound.conclude {e : Evaluation} {ending : Ending} (h : (evaluating e).Sound s r cancelled)
    (hending : e.ending? = some ending) :
    (done (.ofEnding r.timeout ending e.streams)).Sound s r cancelled := by
  obtain ⟨hsource, -, hprospect⟩ := h
  intro hcancelled
  rw [Session.evaluate_none hsource, ← hprospect hcancelled,
    Evaluation.prospect?_of_ending? hending]
  rfl

theorem Sound.step {m : Move} (h : w.Sound s r cancelled)
    (hstep : w.step s r epoch cancelled m = some w') : w'.Sound s r cancelled := by
  match w, m with
  | .queued, .begin => exact Option.some.inj hstep ▸ .begin s r epoch cancelled
  | .evaluating e, .evaluate m =>
    obtain rfl := Option.some.inj hstep
    obtain ⟨hsource, hflag, hprospect⟩ := h
    refine ⟨hsource, (Evaluation.cancelled_make epoch e m).trans hflag, fun hcancelled => ?_⟩
    rw [Evaluation.prospect?_make epoch (hflag.trans hcancelled), hprospect hcancelled]
  | .evaluating e, .conclude =>
    obtain ⟨ending, hending, rfl⟩ := Option.map_eq_some_iff.1 hstep
    exact h.conclude hending
  | .queued, .evaluate _ | .queued, .conclude | .evaluating _, .begin => exact nomatch hstep
  | .done _, .begin | .done _, .evaluate _ | .done _, .conclude => exact nomatch hstep

/-- Nothing is expected of a worker whose flag is set. -/
theorem Sound.cancel (h : w.Sound s r cancelled) : w.cancel.Sound s r true := by
  match w with
  | .queued => trivial
  | .evaluating e => exact ⟨h.1, rfl, nofun⟩
  | .done o => exact nofun

end Worker

/-! ## The caller -/

/-- One who has given up has been told that the time is over, and one who has returned
    was given what is to be expected of the request, or a timeout. -/
def Caller.Sound (s : Session) (r : Request) (cancelled rung : Bool) : Caller → Prop
  | .waiting => cancelled = false
  | .expired | .cancelled => s.interruptOnTimeout ∧ rung
  | .returned o =>
    s.evaluate none r = some o ∧ cancelled = false ∨ o = .timedOut r.timeout ∧ rung

theorem Caller.Sound.ring {c : Caller} {cancelled rung : Bool} (h : c.Sound s r cancelled rung) :
    c.Sound s r cancelled true := by
  match c with
  | .waiting => exact h
  | .expired | .cancelled => exact ⟨h.1, rfl⟩
  | .returned o => exact h.imp_right fun h => ⟨h.1, rfl⟩

namespace Race

variable {epoch : Nat} {moves : List Move} {x y : Race}

/-- What every move preserves holds after every run. -/
theorem run_induction {P : Race → Prop} (hstep : ∀ {x m y}, P x → step s r x m = some y → P y)
    (h : x.run s r moves = some y) (hx : P x) : P y :=
  Runs.run_induction (fun _ => hstep) h hx

theorem run_append (h : x.run s r moves = some y) (later : List Move) :
    x.run s r (moves ++ later) = y.run s r later :=
  Runs.run_append h later

/-! ## What every move preserves -/

/-- Nobody works for a source that is blank. -/
structure Idle (x : Race) : Prop where
  worker? : x.worker? = none
  caller : x.caller = .returned (.success "")
  cancelled : x.cancelled = false

theorem Idle.step {m : Move} (hi : Idle x) (h : x.step s r m = some y) : Idle y := by
  cases m with
  | worker m =>
    rw [Race.step, hi.worker?] at h
    exact nomatch h
  | ring | tick => exact Option.some.inj h ▸ ⟨hi.worker?, hi.caller, hi.cancelled⟩
  | take | giveUp | cancel | wake =>
    rw [Race.step, hi.caller] at h
    exact nomatch h

/-- What holds of a race for a source that is not blank. -/
structure Inv (s : Session) (r : Request) (x : Race) : Prop where
  worker : ∀ w, x.worker? = some w → w.Sound s r x.cancelled
  caller : x.caller.Sound s r x.cancelled x.rung
  spared : s.interruptOnTimeout = false → x.cancelled = false

namespace Inv

theorem start (s : Session) (epoch : Nat) (h : ¬Text.isBlank r.source.toList) :
    Inv s r (start r epoch) := by
  rw [Race.start, if_neg h]
  exact ⟨fun w hw => Option.some.inj hw ▸ trivial, rfl, fun _ => rfl⟩

theorem take (hi : Inv s r x) (h : x.step s r .take = some y) : Inv s r y := by
  rw [Race.step] at h
  split at h
  · rename_i o hcaller hworker
    obtain rfl := Option.some.inj h
    -- One who still waits has not set the flag, so the worker was not disturbed.
    have hcancelled : x.cancelled = false := by
      have hsound := hi.caller
      rwa [hcaller] at hsound
    exact ⟨hi.worker, .inl ⟨hi.worker _ hworker hcancelled, hcancelled⟩, hi.spared⟩
  · exact nomatch h

theorem giveUp (hi : Inv s r x) (h : x.step s r .giveUp = some y) : Inv s r y := by
  rw [Race.step] at h
  split at h
  · rename_i hcaller hrung
    obtain rfl := Option.some.inj h
    refine ⟨hi.worker, ?_, hi.spared⟩
    dsimp only
    split
    · rename_i hinterrupt
      exact ⟨hinterrupt, hrung⟩
    · exact .inr ⟨rfl, hrung⟩
  · exact nomatch h

theorem cancel (hi : Inv s r x) (h : x.step s r .cancel = some y) : Inv s r y := by
  rw [Race.step] at h
  split at h
  · rename_i hcaller
    obtain rfl := Option.some.inj h
    have hexpired : s.interruptOnTimeout ∧ x.rung := by
      have hsound := hi.caller
      rwa [hcaller] at hsound
    refine ⟨fun w hw => ?_, hexpired, fun hspared => ?_⟩
    · obtain ⟨v, hv, rfl⟩ := Option.map_eq_some_iff.1 hw
      exact (hi.worker v hv).cancel
    · exact absurd hexpired.1 (by rw [hspared]; exact Bool.false_ne_true)
  · exact nomatch h

theorem wake (hi : Inv s r x) (h : x.step s r .wake = some y) : Inv s r y := by
  rw [Race.step] at h
  split at h
  · rename_i hcaller
    obtain rfl := Option.some.inj h
    have hexpired : s.interruptOnTimeout ∧ x.rung := by
      have hsound := hi.caller
      rwa [hcaller] at hsound
    exact ⟨hi.worker, .inr ⟨rfl, hexpired.2⟩, hi.spared⟩
  · exact nomatch h

theorem step {m : Move} (hi : Inv s r x) (h : x.step s r m = some y) : Inv s r y := by
  cases m with
  | worker m =>
    obtain ⟨w', hw', rfl⟩ := Option.map_eq_some_iff.1 h
    obtain ⟨w, hw, hstep⟩ := Option.bind_eq_some_iff.1 hw'
    exact ⟨fun v hv => Option.some.inj hv ▸ (hi.worker w hw).step hstep, hi.caller, hi.spared⟩
  | ring =>
    obtain rfl := Option.some.inj h
    exact ⟨hi.worker, hi.caller.ring, hi.spared⟩
  | take => exact hi.take h
  | giveUp => exact hi.giveUp h
  | cancel => exact hi.cancel h
  | wake => exact hi.wake h
  | tick => exact Option.some.inj h ▸ ⟨hi.worker, hi.caller, hi.spared⟩

end Inv

/-! ## Both can happen -/

/-- The program is let act until it ends, and the worker has what it comes to. -/
theorem exists_run_of_conclude? (s : Session) (r : Request) (epoch deadline : Nat) (c : Caller)
    {b : Guest.Behaviour} {streams : Streams} {p : Ending × Streams}
    (h : b.conclude? streams = some p) :
    ∃ moves, run s r
        ⟨epoch, some (.evaluating ⟨.running b, streams, false, deadline⟩), false, false, c⟩ moves =
      some ⟨epoch, some (.done (.ofEnding r.timeout p.1 p.2)), false, false, c⟩ := by
  induction b generalizing streams with
  | halt halt =>
    obtain rfl := Option.some.inj h
    exact ⟨[.worker (.evaluate .advance), .worker .conclude], rfl⟩
  | spin => exact nomatch h
  | write stream bs next ih =>
    obtain ⟨moves, hmoves⟩ := ih h
    exact ⟨.worker (.evaluate .advance) :: moves, hmoves⟩
  | read limit? next ih =>
    obtain ⟨moves, hmoves⟩ := ih _ h
    exact ⟨.worker (.evaluate .advance) :: moves, hmoves⟩
  | pause d next ih =>
    obtain ⟨moves, hmoves⟩ := ih h
    exact ⟨.worker (.evaluate .advance) :: moves, hmoves⟩

/-- What is to be expected of the request is there while the caller still waits. -/
theorem exists_run_done (hblank : ¬Text.isBlank r.source.toList)
    (h : s.evaluate none r = some o) (epoch : Nat) :
    ∃ moves, (start r epoch).run s r moves =
      some ⟨epoch, some (.done o), false, false, .waiting⟩ := by
  rw [start, if_neg hblank]
  have hbegin (moves : List Move) :
      run s r ⟨epoch, some .queued, false, false, .waiting⟩ (.worker .begin :: moves) =
        run s r ⟨epoch, some (.begin s r epoch false), false, false, .waiting⟩ moves := rfl
  -- The worker has an outcome at once, or after the set-up, or when the program has ended.
  cases hsource : Arguments.isPassable r.source with
  | false =>
    rw [Session.evaluate, hsource] at h
    obtain rfl := Option.some.inj h
    refine ⟨[.worker .begin], ?_⟩
    rw [hbegin, Worker.begin, hsource]
    rfl
  | true =>
    rw [Session.evaluate_none hsource] at h
    obtain ⟨p, hp, rfl⟩ := Option.map_eq_some_iff.1 h
    rw [Session.prepare] at hp
    rw [Worker.begin, hsource] at hbegin
    cases hstart : s.interpreter.start (Arguments.execute s.interpreter.arguments r.source) with
    | error why =>
      rw [hstart] at hp hbegin
      obtain rfl := Option.some.inj hp
      refine ⟨[.worker .begin, .worker (.evaluate .enter), .worker .conclude], ?_⟩
      rw [hbegin]
      rfl
    | ok b =>
      rw [hstart] at hp hbegin
      obtain ⟨moves, hmoves⟩ := exists_run_of_conclude? s r epoch (epoch + 1) .waiting hp
      refine ⟨.worker .begin :: .worker (.evaluate .enter) :: moves, ?_⟩
      rw [hbegin]
      exact hmoves

/-- A caller who is not back can give up. -/
theorem exists_run_timedOut (s : Session) (r : Request) (h : ∀ o, x.caller ≠ .returned o) :
    ∃ moves y, x.run s r moves = some y ∧ y.caller = .returned (.timedOut r.timeout) := by
  obtain ⟨epoch, worker?, cancelled, rung, caller⟩ := x
  match caller with
  | .waiting =>
    have hgiveUp : run s r ⟨epoch, worker?, cancelled, rung, .waiting⟩ [.ring, .giveUp] =
        some ⟨epoch, worker?, cancelled, true,
          if s.interruptOnTimeout then .expired else .returned (.timedOut r.timeout)⟩ := rfl
    cases hinterrupt : s.interruptOnTimeout with
    | true =>
      rw [hinterrupt] at hgiveUp
      exact ⟨_, _, (run_append hgiveUp [.cancel, .wake]).trans rfl, rfl⟩
    | false =>
      rw [hinterrupt] at hgiveUp
      exact ⟨_, _, hgiveUp, rfl⟩
  | .expired => exact ⟨[.cancel, .wake], _, rfl, rfl⟩
  | .cancelled => exact ⟨[.wake], _, rfl, rfl⟩
  | .returned o => exact absurd rfl (h o)

/-! ## The outcomes -/

/-- The race may come to this outcome. -/
def Returns (s : Session) (r : Request) (epoch : Nat) (o : Outcome) : Prop :=
  ∃ moves x, (start r epoch).run s r moves = some x ∧ x.caller = .returned o

theorem run_idle (hblank : Text.isBlank r.source.toList)
    (h : (start r epoch).run s r moves = some x) : Idle x := by
  refine run_induction Idle.step h ?_
  rw [start, if_pos hblank]
  exact ⟨rfl, rfl, rfl⟩

theorem run_inv (hblank : ¬Text.isBlank r.source.toList)
    (h : (start r epoch).run s r moves = some x) : Inv s r x :=
  run_induction Inv.step h (.start s epoch hblank)

theorem returns_iff_of_blank (hblank : Text.isBlank r.source.toList) :
    Returns s r epoch o ↔ o = .success "" := by
  constructor
  · rintro ⟨moves, x, h, hcaller⟩
    exact Caller.returned.inj (hcaller.symm.trans (run_idle hblank h).caller)
  · rintro rfl
    refine ⟨[], _, rfl, ?_⟩
    rw [start, if_pos hblank]

/-- A caller is given what is to be expected of the request, or a timeout, and may be
    given either. -/
theorem returns_iff (hblank : ¬Text.isBlank r.source.toList) :
    Returns s r epoch o ↔ s.evaluate none r = some o ∨ o = .timedOut r.timeout := by
  constructor
  · rintro ⟨moves, x, h, hcaller⟩
    have hsound := (run_inv hblank h).caller
    rw [hcaller] at hsound
    exact hsound.imp And.left And.left
  · rintro (h | rfl)
    · obtain ⟨moves, hmoves⟩ := exists_run_done hblank h epoch
      exact ⟨_, _, (run_append hmoves [.take]).trans rfl, rfl⟩
    · refine exists_run_timedOut s r fun o ho => ?_
      rw [start, if_neg hblank] at ho
      exact nomatch ho

/-- A run that nobody else disturbs is a race. -/
theorem returns_run (s : Session) (r : Request) (epoch : Nat) : Returns s r epoch (s.run r) := by
  rw [Session.run]
  split
  · exact (returns_iff_of_blank ‹_›).2 rfl
  · refine (returns_iff ‹_›).2 ?_
    cases h : s.evaluate (some r.timeout) r with
    | none => exact .inr rfl
    | some o => exact .inl (Session.evaluate_none_of_some h)

/-- From anywhere the caller can get back. -/
theorem exists_run_returned (s : Session) (r : Request) (x : Race) :
    ∃ moves y o, x.run s r moves = some y ∧ y.caller = .returned o := by
  by_cases h : ∃ o, x.caller = .returned o
  · obtain ⟨o, ho⟩ := h
    exact ⟨[], x, o, rfl, ho⟩
  · obtain ⟨moves, y, hy, ho⟩ := exists_run_timedOut s r fun o ho => h ⟨o, ho⟩
    exact ⟨moves, y, _, hy, ho⟩

/-- A run of a source that is not blank comes to what is to be expected of the request,
    which is no timeout, or to a timeout without output, and it comes to a timeout only
    when the time is over. Whenever the evaluation is made its moves, it comes to what is
    to be expected if its flag has not been set, and it is set only if the session
    interrupts evaluations. A blank source is not evaluated at all. -/
theorem two_outcomes (s : Session) (r : Request) (epoch : Nat) :
    (¬Text.isBlank r.source.toList → ∀ o,
      Returns s r epoch o ↔ s.evaluate none r = some o ∨ o = .timedOut r.timeout) ∧
    (Text.isBlank r.source.toList → ∀ o, Returns s r epoch o ↔ o = .success "") ∧
    (∀ o, s.evaluate none r = some o → o.isTimeout = false) ∧
    Returns s r epoch (s.run r) ∧
    ∀ moves x, (start r epoch).run s r moves = some x →
      (Text.isBlank r.source.toList → x.worker? = none) ∧
      (∀ o, x.worker? = some (.done o) → x.cancelled = false → s.evaluate none r = some o) ∧
      (x.caller = .returned (.timedOut r.timeout) → x.rung) ∧
      (s.interruptOnTimeout = false → x.cancelled = false) ∧
      ∃ later y o, x.run s r later = some y ∧ y.caller = .returned o := by
  refine ⟨fun hblank o => returns_iff hblank, fun hblank o => returns_iff_of_blank hblank,
    fun o => Session.isTimeout_of_evaluate, returns_run s r epoch, fun moves x h => ?_⟩
  by_cases hblank : Text.isBlank r.source.toList
  · have hi := run_idle hblank h
    refine ⟨fun _ => hi.worker?, fun o ho => ?_, fun ho => ?_, fun _ => hi.cancelled,
      exists_run_returned s r x⟩
    · exact nomatch hi.worker?.symm.trans ho
    · exact nomatch hi.caller.symm.trans ho
  · have hi := run_inv hblank h
    refine ⟨fun h => absurd h hblank, fun o ho => hi.worker _ ho, fun ho => ?_, hi.spared,
      exists_run_returned s r x⟩
    have hsound := hi.caller
    rw [ho] at hsound
    rcases hsound with ⟨hevaluate, -⟩ | ⟨-, hrung⟩
    · exact nomatch Session.isTimeout_of_evaluate hevaluate
    · exact hrung

/-- Every program prints something and then goes on for ever. -/
def spinning : Session where
  interpreter :=
    { image :=
        { start? := some (.function 0 0)
          missing? := none
          initializes := true
          run := fun _ => .write 1 [104, 105] .spin }
      arguments := []
      capacity := 8 }

/-- All that can come of it is a timeout, without what was printed. -/
theorem returns_spinning_iff :
    ¬Text.isBlank "loop".toList ∧ ∀ o,
      Returns spinning { source := "loop" } 0 o ↔ o = .timedOut Settings.default.defaultTimeout := by
  have hblank : ¬Text.isBlank "loop".toList := by decide
  have hnone : spinning.evaluate none { source := "loop" } = none := rfl
  refine ⟨hblank, fun o => ?_⟩
  rw [(two_outcomes spinning { source := "loop" } 0).1 hblank o, hnone]
  exact or_iff_right nofun

end Race

end Playpen
