import Playpen.Engine
import Playpen.Proofs.Cancellation
import Playpen.Proofs.Race

/-!
# A timeout stops nothing else

Of all that goes on on an interpreter, each run is a race of its own: whatever the
others do is to it somebody who advances the epoch (`Engine.Inv`). So its flag is set
only by its own caller, and as long as it is not set, its evaluation is on the way to
what it would come to with nothing else going on, and can get there by its own moves.
A check has a flag that nobody sets (`Engine.isolates`).
-/

namespace Playpen

/-! ## What a race can come to -/

namespace Race

variable {s : Session} {r : Request} {x y : Race} {m : Move} {e : Evaluation} {o : Outcome}

/-- The epoch is advanced by one, or not. -/
theorem epoch_step (h : x.step s r m = some y) : y.epoch = x.epoch ∨ y.epoch = x.epoch + 1 := by
  cases m with
  | worker m =>
    obtain ⟨w, -, rfl⟩ := Option.map_eq_some_iff.1 h
    exact .inl rfl
  | ring => exact .inl (Option.some.inj h ▸ rfl)
  | tick => exact .inr (Option.some.inj h ▸ rfl)
  | take | giveUp | cancel | wake =>
    rw [step] at h
    split at h <;> cases h
    all_goals simp

/-- Only to cancel sets the flag. -/
theorem cancelled_step (h : x.step s r m = some y) :
    y.cancelled = if m = .cancel then true else x.cancelled := by
  cases m with
  | worker m =>
    obtain ⟨w, -, rfl⟩ := Option.map_eq_some_iff.1 h
    rfl
  | ring | tick => exact Option.some.inj h ▸ rfl
  | take | giveUp | cancel | wake =>
    rw [step] at h
    split at h <;> cases h
    all_goals rfl

/-- The evaluation makes a move. -/
theorem step_evaluate (h : x.worker? = some (.evaluating e)) (m : Evaluation.Move) :
    x.step s r (.worker (.evaluate m)) =
      some { x with worker? := some (.evaluating (e.make x.epoch m)) } := by
  rw [step, h]
  rfl

/-- What the run of a request can come to. -/
def Reached (s : Session) (r : Request) (x : Race) : Prop :=
  ∃ epoch moves, (start r epoch).run s r moves = some x

namespace Reached

theorem start (s : Session) (r : Request) (epoch : Nat) :
    Reached s r (start r epoch) ∧ (Race.start r epoch).epoch = epoch ∧
      (Race.start r epoch).cancelled = false := by
  refine ⟨⟨epoch, [], rfl⟩, ?_⟩
  rw [Race.start]
  split <;> exact ⟨rfl, rfl⟩

theorem step (h : Reached s r x) (hm : x.step s r m = some y) : Reached s r y := by
  obtain ⟨epoch, moves, hx⟩ := h
  exact ⟨epoch, moves ++ [m], Runs.run_concat hx hm⟩

/-- The flag of an evaluation is the flag of its run. As long as it is not set, the
    evaluation is on the way to what it comes to by itself. -/
theorem evaluating (h : Reached s r x) (he : x.worker? = some (.evaluating e)) :
    e.cancelled = x.cancelled ∧
      (x.cancelled = false → e.prospect? = (s.prepare r).prospect?) := by
  obtain ⟨epoch, moves, hx⟩ := h
  by_cases hblank : Text.isBlank r.source.toList
  · exact nomatch (run_idle hblank hx).worker?.symm.trans he
  · obtain ⟨-, hflag, hprospect⟩ := (run_inv hblank hx).worker _ he
    exact ⟨hflag, hprospect⟩

/-- A worker whose flag was not set has what the request comes to by itself. -/
theorem done (h : Reached s r x) (ho : x.worker? = some (.done o)) (hc : x.cancelled = false) :
    s.evaluate none r = some o := by
  obtain ⟨epoch, moves, hx⟩ := h
  by_cases hblank : Text.isBlank r.source.toList
  · exact nomatch (run_idle hblank hx).worker?.symm.trans ho
  · exact (run_inv hblank hx).worker _ ho hc

/-- A flag is set when the time is over, and only if the session interrupts
    evaluations. -/
theorem of_cancelled (h : Reached s r x) (hc : x.cancelled) : s.interruptOnTimeout ∧ x.rung := by
  obtain ⟨epoch, moves, hx⟩ := h
  by_cases hblank : Text.isBlank r.source.toList
  · exact nomatch (run_idle hblank hx).cancelled.symm.trans hc
  · have hi := run_inv hblank hx
    refine ⟨Bool.of_not_eq_false fun hspared => ?_, ?_⟩
    · exact nomatch (hi.spared hspared).symm.trans hc
    · have hsound := hi.caller
      rw [hc] at hsound
      generalize x.caller = caller at hsound
      cases caller with
      | waiting => exact nomatch hsound
      | expired | cancelled => exact hsound.2
      | returned o =>
        rcases hsound with ⟨-, hfalse⟩ | ⟨-, hrung⟩
        · exact nomatch hfalse
        · exact hrung

/-- The worker has seen the flag as it is. -/
theorem map_withFlag (h : Reached s r x) :
    x.worker?.map (Worker.withFlag x.cancelled) = x.worker? := by
  cases hw : x.worker? with
  | none => rfl
  | some w =>
    cases w with
    | queued | done => rfl
    | evaluating e =>
      rw [← (h.evaluating hw).1]
      rfl

end Reached

end Race

/-! ## One evaluation by itself -/

namespace Evaluation

variable {e : Evaluation} {p : Ending × Streams}

theorem exists_moves_of_conclude? {b : Guest.Behaviour} {streams : Streams} (deadline epoch : Nat)
    (h : b.conclude? streams = some p) :
    ∃ (moves : List Move) (deadline' : Nat),
      moves.foldl (make epoch) ⟨.running b, streams, false, deadline⟩ =
        ⟨.ended p.1, p.2, false, deadline'⟩ := by
  induction b generalizing streams with
  | halt halt =>
    obtain rfl := Option.some.inj h
    exact ⟨[.advance], deadline, rfl⟩
  | spin => exact nomatch h
  | write stream bs next ih =>
    obtain ⟨moves, deadline', hmoves⟩ := ih h
    exact ⟨.advance :: moves, deadline', hmoves⟩
  | read limit? next ih =>
    obtain ⟨moves, deadline', hmoves⟩ := ih _ h
    exact ⟨.advance :: moves, deadline', hmoves⟩
  | pause d next ih =>
    obtain ⟨moves, deadline', hmoves⟩ := ih h
    exact ⟨.advance :: moves, deadline', hmoves⟩

/-- An evaluation whose flag is not set gets by its own moves to what is to be
    expected of it, wherever it stands. -/
theorem exists_moves_of_prospect? (h : e.cancelled = false) (hp : e.prospect? = some p)
    (epoch : Nat) :
    ∃ moves : List Move, (moves.foldl (make epoch) e).ending? = some p.1 ∧
      (moves.foldl (make epoch) e).streams = p.2 := by
  have hrunning {b : Guest.Behaviour} {streams : Streams} (deadline : Nat)
      (hb : b.conclude? streams = some p) (first : List Move)
      (hfirst : first.foldl (make epoch) e = ⟨.running b, streams, false, deadline⟩) :
      ∃ moves : List Move, (moves.foldl (make epoch) e).ending? = some p.1 ∧
        (moves.foldl (make epoch) e).streams = p.2 := by
    obtain ⟨moves, deadline', hmoves⟩ := exists_moves_of_conclude? deadline epoch hb
    refine ⟨first ++ moves, ?_⟩
    rw [List.foldl_append, hfirst, hmoves]
    exact ⟨rfl, rfl⟩
  obtain ⟨phase, streams, cancelled, deadline⟩ := e
  obtain rfl : cancelled = false := h
  match phase with
  | .created (.error why) =>
    obtain rfl := Option.some.inj hp
    exact ⟨[.enter], rfl, rfl⟩
  | .created (.ok b) => exact hrunning _ hp [.enter] rfl
  | .running b => exact hrunning _ hp [] rfl
  | .polled b false => exact hrunning _ hp [.resume] rfl
  | .polled b true =>
    obtain rfl := Option.some.inj hp
    exact ⟨[.resume], rfl, rfl⟩
  | .ended ending =>
    obtain rfl := Option.some.inj hp
    exact ⟨[], rfl, rfl⟩

/-- An evaluation is to come to what it comes to in all the time it takes. -/
theorem prospect?_eq_some_iff {start : Except HostFault Guest.Behaviour}
    (hphase : e.phase = .created start) (h : e.cancelled = false) :
    e.prospect? = some p ↔ (e.runWithin none).ending? = some p.1 ∧ (e.runWithin none).streams = p.2 := by
  constructor
  · exact runWithin_of_prospect? hphase h
  · rintro ⟨hending, hstreams⟩
    rw [prospect?_of_runWithin h hending, hstreams]

end Evaluation

/-! ## What holds of every activity -/

namespace Activity

/-- The evaluation that is made for an activity when nothing else goes on and it has
    all the time it takes. -/
def alone (i : Interpreter) : Activity → Evaluation
  | .run interrupt r _ => (Session.prepare ⟨i, interrupt⟩ r).runWithin none
  | .check source _ => SyntaxCheck.evaluation i source

/-- The move of an activity in which its evaluation makes that move. -/
def own : Activity → Evaluation.Move → Move
  | .run .., m => .race (.worker (.evaluate m))
  | .check .., m => .evaluate m

/-- An activity at an epoch and with its flag: a run is a race of its own, and the
    flag of a check is not set. -/
def Sound (i : Interpreter) (epoch : Nat) (cancelled : Bool) : Activity → Prop
  | .run interrupt r x =>
    x.epoch = epoch ∧ x.cancelled = cancelled ∧ Race.Reached ⟨i, interrupt⟩ r x
  | .check source e? =>
    cancelled = false ∧ ∀ e, e? = some e →
      (Text.isBlank source.toList || !Arguments.isPassable source) = false ∧
      e.cancelled = false ∧ e.prospect? = (SyntaxCheck.prepare i source).prospect?

variable {a : Activity} {i : Interpreter} {epoch : Nat} {cancelled : Bool} {e : Evaluation}
  {ending : Ending}

/-- A run that was observed stands as its race does. -/
theorem Sound.run {interrupt : Bool} {r : Request} {x : Race}
    (h : Race.Reached ⟨i, interrupt⟩ r x) :
    ((Activity.run interrupt r x).observe x.epoch x.cancelled x.cancelled).Sound i x.epoch
      x.cancelled := by
  rw [observe, h.map_withFlag]
  exact ⟨rfl, rfl, h⟩

/-- Somebody else advances the epoch. -/
theorem Sound.tick (h : (a.observe epoch cancelled cancelled).Sound i epoch cancelled) :
    (a.observe (epoch + 1) cancelled cancelled).Sound i (epoch + 1) cancelled := by
  cases a with
  | run interrupt r x => exact ⟨rfl, rfl, h.2.2.step (m := .tick) rfl⟩
  | check source e? => exact h

theorem evaluation?_run {interrupt : Bool} {r : Request} {x : Race} :
    (run interrupt r x).evaluation? = some e ↔ x.worker? = some (.evaluating e) := by
  rw [evaluation?]
  split
  · rename_i hworker
    rw [hworker, Option.some.injEq, Option.some.injEq, Worker.evaluating.injEq]
  · rename_i hworker
    exact iff_of_false nofun (hworker e)

/-- The evaluation of an activity whose flag is not set is on the way to what it comes
    to when nothing else goes on, and that is no interruption. -/
theorem Sound.evaluation (h : a.Sound i epoch cancelled) (he : a.evaluation? = some e) :
    e.cancelled = cancelled ∧ (cancelled = false → ∀ p,
      (e.prospect? = some p ↔ (a.alone i).ending? = some p.1 ∧ (a.alone i).streams = p.2) ∧
      (e.prospect? = some p → p.1 ≠ .interrupted)) := by
  cases a with
  | run interrupt r x =>
    obtain ⟨-, rfl, hreached⟩ := h
    obtain ⟨hflag, hprospect⟩ := hreached.evaluating (evaluation?_run.1 he)
    refine ⟨hflag, fun hc p => ?_⟩
    rw [hprospect hc]
    exact ⟨Evaluation.prospect?_eq_some_iff rfl rfl, Evaluation.not_interrupted_of_prospect? rfl⟩
  | check source e? =>
    obtain ⟨rfl, hsound⟩ := h
    obtain ⟨-, hflag, hprospect⟩ := hsound e he
    refine ⟨hflag, fun hc p => ?_⟩
    rw [hprospect]
    exact ⟨Evaluation.prospect?_eq_some_iff rfl rfl, Evaluation.not_interrupted_of_prospect? rfl⟩

end Activity

namespace Engine

variable {x y : Engine} {n k : Nat} {u v : Use} {a : Activity} {i : Interpreter}

/-! ## Moves -/

/-- Something begins, or an activity goes on. -/
theorem step_cases {m : Move} (h : x.step m = some y) :
    (∃ a, y = x.accept a ∧
      ((∃ interrupt r, a = .run interrupt r (.start r x.epoch)) ∨ ∃ source, a = .check source none)) ∨
    ∃ n u m, x.uses[n]? = some u ∧ x.proceed n u m = some y := by
  cases m with
  | run interrupt r => exact .inl ⟨_, (Option.some.inj h).symm, .inl ⟨interrupt, r, rfl⟩⟩
  | check source => exact .inl ⟨_, (Option.some.inj h).symm, .inr ⟨source, rfl⟩⟩
  | proceed n m =>
    obtain ⟨u, hu, h⟩ := Option.bind_eq_some_iff.1 h
    exact .inr ⟨n, u, m, hu, h⟩

/-- An activity goes on with something in its race, with the beginning of its
    evaluation, or with a move of that. -/
theorem proceed_cases {m : Activity.Move} (h : x.proceed n u m = some y) :
    (∃ interrupt r race m race', x.observe u = .run interrupt r race ∧
      race.step ⟨x.interpreter, interrupt⟩ r m = some race' ∧
      y = { x with
        epoch := race'.epoch
        flags := if m = .cancel then x.flags.cancel u.held else x.flags
        uses := x.uses.set n { u with activity := .run interrupt r race' } }) ∨
    ∃ source e? e, x.observe u = .check source e? ∧
      y = { x with uses := x.uses.set n { u with activity := .check source (some e) } } ∧
      ((Text.isBlank source.toList || !Arguments.isPassable source) = false ∧
        e = { SyntaxCheck.prepare x.interpreter source with deadline := x.epoch + 1 } ∨
      ∃ e' m, e? = some e' ∧ e = e'.make x.epoch m) := by
  unfold proceed at h
  split at h
  · rename_i interrupt r race m hobserve
    obtain ⟨race', hm, rfl⟩ := Option.map_eq_some_iff.1 h
    exact .inl ⟨interrupt, r, race, m, race', hobserve, hm, rfl⟩
  · rename_i source hobserve
    obtain ⟨hasks, h⟩ := Option.ite_none_left_eq_some.1 h
    exact .inr ⟨source, none, _, hobserve, (Option.some.inj h).symm,
      .inl ⟨Bool.eq_false_iff.2 hasks, rfl⟩⟩
  · rename_i source e m hobserve
    exact .inr ⟨source, some e, _, hobserve, (Option.some.inj h).symm, .inr ⟨e, m, rfl, rfl⟩⟩
  · cases h

theorem interpreter_step {m : Move} (h : x.step m = some y) : y.interpreter = x.interpreter := by
  rcases step_cases h with ⟨a, rfl, -⟩ | ⟨n, u, m, -, h⟩
  · rfl
  · rcases proceed_cases h with ⟨_, _, _, _, _, -, -, rfl⟩ | ⟨_, _, _, -, rfl, -⟩
    · rfl
    · rfl

/-- What every move preserves holds after every run. -/
theorem run_induction {P : Engine → Prop} (hstep : ∀ {x m y}, P x → step x m = some y → P y)
    {moves : List Move} (h : x.run moves = some y) (hx : P x) : P y :=
  Runs.run_induction (fun _ => hstep) h hx

/-! ## The invariant -/

/-- The flag with that number. -/
def flag (x : Engine) (n : Nat) : Bool := x.flags.flags.getD n false

/-- A use has the flag with its own number. -/
structure Owns (x : Engine) (n : Nat) (u : Use) : Prop where
  held : x.flags.copies[u.held]? = some n
  lent : x.flags.copies[u.lent]? = some n

/-- Whoever waits and the evaluation find the flag to be the same. -/
theorem Owns.observe (h : x.Owns n u) :
    x.observe u = u.activity.observe x.epoch (x.flag n) (x.flag n) := by
  rw [Engine.observe, FlagPool.isCancelled_of_copies h.held, FlagPool.isCancelled_of_copies h.lent]
  rfl

/-- Every activity is sound with its own flag. -/
structure Inv (x : Engine) : Prop where
  length : x.flags.flags.length = x.uses.length
  owns {n : Nat} {u : Use} : x.uses[n]? = some u → x.Owns n u
  sound {n : Nat} {u : Use} : x.uses[n]? = some u →
    (x.observe u).Sound x.interpreter x.epoch (x.flag n)

/-- Of the flags only the one with that number may have changed, and the epoch may
    have been advanced. -/
structure Spares (x : Engine) (n : Nat) (y : Engine) : Prop where
  interpreter : y.interpreter = x.interpreter
  epoch : y.epoch = x.epoch ∨ y.epoch = x.epoch + 1
  copies : y.flags.copies = x.flags.copies
  length : y.flags.flags.length = x.flags.flags.length
  flag {k : Nat} : n ≠ k → y.flag k = x.flag k

namespace Inv

theorem start (i : Interpreter) (epoch : Nat) : Inv (.start i epoch) where
  length := rfl
  owns := nofun
  sound := nofun

/-- A use is one that there was, or is the one that begins. -/
theorem uses_accept (hv : (x.accept a).uses[n]? = some v) :
    x.uses[n]? = some v ∨ n = x.uses.length ∧
      v = ⟨x.flags.copies.length, x.flags.copies.length + 1, a⟩ := by
  rcases Runs.getElem?_concat_eq_some_iff.1 hv with hv | ⟨hn, hv⟩
  · exact .inl hv
  · exact .inr ⟨hn, hv.symm⟩

theorem owns_accept (hi : Inv x) (hv : (x.accept a).uses[n]? = some v) : (x.accept a).Owns n v := by
  rcases uses_accept hv with hv | ⟨rfl, rfl⟩
  · obtain ⟨hheld, hlent⟩ := hi.owns hv
    exact ⟨FlagPool.copies_share (FlagPool.copies_fresh hheld),
      FlagPool.copies_share (FlagPool.copies_fresh hlent)⟩
  · -- What begins has the flag that is new.
    have hself := FlagPool.copies_fresh_self x.flags
    have hcopy := FlagPool.copies_share_self hself
    rw [FlagPool.fresh, List.length_append, List.length_singleton] at hcopy
    rw [← hi.length]
    exact ⟨FlagPool.copies_share hself, hcopy⟩

theorem flag_accept : (x.accept a).flag n = x.flag n := by
  rw [flag, Engine.accept, FlagPool.flags_share, FlagPool.getD_fresh, flag]

/-- Something begins. -/
theorem accept (hi : Inv x) (ha : (a.observe x.epoch false false).Sound x.interpreter x.epoch false) :
    Inv (x.accept a) where
  length := by
    rw [Engine.accept, FlagPool.flags_share, FlagPool.fresh, List.length_append, List.length_append,
      hi.length]
    rfl
  owns := hi.owns_accept
  sound {n v} hv := by
    rw [(hi.owns_accept hv).observe, flag_accept]
    rcases uses_accept hv with hv | ⟨rfl, rfl⟩
    · have hsound := hi.sound hv
      rwa [(hi.owns hv).observe] at hsound
    · have hnew : x.flag x.uses.length = false := by
        rw [flag, List.getD_eq_getElem?_getD, List.getElem?_eq_none (Nat.le_of_eq hi.length)]
        rfl
      rw [hnew]
      exact ha

/-- An activity goes on. -/
theorem goes (hi : Inv x) (hu : x.uses[n]? = some u) (hy : x.Spares n y)
    (huses : y.uses = x.uses.set n { u with activity := a })
    (ha : (a.observe y.epoch (y.flag n) (y.flag n)).Sound x.interpreter y.epoch (y.flag n)) :
    Inv y := by
  have howns {k : Nat} {v : Use} (hv : y.uses[k]? = some v) : y.Owns k v := by
    rw [huses] at hv
    rcases Runs.of_getElem?_set_eq_some hv with ⟨rfl, rfl⟩ | ⟨-, hv⟩
    · exact ⟨hy.copies ▸ (hi.owns hu).held, hy.copies ▸ (hi.owns hu).lent⟩
    · exact ⟨hy.copies ▸ (hi.owns hv).held, hy.copies ▸ (hi.owns hv).lent⟩
  refine ⟨?_, howns, fun {k v} hv => ?_⟩
  · rw [hy.length, hi.length, huses, List.length_set]
  · rw [(howns hv).observe, hy.interpreter]
    rw [huses] at hv
    rcases Runs.of_getElem?_set_eq_some hv with ⟨rfl, rfl⟩ | ⟨hne, hv⟩
    · exact ha
    · -- To the others this is at most somebody who advances the epoch.
      have hsound := hi.sound hv
      rw [(hi.owns hv).observe] at hsound
      rw [hy.flag hne]
      rcases hy.epoch with hepoch | hepoch
      · rw [hepoch]
        exact hsound
      · rw [hepoch]
        exact hsound.tick

/-- What happens in a race spares all others, and sets the flag if the caller does. -/
theorem spares (hi : Inv x) (hu : x.uses[n]? = some u) {interrupt : Bool} {r : Request}
    {race race' : Race} {m : Race.Move} (hobserve : x.observe u = .run interrupt r race)
    (hm : race.step ⟨x.interpreter, interrupt⟩ r m = some race') :
    let y := { x with
      epoch := race'.epoch
      flags := if m = .cancel then x.flags.cancel u.held else x.flags
      uses := x.uses.set n { u with activity := .run interrupt r race' } }
    x.Spares n y ∧ y.flag n = race'.cancelled := by
  intro y
  have hsound := hi.sound hu
  rw [hobserve] at hsound
  obtain ⟨hepoch, hflag, -⟩ := hsound
  have hheld := (hi.owns hu).held
  have hlt : n < x.flags.flags.length := hi.length ▸ (List.getElem?_eq_some_iff.1 hu).1
  refine ⟨⟨rfl, hepoch ▸ Race.epoch_step hm, ?_, ?_, fun hk => ?_⟩, ?_⟩
  · dsimp only [y]
    split
    · exact FlagPool.copies_cancel
    · rfl
  · dsimp only [y]
    split
    · exact FlagPool.length_flags_cancel
    · rfl
  · rw [flag]
    dsimp only [y]
    split
    · exact FlagPool.getD_cancel_of_ne hheld hk
    · rfl
  · rw [flag, Race.cancelled_step hm]
    dsimp only [y]
    split
    · exact FlagPool.getD_cancel_self hheld hlt
    · exact hflag.symm

/-- Something happens in a race. -/
theorem race (hi : Inv x) (hu : x.uses[n]? = some u) {interrupt : Bool} {r : Request}
    {race race' : Race} {m : Race.Move} (hobserve : x.observe u = .run interrupt r race)
    (hm : race.step ⟨x.interpreter, interrupt⟩ r m = some race') :
    Inv { x with
      epoch := race'.epoch
      flags := if m = .cancel then x.flags.cancel u.held else x.flags
      uses := x.uses.set n { u with activity := .run interrupt r race' } } := by
  have hsound := hi.sound hu
  rw [hobserve] at hsound
  obtain ⟨-, -, hreached⟩ := hsound
  obtain ⟨hspares, hflag⟩ := hi.spares hu hobserve hm
  refine hi.goes hu hspares rfl ?_
  rw [hflag]
  exact .run (hreached.step hm)

theorem step {m : Move} (hi : Inv x) (h : x.step m = some y) : Inv y := by
  rcases step_cases h with ⟨a, rfl, ⟨interrupt, r, rfl⟩ | ⟨source, rfl⟩⟩ | ⟨n, u, m, hu, h⟩
  · refine hi.accept ?_
    obtain ⟨hreached, hepoch, hcancelled⟩ :=
      Race.Reached.start ⟨x.interpreter, interrupt⟩ r x.epoch
    have hsound := Activity.Sound.run hreached
    rwa [hepoch, hcancelled] at hsound
  · exact hi.accept ⟨rfl, nofun⟩
  rcases proceed_cases h with ⟨interrupt, r, race, m, race', hobserve, hm, rfl⟩ |
    ⟨source, e?, e, hobserve, rfl, he⟩
  · exact hi.race hu hobserve hm
  · have hsound := hi.sound hu
    rw [hobserve] at hsound
    obtain ⟨hflag, hsound⟩ := hsound
    refine hi.goes hu ⟨rfl, .inl rfl, rfl, rfl, fun _ => rfl⟩ rfl ⟨hflag, fun e' he' => ?_⟩
    obtain rfl := Option.some.inj he'
    rcases he with ⟨hasks, rfl⟩ | ⟨e', m, he, rfl⟩
    · exact ⟨hasks, hflag, rfl⟩
    · obtain ⟨hasks, hcancelled, hprospect⟩ := hsound e' he
      exact ⟨hasks, hflag, (Evaluation.prospect?_make x.epoch hcancelled m).trans hprospect⟩

end Inv

theorem run_inv {epoch : Nat} {moves : List Move} (h : (start i epoch).run moves = some x) :
    Inv x ∧ x.interpreter = i :=
  run_induction (P := fun x => Inv x ∧ x.interpreter = i)
    (fun hx hm => ⟨hx.1.step hm, (interpreter_step hm).trans hx.2⟩) h ⟨.start i epoch, rfl⟩

/-! ## Own moves -/

variable {e : Evaluation}

/-- The evaluation of an activity can make any move, whatever else goes on. -/
theorem exists_step (hi : Inv x) (hu : x.uses[n]? = some u)
    (he : (x.observe u).evaluation? = some e) (m : Evaluation.Move) :
    ∃ y v, x.step (.proceed n (u.activity.own m)) = some y ∧ y.uses[n]? = some v ∧
      (y.observe v).evaluation? = some (e.make x.epoch m) ∧ y.epoch = x.epoch ∧
      v.activity.own = u.activity.own := by
  have hlent := FlagPool.isCancelled_of_copies (hi.owns hu).lent
  have hflag := ((hi.sound hu).evaluation he).1
  have hn := (List.getElem?_eq_some_iff.1 hu).1
  have hkept : { e.make x.epoch m with cancelled := x.flags.isCancelled u.lent } =
      e.make x.epoch m := by
    rw [hlent, ← flag, ← hflag, ← Evaluation.cancelled_make x.epoch e m]
  obtain ⟨held, lent, activity⟩ := u
  -- Only the evaluation is another afterwards, and what it has seen of its flag is so.
  cases activity with
  | run interrupt r race =>
    have hworker := Activity.evaluation?_run.1 he
    have hrace := Race.step_evaluate (s := ⟨x.interpreter, interrupt⟩) (r := r) hworker m
    exact ⟨_, _, (congrArg (Option.bind · _) hu).trans (congrArg (Option.map _) hrace),
      List.getElem?_set_self hn,
      Activity.evaluation?_run.2 (congrArg (fun e => some (Worker.evaluating e)) hkept), rfl, rfl⟩
  | check source e? =>
    have hcheck : x.observe ⟨held, lent, .check source e?⟩ = .check source (some e) :=
      congrArg (Activity.check source) he
    have hproceed (u : Use) (hobserve : x.observe u = .check source (some e)) :
        x.proceed n u (.evaluate m) = some { x with
          uses := x.uses.set n { u with activity := .check source (some (e.make x.epoch m)) } } := by
      unfold proceed
      rw [hobserve]
    exact ⟨_, _, (congrArg (Option.bind · _) hu).trans (hproceed _ hcheck),
      List.getElem?_set_self hn, congrArg some hkept, rfl, rfl⟩

theorem exists_run (hi : Inv x) (hu : x.uses[n]? = some u)
    (he : (x.observe u).evaluation? = some e) (moves : List Evaluation.Move) :
    ∃ y v, x.run (moves.map fun m => .proceed n (u.activity.own m)) = some y ∧
      y.uses[n]? = some v ∧
      (y.observe v).evaluation? = some (moves.foldl (Evaluation.make x.epoch) e) := by
  induction moves generalizing x u e with
  | nil => exact ⟨x, u, rfl, hu, he⟩
  | cons m moves ih =>
    obtain ⟨y, v, hm, hv, he', hepoch, hown⟩ := exists_step hi hu he m
    obtain ⟨z, w, hrun, hw, hz⟩ := ih (hi.step hm) hv he'
    refine ⟨z, w, ?_, hw, ?_⟩
    · rw [List.map_cons, run, List.foldlM_cons, hm]
      rwa [hown] at hrun
    · rwa [hepoch] at hz

/-! ## Each for itself -/

/-- The use `u`, which is the `n`-th of all, is for itself on the interpreter `i`. -/
structure Isolated (i : Interpreter) (x : Engine) (n : Nat) (u : Use) : Prop where
  /-- Its flag is set only by a run whose own time is over. -/
  of_cancelled : x.flags.isCancelled u.lent → ∃ r race, x.observe u = .run true r race ∧ race.rung
  cancelled_of_interrupted {e : Evaluation} : (x.observe u).evaluation? = some e →
    e.ending? = some .interrupted → x.flags.isCancelled u.lent
  /-- It ends as when nothing else goes on. -/
  alone_of_ending {e : Evaluation} {ending : Ending} : (x.observe u).evaluation? = some e →
    x.flags.isCancelled u.lent = false → e.ending? = some ending →
    (u.activity.alone i).ending? = some ending ∧ (u.activity.alone i).streams = e.streams
  /-- What ends when nothing else goes on can be ended by its own moves. -/
  exists_ending {e : Evaluation} {ending : Ending} : (x.observe u).evaluation? = some e →
    x.flags.isCancelled u.lent = false → (u.activity.alone i).ending? = some ending →
    ∃ (later : List Evaluation.Move), ∃ y v e',
      x.run (later.map fun m => .proceed n (u.activity.own m)) = some y ∧
      y.uses[n]? = some v ∧ (y.observe v).evaluation? = some e' ∧
      e'.ending? = some ending ∧ e'.streams = (u.activity.alone i).streams
  outcome {interrupt : Bool} {r : Request} {race : Race} {o : Outcome} :
    x.observe u = .run interrupt r race → race.worker? = some (.done o) →
    x.flags.isCancelled u.lent = false → Session.evaluate ⟨i, interrupt⟩ none r = some o
  not_cancelled_of_check {source : String} {e? : Option Evaluation} :
    x.observe u = .check source e? → x.flags.isCancelled u.lent = false
  verdict {source : String} {e : Evaluation} {ending : Ending} :
    x.observe u = .check source (some e) → e.ending? = some ending → ending ≠ .interrupted ∧
      SyntaxCheck.run (some i) source = some (SyntaxCheck.verdictOf ending e.streams)

/-- Of all that goes on on an interpreter at one time, whoever has begun what and in
    whatever order they move: a flag is set only if it is that of a run whose own time
    is over. An evaluation is interrupted only if its flag is set. If it is not set, the
    evaluation ends as it does when nothing else goes on, and leaves the same in its
    streams; and if it ends then, it can get there by its own moves. So a run comes to
    the outcome that it comes to when nothing else goes on, and a check, which is never
    interrupted, to the verdict. -/
theorem isolates {epoch : Nat} {moves : List Move} (h : (start i epoch).run moves = some x)
    (hu : x.uses[n]? = some u) : Isolated i x n u := by
  obtain ⟨hi, rfl⟩ := run_inv h
  have hsound := hi.sound hu
  have halone : (x.observe u).alone x.interpreter = u.activity.alone x.interpreter := by
    rw [observe]
    cases u.activity <;> rfl
  have hown : x.flags.isCancelled u.lent = x.flag n :=
    FlagPool.isCancelled_of_copies (hi.owns hu).lent
  refine {
    of_cancelled := fun hflag => ?_
    cancelled_of_interrupted := fun {e} he hinterrupted => ?_
    alone_of_ending := fun {e ending} he hflag hending => ?_
    exists_ending := fun {e ending} he hflag hending => ?_
    outcome := fun {interrupt r race o} hrun ho hflag => ?_
    not_cancelled_of_check := fun {source e?} hcheck => ?_
    verdict := fun {source e ending} hcheck hending => ?_ }
  · rw [hown] at hflag
    cases hobserve : x.observe u with
    | run interrupt r race =>
      rw [hobserve] at hsound
      obtain ⟨-, hcancelled, hreached⟩ := hsound
      obtain ⟨hinterrupt, hrung⟩ := hreached.of_cancelled (hcancelled.trans hflag)
      obtain rfl : interrupt = true := hinterrupt
      exact ⟨r, race, rfl, hrung⟩
    | check source e? =>
      rw [hobserve] at hsound
      exact absurd hflag (ne_true_of_eq_false hsound.1)
  · refine Bool.of_not_eq_false fun hflag => ?_
    obtain ⟨-, hprospect⟩ := hsound.evaluation he
    exact (hprospect (hown.symm.trans hflag) _).2 (Evaluation.prospect?_of_ending? hinterrupted) rfl
  · obtain ⟨-, hprospect⟩ := hsound.evaluation he
    rw [halone] at hprospect
    exact (hprospect (hown.symm.trans hflag) _).1.1 (Evaluation.prospect?_of_ending? hending)
  · -- Wherever the evaluation stands, it is on the way there.
    obtain ⟨hcancelled, hprospect⟩ := hsound.evaluation he
    rw [halone] at hprospect
    rw [hown] at hflag
    have hexpected := (hprospect hflag (ending, _)).1.2 ⟨hending, rfl⟩
    obtain ⟨later, hlater⟩ := Evaluation.exists_moves_of_prospect? (hcancelled.trans hflag)
      hexpected x.epoch
    obtain ⟨y, v, hrun, hv, he'⟩ := exists_run hi hu he later
    exact ⟨later, y, v, _, hrun, hv, he', hlater⟩
  · rw [hrun] at hsound
    exact hsound.2.2.done ho (hsound.2.1.trans (hown.symm.trans hflag))
  · rw [hcheck] at hsound
    exact hown.trans hsound.1
  · rw [hcheck] at hsound
    obtain ⟨hasks, -, hprospect⟩ := hsound.2 e rfl
    rw [Evaluation.prospect?_of_ending? hending] at hprospect
    refine ⟨Evaluation.not_interrupted_of_prospect? rfl hprospect.symm, ?_⟩
    obtain ⟨halone, hstreams⟩ := (Evaluation.prospect?_eq_some_iff rfl rfl).1 hprospect.symm
    rw [SyntaxCheck.run]
    dsimp only
    rw [hasks, if_neg Bool.false_ne_true, SyntaxCheck.evaluation, halone, hstreams]
    rfl

/-- Every program runs for ever if there is input, and prints something otherwise. -/
def heedful : Interpreter where
  image :=
    { start? := some (.function 0 0)
      missing? := none
      initializes := true
      run := fun _ => .read (some 1) fun bs =>
        if bs.isEmpty then .write 1 [104, 105] (.halt .returned) else .spin }
  arguments := []
  capacity := 8

/-- A run that is given up, another run and a check go on at the same time. The two are
    made to look up, and then come to their ends, and after them the first is
    interrupted. -/
def besideTimeout : List Move :=
  [.run true { source := "gets", input := .ofText "x" }, .run true { source := "gets" },
    .check "gets", .proceed 0 (.race (.worker .begin)), .proceed 1 (.race (.worker .begin)),
    .proceed 2 .begin, .proceed 0 (.race (.worker (.evaluate .enter))),
    .proceed 1 (.race (.worker (.evaluate .enter))), .proceed 2 (.evaluate .enter),
    .proceed 0 (.race (.worker (.evaluate .advance))), .proceed 0 (.race .ring),
    .proceed 0 (.race .giveUp), .proceed 0 (.race .cancel),
    .proceed 1 (.race (.worker (.evaluate .advance))), .proceed 0 (.race .wake),
    .proceed 1 (.race (.worker (.evaluate .poll))), .proceed 2 (.evaluate .poll),
    .proceed 1 (.race (.worker (.evaluate .resume))), .proceed 2 (.evaluate .resume),
    .proceed 1 (.race (.worker (.evaluate .advance))),
    .proceed 1 (.race (.worker (.evaluate .advance))),
    .proceed 2 (.evaluate .advance), .proceed 2 (.evaluate .advance),
    .proceed 2 (.evaluate .advance), .proceed 0 (.race (.worker (.evaluate .poll))),
    .proceed 0 (.race (.worker (.evaluate .resume)))]

/-- Only the run that was given up is interrupted. -/
theorem isolates_beside_timeout : ∃ x u v w e f g,
    (start heedful 0).run besideTimeout = some x ∧ x.uses = [u, v, w] ∧ x.epoch = 1 ∧
    (x.observe u).evaluation? = some e ∧ e.ending? = some .interrupted ∧
    x.flags.isCancelled u.lent ∧
    (x.observe v).evaluation? = some f ∧ f.ending? = some (.exited 0) ∧
    (v.activity.alone heedful).ending? = some (.exited 0) ∧
    (x.observe w).evaluation? = some g ∧ SyntaxCheck.run (some heedful) "gets" = some .valid := by
  refine ⟨_, _, _, _, _, _, _, rfl, rfl, rfl, rfl, rfl, ?_, rfl, rfl, ?_, rfl, ?_⟩
  · exact (@isolates _ 0 _ heedful 0 besideTimeout rfl rfl).cancelled_of_interrupted rfl rfl
  · exact ((@isolates _ 1 _ heedful 0 besideTimeout rfl rfl).alone_of_ending rfl rfl rfl).1
  · exact ((@isolates _ 2 _ heedful 0 besideTimeout rfl rfl).verdict rfl rfl).2

end Engine

end Playpen
