import Playpen.Proofs.Judgement
import Playpen.Race

/-!
# What an evaluation comes to that is left alone

A program always does the same with the same input. So as long as its evaluation is
not told to stop, how it will end and what it will leave in the streams is known in
advance (`Evaluation.prospect?`), and no move changes it, whenever it is made and at
whatever epoch (`Evaluation.prospect?_make`). A request that has all the time it takes
comes to just that (`Session.evaluate_none`), and one whose time is limited to nothing
else (`Session.evaluate_none_of_some`).
-/

namespace Playpen

/-- How a program ends that finds these streams, and what it leaves in them. -/
def Guest.Behaviour.conclude? (s : Streams) : Guest.Behaviour → Option (Ending × Streams)
  | .halt h => some (.ofHalt false h, s)
  | .spin => none
  | .write stream bs next => next.conclude? (s.write stream bs)
  | .read limit? next => (next (s.read limit?).1).conclude? (s.read limit?).2
  | .pause _ next => next.conclude? s

/-- A program that ends by itself was not stopped. -/
theorem Ending.ofHalt_ne_interrupted (h : Guest.Halt) : Ending.ofHalt false h ≠ .interrupted := by
  cases h with
  | returned | trapped => exact nofun
  | exited status =>
    rw [ofHalt]
    split
    · exact nofun
    · exact nofun

theorem Outcome.isTimeout_iff {o : Outcome} :
    o.isTimeout ↔ ∃ limit, o.failure? = some (.timedOut limit) := by
  rw [isTimeout]
  split
  · rename_i limit h
    exact ⟨fun _ => ⟨limit, h⟩, fun _ => rfl⟩
  · rename_i h
    exact ⟨nofun, fun ⟨limit, hlimit⟩ => absurd hlimit (h limit)⟩

namespace Guest.Behaviour

variable {b : Behaviour} {s : Streams} {p : Ending × Streams}

theorem not_interrupted_of_conclude? (h : b.conclude? s = some p) : p.1 ≠ .interrupted := by
  induction b generalizing s with
  | halt halt => exact Option.some.inj h ▸ Ending.ofHalt_ne_interrupted halt
  | spin => exact nomatch h
  | write stream bs next ih => exact ih h
  | read limit? next ih => exact ih _ h
  | pause d next ih => exact ih h

end Guest.Behaviour

namespace Evaluation

variable {e : Evaluation} {ending : Ending} {p : Ending × Streams}

/-- What an evaluation comes to if its flag is not set from now on. -/
def prospect? (e : Evaluation) : Option (Ending × Streams) :=
  match e.phase with
  | .created (.error why) => some (.failed why, e.streams)
  | .created (.ok b) | .running b | .polled b false => b.conclude? e.streams
  | .polled _ true => some (.interrupted, e.streams)
  | .ended ending => some (ending, e.streams)

/-! ## Moves -/

theorem cancelled_make (epoch : Nat) (e : Evaluation) (m : Move) :
    (e.make epoch m).cancelled = e.cancelled := by
  cases m
  all_goals
    simp only [make, enter, advance, poll, resume]
    repeat' split
    all_goals rfl

theorem prospect?_enter (h : e.cancelled = false) : e.enter.prospect? = e.prospect? := by
  obtain ⟨phase, streams, cancelled, deadline⟩ := e
  obtain rfl : cancelled = false := h
  match phase with
  | .created (.error why) | .created (.ok b) => rfl
  | .running b | .polled b stop | .ended ending => rfl

theorem prospect?_advance (h : e.cancelled = false) : e.advance.prospect? = e.prospect? := by
  obtain ⟨phase, streams, cancelled, deadline⟩ := e
  obtain rfl : cancelled = false := h
  match phase with
  | .running (.halt h) | .running .spin | .running (.write stream bs next) => rfl
  | .running (.read limit? next) | .running (.pause d next) => rfl
  | .created start | .polled b stop | .ended ending => rfl

theorem prospect?_poll (epoch : Nat) (h : e.cancelled = false) :
    (e.poll epoch).prospect? = e.prospect? := by
  obtain ⟨phase, streams, cancelled, deadline⟩ := e
  obtain rfl : cancelled = false := h
  match phase with
  | .running b =>
    rw [poll]
    dsimp only
    split
    · rfl
    · rfl
  | .created start | .polled b stop | .ended ending => rfl

theorem prospect?_resume (epoch : Nat) (e : Evaluation) :
    (e.resume epoch).prospect? = e.prospect? := by
  obtain ⟨phase, streams, cancelled, deadline⟩ := e
  match phase with
  | .polled b true | .polled b false => rfl
  | .created start | .running b | .ended ending => rfl

/-- An evaluation whose flag is not set does not come to anything else for any move
    it makes. -/
theorem prospect?_make (epoch : Nat) (h : e.cancelled = false) (m : Move) :
    (e.make epoch m).prospect? = e.prospect? :=
  match m with
  | .enter => prospect?_enter h
  | .advance => prospect?_advance h
  | .poll => prospect?_poll epoch h
  | .resume => prospect?_resume epoch e

/-- One that has ended has come to its end. -/
theorem prospect?_of_ending? (h : e.ending? = some ending) :
    e.prospect? = some (ending, e.streams) := by
  obtain ⟨phase, streams, cancelled, deadline⟩ := e
  match phase with
  | .ended ending' =>
    obtain rfl := Option.some.inj h
    rfl
  | .created start | .running b | .polled b stop => exact nomatch h

theorem not_interrupted_of_prospect? {start : Except HostFault Guest.Behaviour}
    (hphase : e.phase = .created start) (hp : e.prospect? = some p) : p.1 ≠ .interrupted := by
  rw [prospect?, hphase] at hp
  cases start with
  | error why =>
    obtain rfl := Option.some.inj hp
    exact nofun
  | ok b => exact b.not_interrupted_of_conclude? hp

/-! ## Runs that nothing disturbs -/

theorem conclude?_of_runProgram {b : Guest.Behaviour} {left? : Option Nat}
    (h : e.cancelled = false) (hending : (runProgram left? e b).ending? = some ending) :
    b.conclude? e.streams = some (ending, (runProgram left? e b).streams) := by
  induction b generalizing left? e with
  | halt halt =>
    obtain rfl := Option.some.inj hending
    rw [runProgram, h]
    rfl
  | spin => cases hending
  | write stream bs next ih => exact ih (e := { e with streams := _ }) h hending
  | read limit? next ih => exact ih _ (e := { e with streams := _ }) h hending
  | pause d next ih =>
    cases left? with
    | none => exact ih h hending
    | some left =>
      rw [runProgram] at hending ⊢
      split
      · rename_i hlt
        rw [if_pos hlt] at hending
        exact ih h hending
      · rename_i hlt
        rw [if_neg hlt] at hending
        cases hending

theorem runProgram_of_conclude? {b : Guest.Behaviour} (h : e.cancelled = false)
    (hb : b.conclude? e.streams = some p) :
    runProgram none e b = { e with phase := .ended p.1, streams := p.2 } := by
  induction b generalizing e with
  | halt halt =>
    obtain rfl := Option.some.inj hb
    rw [runProgram, h]
  | spin => cases hb
  | write stream bs next ih => exact ih (e := { e with streams := _ }) h hb
  | read limit? next ih => exact ih _ (e := { e with streams := _ }) h hb
  | pause d next ih => exact ih h hb

/-- An evaluation that has ended in time has come to what was to be expected. -/
theorem prospect?_of_runWithin {limit? : Option Duration} (h : e.cancelled = false)
    (hending : (e.runWithin limit?).ending? = some ending) :
    e.prospect? = some (ending, (e.runWithin limit?).streams) := by
  have hcancelled : e.enter.cancelled = false := (cancelled_make 0 e .enter).trans h
  rw [← prospect?_enter h]
  rw [runWithin] at hending ⊢
  split
  · rename_i b hb
    rw [hb] at hending
    rw [prospect?, hb]
    exact conclude?_of_runProgram hcancelled hending
  · rename_i hrunning
    split at hending
    · rename_i b hb
      exact absurd hb (hrunning b)
    · exact prospect?_of_ending? hending

/-- An evaluation that has all the time it takes comes to what is to be expected. -/
theorem runWithin_of_prospect? {start : Except HostFault Guest.Behaviour}
    (hphase : e.phase = .created start) (h : e.cancelled = false) (hp : e.prospect? = some p) :
    (e.runWithin none).ending? = some p.1 ∧ (e.runWithin none).streams = p.2 := by
  obtain ⟨phase, streams, cancelled, deadline⟩ := e
  obtain rfl : phase = .created start := hphase
  obtain rfl : cancelled = false := h
  cases start with
  | error why =>
    obtain rfl := Option.some.inj hp
    exact ⟨rfl, rfl⟩
  | ok b =>
    have hrun : runWithin none ⟨.created (.ok b), streams, false, deadline⟩ = _ :=
      runProgram_of_conclude? (e := ⟨.running b, streams, false, deadline⟩) rfl hp
    rw [hrun]
    exact ⟨rfl, rfl⟩

end Evaluation

namespace Session

variable {s : Session} {r : Request} {o : Outcome}

/-- A request that has all the time it takes comes to what is to be expected of its
    evaluation. -/
theorem evaluate_none (hsource : Arguments.isPassable r.source) :
    s.evaluate none r =
      (s.prepare r).prospect?.map fun p => .ofEnding r.timeout p.1 p.2 := by
  have heval : s.evaluate none r = ((s.prepare r).runWithin none).ending?.map fun ending =>
      .ofEnding r.timeout ending ((s.prepare r).runWithin none).streams := by
    rw [evaluate, hsource]
    rfl
  rw [heval]
  cases hp : (s.prepare r).prospect? with
  | some p =>
    obtain ⟨hending, hstreams⟩ := Evaluation.runWithin_of_prospect? rfl rfl hp
    rw [hending, hstreams]
    rfl
  | none =>
    cases hending : ((s.prepare r).runWithin none).ending? with
    | none => rfl
    | some ending =>
      exact nomatch hp.symm.trans (Evaluation.prospect?_of_runWithin rfl hending)

/-- A limit of time does not change what a request comes to that ends within it. -/
theorem evaluate_none_of_some {limit? : Option Duration} (h : s.evaluate limit? r = some o) :
    s.evaluate none r = some o := by
  cases hsource : Arguments.isPassable r.source with
  | false =>
    rw [evaluate, hsource] at h ⊢
    exact h
  | true =>
    rw [evaluate, hsource] at h
    obtain ⟨ending, hending, rfl⟩ := Option.map_eq_some_iff.1 h
    rw [evaluate_none hsource, Evaluation.prospect?_of_runWithin rfl hending]
    rfl

/-- An evaluation that is not told to stop comes to no timeout. -/
theorem isTimeout_of_evaluate {limit? : Option Duration} (h : s.evaluate limit? r = some o) :
    o.isTimeout = false := by
  cases hsource : Arguments.isPassable r.source with
  | false =>
    rw [evaluate, hsource] at h
    exact Option.some.inj h ▸ rfl
  | true =>
    rw [evaluate, hsource] at h
    obtain ⟨ending, hending, rfl⟩ := Option.map_eq_some_iff.1 h
    have hkeeps := keeps_of_leads (Evaluation.leads_runWithin limit? (s.prepare r))
    refine Bool.eq_false_iff.2 fun htimeout => ?_
    obtain ⟨d, hd⟩ := Outcome.isTimeout_iff.1 htimeout
    obtain ⟨rfl, -⟩ := (Outcome.failure?_eq_some_iff hkeeps).1 hd
    exact Evaluation.not_interrupted_of_prospect? rfl
      (Evaluation.prospect?_of_runWithin rfl hending) rfl

end Session

end Playpen
