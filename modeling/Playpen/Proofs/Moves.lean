import Mathlib.Logic.Relation
import Playpen.Proofs.GuestRun
import Playpen.Session

/-!
# The moves of an evaluation

An evaluation makes its moves at whatever epochs, and whoever stops it sets its
flag between any two of them (`Evaluation.Step`). What it can become is what such
moves lead to. A run that nothing disturbs is one way of making them
(`leads_runWithin`). None of them changes how much of a stream is kept
(`Leads.keeps`).
-/

namespace Playpen

namespace Streams

/-- Of each captured stream, `n` bytes are kept. -/
structure Keeps (n : Nat) (s : Streams) : Prop where
  output : s.output.capacity = n
  diagnostics : s.diagnostics.capacity = n

namespace Keeps

variable {n : Nat} {s : Streams}

theorem ofInput (input : Input) (n : Nat) : Keeps n (.ofInput input n) := ⟨rfl, rfl⟩

theorem write (h : s.Keeps n) (stream : Nat) (bs : Bytes) : (s.write stream bs).Keeps n := by
  have hcapacity {c : Capture} (hc : c.capacity = n) (p : Prop) [Decidable p] :
      (if p then c.write bs else c).capacity = n := by
    split
    · exact (Capture.capacity_write c bs).trans hc
    · exact hc
  rw [write_eq]
  exact ⟨hcapacity h.output _, hcapacity h.diagnostics _⟩

end Keeps

end Streams

namespace Evaluation

variable {e e' : Evaluation} {n : Nat}

/-- One thing that happens to an evaluation. -/
inductive Step (e : Evaluation) : Evaluation → Prop
  | enter : Step e e.enter
  | advance : Step e e.advance
  | poll (epoch : Nat) : Step e (e.poll epoch)
  | resume (epoch : Nat) : Step e (e.resume epoch)
  | cancel : Step e e.cancel

/-- What an evaluation can become. -/
def Leads : Evaluation → Evaluation → Prop := Relation.ReflTransGen Step

/-! ## What is kept of the streams -/

theorem streams_enter (e : Evaluation) : e.enter.streams = e.streams := by
  unfold enter
  repeat' split
  all_goals rfl

theorem streams_poll (epoch : Nat) (e : Evaluation) : (e.poll epoch).streams = e.streams := by
  unfold poll
  repeat' split
  all_goals rfl

theorem streams_resume (epoch : Nat) (e : Evaluation) : (e.resume epoch).streams = e.streams := by
  unfold resume
  repeat' split
  all_goals rfl

theorem Step.keeps (h : Step e e') (hk : e.streams.Keeps n) : e'.streams.Keeps n := by
  cases h with
  | enter => exact streams_enter e ▸ hk
  | advance =>
    unfold Evaluation.advance
    split
    · exact hk
    · exact hk.write _ _
    · exact ⟨hk.output, hk.diagnostics⟩
    · exact hk
    · exact hk
  | poll epoch => exact streams_poll epoch e ▸ hk
  | resume epoch => exact streams_resume epoch e ▸ hk
  | cancel => exact hk

theorem Leads.keeps (h : e.Leads e') (hk : e.streams.Keeps n) : e'.streams.Keeps n := by
  induction h with
  | refl => exact hk
  | tail _ hstep ih => exact hstep.keeps ih

/-! ## Runs that nothing disturbs -/

theorem leads_runProgram (b : Guest.Behaviour) (left? : Option Nat) (e : Evaluation) :
    Leads { e with phase := .running b } (runProgram left? e b) := by
  have hadvance {e e' : Evaluation} (h : Leads e.advance e') : Leads e e' := .head .advance h
  -- `runProgram` is given what is left of the program and does not look at the phase, so
  -- the phase says what is left in the statement. Each constructor is one move.
  induction b generalizing left? e with
  | halt h => exact hadvance .refl
  | spin => exact .refl
  | write stream bs next ih => exact hadvance (ih left? { e with streams := _ })
  | read limit? next ih => exact hadvance (ih _ left? { e with streams := _ })
  | pause d next ih =>
    cases left? with
    | none => exact hadvance (ih none e)
    | some left =>
      rw [runProgram]
      split
      · exact hadvance (ih _ e)
      · exact .refl

theorem leads_runWithin (limit? : Option Duration) (e : Evaluation) :
    e.Leads (e.runWithin limit?) := by
  refine .head .enter ?_
  rw [runWithin]
  split
  · rename_i b hb
    have hrun := leads_runProgram b (limit?.map Duration.nanos) e.enter
    rwa [← hb] at hrun
  · exact .refl

theorem leads_stop (epoch : Nat) (e : Evaluation) : e.Leads (e.stop epoch) :=
  .head .cancel (.head (.poll (epoch + 1)) (.single (.resume (epoch + 1))))

end Evaluation

namespace Session

variable {s : Session} {r : Request}

/-- An evaluation may be given up, too. -/
theorem leads_abandoned : (s.prepare r).Leads (s.abandoned r) := by
  have hrun := Evaluation.leads_runWithin (some r.timeout) (s.prepare r)
  rw [abandoned]
  split
  · exact hrun.trans (Evaluation.leads_stop 0 _)
  · exact hrun

/-- However an evaluation of a session goes, it keeps of its streams what the
    interpreter allows. -/
theorem keeps_of_leads {e : Evaluation} (h : (s.prepare r).Leads e) :
    e.streams.Keeps s.interpreter.capacity :=
  h.keeps (.ofInput r.input s.interpreter.capacity)

end Session

end Playpen
