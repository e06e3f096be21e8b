import Playpen.Proofs.Untruncated

/-!
# When the limit on output is told

A caller who is told of the limit on output reads that the program printed more
than is kept of a stream. That is so if something was lost. But a stream that has
just been filled looks the same, and the caller is told of the limit then as well,
although every byte was kept (`Session.evaluate_limited`): of a program that writes
exactly as much as there is room for, and without any room of every program.
-/

namespace Playpen

namespace Streams

variable {n : Nat} {writes : List (Nat × Bytes)} {s : Streams}

/-- To the captured stream to which more was sent, the `n` bytes were sent that are
    kept of it: it is full and nothing is lost. -/
def Brimful (n : Nat) (writes : List (Nat × Bytes)) : Prop :=
  max (sentTo 1 writes).length (sentTo 2 writes).length = n

instance (n : Nat) (writes : List (Nat × Bytes)) : Decidable (Brimful n writes) :=
  inferInstanceAs (Decidable (_ = _))

/-- A full stream lost something or has just been filled. -/
theorem Holds.full_iff (h : s.Holds n writes) :
    s.Full n ↔ Exceeded n writes ∨ Brimful n writes := by
  rw [Full, h.output, h.diagnostics, List.length_take, List.length_take, Exceeded, Brimful]
  omega

/-- What has just been filled has lost nothing. -/
theorem Holds.bytes_eq_of_brimful (h : s.Holds n writes) (hbrim : Brimful n writes) :
    s.output.bytes = sentTo 1 writes ∧ s.diagnostics.bytes = sentTo 2 writes := by
  rw [Brimful] at hbrim
  rw [h.output, h.diagnostics]
  exact ⟨List.take_of_length_le (by omega), List.take_of_length_le (by omega)⟩

end Streams

open Streams

/-- The caller is told of the limit if a stream is full, whatever is due besides. -/
theorem Outcome.ofEnding_eq_limit_iff {limit : Duration} {n m : Nat} {ending : Ending} {s : Streams}
    {writes : List (Nat × Bytes)} (hs : s.Keeps n) (hholds : s.Holds n writes) :
    (ofEnding limit ending s).failure? = some (.outputLimitExceeded m) ↔
      ending ≠ .interrupted ∧ m = n ∧ (Exceeded m writes ∨ Brimful m writes) := by
  rw [failure?_eq_some_iff hs, Failure.Due, hholds.full_iff]
  constructor
  · rintro ⟨hending, hfull, rfl⟩
    exact ⟨hending, rfl, hfull⟩
  · rintro ⟨hending, rfl, hfull⟩
    exact ⟨hending, hfull, rfl⟩

namespace Session

/-- However the evaluation of a request goes and whatever its program has written by
    its end, the caller is told of the limit exactly if the program was run and not
    interrupted, and either sent more to a stream than is kept or just filled the
    fuller one. The message speaks of more than is kept in both cases, but in the
    second each stream holds all that was sent to it. -/
theorem evaluate_limited {s : Session} {r : Request} :
    (∀ limit?, (s.prepare r).Leads ((s.prepare r).runWithin limit?) ∧
      s.evaluate limit? r = r.outcome? ((s.prepare r).runWithin limit?)) ∧
    (∀ e, (s.prepare r).Leads e ↔ ∃ writes, (s.prepare r).Wrote writes e) ∧
    ∀ writes e ending, (s.prepare r).Wrote writes e → e.ending? = some ending →
      ∃ o, r.outcome? e = some o ∧
        (∀ n, o.failure? = some (.outputLimitExceeded n) ↔
          Arguments.isPassable r.source ∧ ending ≠ .interrupted ∧
            n = s.interpreter.capacity ∧ (Exceeded n writes ∨ Brimful n writes)) ∧
        (∀ n, o.failure? = some (.outputLimitExceeded n) → o.error? =
          some s!"Output limit exceeded: the program printed more than {n} bytes.") ∧
        (Brimful s.interpreter.capacity writes →
          e.streams.output.bytes = sentTo 1 writes ∧
            e.streams.diagnostics.bytes = sentTo 2 writes) := by
  refine ⟨fun limit? => ⟨Evaluation.leads_runWithin limit? _, rfl⟩,
    fun e => ⟨Evaluation.Leads.exists_wrote, fun h => h.elim fun _ hw => hw.leads⟩,
    fun writes e ending hw hending => ?_⟩
  have hkeeps := keeps_of_leads hw.leads
  have hholds := hw.holds (.ofInput r.input s.interpreter.capacity)
    (.ofInput r.input s.interpreter.capacity)
  have herror {o : Outcome} (n : Nat) (h : o.failure? = some (.outputLimitExceeded n)) :
      o.error? = some s!"Output limit exceeded: the program printed more than {n} bytes." :=
    congrArg (Option.map Failure.message) h
  rw [Request.outcome?, hending]
  cases hsource : Arguments.isPassable r.source with
  | false =>
    refine ⟨_, rfl, fun n => iff_of_false (fun h => ?_) fun h => Bool.false_ne_true h.1, herror,
      hholds.bytes_eq_of_brimful⟩
    exact Failure.noConfusion (Option.some.inj h)
  | true =>
    refine ⟨_, rfl, fun n => ?_, herror, hholds.bytes_eq_of_brimful⟩
    rw [Outcome.ofEnding_eq_limit_iff hkeeps hholds]
    exact (and_iff_right rfl).symm

/-- Every program writes these bytes, of which so many are kept. -/
def printing (capacity : Nat) (bs : Bytes) : Session where
  interpreter :=
    { image :=
        { start? := some (.function 0 0)
          missing? := none
          initializes := true
          run := fun _ => .write 1 bs <| .halt .returned }
      arguments := []
      capacity }

/-- Of a program that writes just as much as is kept, the caller is told that it
    wrote more. -/
theorem evaluate_limited_of_brimful : ∃ o,
    (printing 2 [104, 105]).evaluate none { source := "puts" } = some o ∧
      o.failure? = some (.outputLimitExceeded 2) ∧
      o.error? = some "Output limit exceeded: the program printed more than 2 bytes." ∧
      ¬Exceeded 2 [(1, [104, 105])] := by
  obtain ⟨hrun, -, htold⟩ :=
    evaluate_limited (s := printing 2 [104, 105]) (r := { source := "puts" })
  obtain ⟨o, ho, hlimit, hmessage, -⟩ :=
    htold _ _ (.exited 0) (.advance (.advance (.enter .refl))) rfl
  have hfailure := (hlimit 2).2 ⟨by decide, by decide, rfl, .inr (by decide)⟩
  exact ⟨o, (hrun none).2.trans ho, hfailure, hmessage 2 hfailure, by decide⟩

/-- Without any room that is so of a program that writes nothing. -/
example : (printing 0 []).evaluate none { source := "nil" } =
    some (.failed "" (.outputLimitExceeded 0)) := by decide

end Session

end Playpen
