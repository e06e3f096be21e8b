import Playpen.Proofs.Judgement

/-!
# Nothing is lost without a word

What a program writes goes to streams that keep only so much of it. Whatever else
happens to an evaluation, what its program has written is recorded in order
(`Evaluation.Wrote`), and a stream holds the beginning of what was sent to it. So
if something was lost, the caller is told of the limit, or that the run took too
long; and a caller who is told anything else has all that was sent, but for the
closing report (`Session.evaluate_untruncated`).
-/

namespace Playpen

theorem sentTo_append (stream : Nat) (writes later : List (Nat × Bytes)) :
    sentTo stream (writes ++ later) = sentTo stream writes ++ sentTo stream later := by
  rw [sentTo, List.filter_append, List.flatMap_append, sentTo, sentTo]

/-! ## What the streams hold -/

/-- A stream that held the beginning of what was sent to it still does after
    another write. -/
theorem Capture.bytes_write_of_take {c : Capture} {sent : Bytes}
    (h : c.bytes = sent.take c.capacity) (bs : Bytes) :
    (c.write bs).bytes = (sent ++ bs).take c.capacity := by
  have hroom : c.capacity - (sent.take c.capacity).length = c.capacity - sent.length := by
    rw [List.length_take]
    omega
  rw [bytes_write, h, hroom, List.take_append]

namespace Streams

/-- Of what these writes sent to each captured stream, the first `n` bytes are
    held. -/
structure Holds (n : Nat) (writes : List (Nat × Bytes)) (s : Streams) : Prop where
  output : s.output.bytes = (sentTo 1 writes).take n
  diagnostics : s.diagnostics.bytes = (sentTo 2 writes).take n

/-- More was sent to a captured stream than the `n` bytes that are kept of it. -/
def Exceeded (n : Nat) (writes : List (Nat × Bytes)) : Prop :=
  n < (sentTo 1 writes).length ∨ n < (sentTo 2 writes).length

instance (n : Nat) (writes : List (Nat × Bytes)) : Decidable (Exceeded n writes) :=
  inferInstanceAs (Decidable (_ ∨ _))

namespace Holds

variable {n : Nat} {writes : List (Nat × Bytes)} {s : Streams}

theorem ofInput (input : Input) (n : Nat) : Holds n [] (.ofInput input n) :=
  ⟨List.take_nil.symm, List.take_nil.symm⟩

/-- Of what is sent to the streams, as much is kept as there is room for. -/
theorem send (h : s.Holds n writes) (hs : s.Keeps n) (unread : Bytes)
    (later : List (Nat × Bytes)) :
    Holds n (writes ++ later)
      { unread
        output := s.output.write (sentTo 1 later)
        diagnostics := s.diagnostics.write (sentTo 2 later) } := by
  constructor
  · have hout := Capture.bytes_write_of_take (hs.output ▸ h.output) (sentTo 1 later)
    rwa [hs.output, ← sentTo_append] at hout
  · have herr := Capture.bytes_write_of_take (hs.diagnostics ▸ h.diagnostics) (sentTo 2 later)
    rwa [hs.diagnostics, ← sentTo_append] at herr

theorem write (h : s.Holds n writes) (hs : s.Keeps n) (stream : Nat) (bs : Bytes) :
    (s.write stream bs).Holds n (writes ++ [(stream, bs)]) := by
  rw [show s.write stream bs = _ from foldl_write [(stream, bs)] s]
  exact h.send hs s.unread _

/-- A stream that lost something is full. -/
theorem full (h : s.Holds n writes) (hexceeded : Exceeded n writes) : s.Full n := by
  rw [Full, h.output, h.diagnostics, List.length_take, List.length_take]
  rw [Exceeded] at hexceeded
  omega

/-- A stream that is not full has lost nothing. -/
theorem bytes_eq (h : s.Holds n writes) (hfull : ¬s.Full n) :
    s.output.bytes = sentTo 1 writes ∧ s.diagnostics.bytes = sentTo 2 writes := by
  rw [Full, h.output, h.diagnostics, List.length_take, List.length_take] at hfull
  rw [h.output, h.diagnostics]
  exact ⟨List.take_of_length_le (by omega), List.take_of_length_le (by omega)⟩

end Holds

end Streams

namespace Evaluation

/-- What the program writes if it acts now. -/
def writes (e : Evaluation) : List (Nat × Bytes) :=
  match e.phase with
  | .running (.write stream bs _) => [(stream, bs)]
  | _ => []

/-- What an evaluation can become, and what its program wrote on the way, in
    order. -/
inductive Wrote (e : Evaluation) : List (Nat × Bytes) → Evaluation → Prop
  | refl : Wrote e [] e
  | enter {sent : List (Nat × Bytes)} {e' : Evaluation} :
      Wrote e sent e' → Wrote e sent e'.enter
  | advance {sent : List (Nat × Bytes)} {e' : Evaluation} :
      Wrote e sent e' → Wrote e (sent ++ e'.writes) e'.advance
  | poll {sent : List (Nat × Bytes)} {e' : Evaluation} (epoch : Nat) :
      Wrote e sent e' → Wrote e sent (e'.poll epoch)
  | resume {sent : List (Nat × Bytes)} {e' : Evaluation} (epoch : Nat) :
      Wrote e sent e' → Wrote e sent (e'.resume epoch)
  | cancel {sent : List (Nat × Bytes)} {e' : Evaluation} :
      Wrote e sent e' → Wrote e sent e'.cancel

variable {e e' : Evaluation} {n : Nat} {sent : List (Nat × Bytes)}

/-- Whatever an evaluation becomes, its program wrote something on the way, if
    only nothing. -/
theorem Leads.exists_wrote (h : e.Leads e') : ∃ sent, e.Wrote sent e' := by
  induction h with
  | refl => exact ⟨[], .refl⟩
  | tail _ hstep ih =>
    obtain ⟨sent, hw⟩ := ih
    cases hstep with
    | enter => exact ⟨sent, hw.enter⟩
    | advance => exact ⟨_, hw.advance⟩
    | poll epoch => exact ⟨sent, hw.poll epoch⟩
    | resume epoch => exact ⟨sent, hw.resume epoch⟩
    | cancel => exact ⟨sent, hw.cancel⟩

theorem Wrote.leads (h : e.Wrote sent e') : e.Leads e' := by
  induction h with
  | refl => exact .refl
  | enter _ ih => exact ih.tail .enter
  | advance _ ih => exact ih.tail .advance
  | poll epoch _ ih => exact ih.tail (.poll epoch)
  | resume epoch _ ih => exact ih.tail (.resume epoch)
  | cancel _ ih => exact ih.tail .cancel

/-- When a program acts, the streams take what it writes, if it writes. -/
theorem streams_advance (e : Evaluation) :
    ∃ unread, e.advance.streams =
      { unread
        output := e.streams.output.write (sentTo 1 e.writes)
        diagnostics := e.streams.diagnostics.write (sentTo 2 e.writes) } := by
  obtain ⟨phase, streams, cancelled, deadline⟩ := e
  have hquiet (unread : Bytes) : { streams with unread } =
      { unread
        output := streams.output.write (sentTo 1 [])
        diagnostics := streams.diagnostics.write (sentTo 2 []) : Streams } :=
    (congrArg₂ (Streams.mk unread) (Capture.write_nil _) (Capture.write_nil _)).symm
  match phase with
  | .running (.write stream bs next) => exact ⟨_, Streams.foldl_write [(stream, bs)] streams⟩
  | .running (.read limit? next) => exact ⟨_, hquiet _⟩
  | .running (.halt h) | .running .spin | .running (.pause d next) => exact ⟨_, hquiet _⟩
  | .created start | .polled rest stop | .ended ending => exact ⟨_, hquiet _⟩

/-- At any time the streams hold the beginning of what the program has written. -/
theorem Wrote.holds (h : e.Wrote sent e') (hkeeps : e.streams.Keeps n)
    (hempty : e.streams.Holds n []) : e'.streams.Holds n sent := by
  induction h with
  | refl => exact hempty
  | enter _ ih => exact (streams_enter _).symm ▸ ih
  | @advance sent e' hw ih =>
    obtain ⟨unread, hstreams⟩ := streams_advance e'
    rw [hstreams]
    exact ih.send (hw.leads.keeps hkeeps) unread e'.writes
  | poll epoch _ ih => exact (streams_poll epoch _).symm ▸ ih
  | resume epoch _ ih => exact (streams_resume epoch _).symm ▸ ih
  | cancel _ ih => exact ih

end Evaluation

/-! ## What the caller has -/

/-- What is left of a text without the report that closes it, if one does. -/
inductive Diagnostics.Stripped (raw : List Char) : List Char → Prop
  | closed {text body : List Char} : Closed text body raw → Stripped raw text
  | unclosed : (∀ text body, ¬Closed text body raw) → Stripped raw raw

theorem Diagnostics.stripped_splitClosing (raw : List Char) :
    Stripped raw (splitClosing raw).1 := by
  rcases splitClosing_eq_or_closed raw with hnone | ⟨text, body, hclosed⟩
  · refine hnone ▸ .unclosed fun text body h => ?_
    exact nomatch hnone.symm.trans (splitClosing_of_closed h)
  · rw [splitClosing_of_closed hclosed]
    exact .closed hclosed

namespace Outcome

variable {limit : Duration} {n : Nat} {ending : Ending} {s : Streams}
  {writes : List (Nat × Bytes)}

/-- If something was lost, the caller is told so unless the run took too long. -/
theorem ofEnding_of_exceeded (hs : s.Keeps n) (hholds : s.Holds n writes)
    (hexceeded : Streams.Exceeded n writes) :
    (ofEnding limit ending s).failure? = some (.outputLimitExceeded n) ∨
      ofEnding limit ending s = .timedOut limit := by
  by_cases hending : ending = .interrupted
  · exact .inr (hending ▸ rfl)
  · rw [ofEnding_of_full hs hending (hholds.full hexceeded)]
    exact .inl rfl

/-- A caller who is told of no limit has all that was sent, without the closing
    report. -/
theorem output_of_no_limit (hs : s.Keeps n) (hholds : s.Holds n writes)
    (htimeout : (ofEnding limit ending s).isTimeout = false)
    (hlimit : (ofEnding limit ending s).failure? ≠ some (.outputLimitExceeded n)) :
    s.output.bytes = sentTo 1 writes ∧ s.diagnostics.bytes = sentTo 2 writes ∧
      ∃ text, Diagnostics.Stripped (Utf8.decode (sentTo 2 writes)) text ∧
        (ofEnding limit ending s).output =
          String.ofList (Utf8.decode (sentTo 1 writes) ++ text) := by
  have hending : ending ≠ .interrupted := by
    rintro rfl
    exact nomatch htimeout
  have hfull : ¬s.Full n := fun h => hlimit (by rw [ofEnding_of_full hs hending h]; rfl)
  obtain ⟨hout, herr⟩ := hholds.bytes_eq hfull
  refine ⟨hout, herr, _, Diagnostics.stripped_splitClosing _, ?_⟩
  rw [output_ofEnding hending, Streams.closing, Diagnostics.ofText, Capture.text, Capture.text,
    String.toList_ofList, hout, herr, String.ofList_append]

end Outcome

namespace Session

/-- However the evaluation of a request goes, its program has written something by
    then, in some order and in pieces of whatever size. If that was more than is
    kept of a stream, the caller is told of the limit or that the run took too long,
    even if the program trapped or the report was cut off. And a caller who is told
    neither has every byte of both streams, without the closing report. -/
theorem evaluate_untruncated {s : Session} {r : Request} (hsource : Arguments.isPassable r.source) :
    (∀ limit?, (s.prepare r).Leads ((s.prepare r).runWithin limit?) ∧
      s.evaluate limit? r = r.outcome? ((s.prepare r).runWithin limit?)) ∧
    (∀ e, (s.prepare r).Leads e ↔ ∃ writes, (s.prepare r).Wrote writes e) ∧
    ∀ writes e ending, (s.prepare r).Wrote writes e → e.ending? = some ending →
      ∃ o, r.outcome? e = some o ∧
        (Streams.Exceeded s.interpreter.capacity writes →
          o.failure? = some (.outputLimitExceeded s.interpreter.capacity) ∨
            o = .timedOut r.timeout) ∧
        (o.isTimeout = false →
          o.failure? ≠ some (.outputLimitExceeded s.interpreter.capacity) →
          e.streams.output.bytes = sentTo 1 writes ∧
            e.streams.diagnostics.bytes = sentTo 2 writes ∧
            ∃ text, Diagnostics.Stripped (Utf8.decode (sentTo 2 writes)) text ∧
              o.output = String.ofList (Utf8.decode (sentTo 1 writes) ++ text)) := by
  refine ⟨fun limit? => ⟨Evaluation.leads_runWithin limit? _, rfl⟩,
    fun e => ⟨Evaluation.Leads.exists_wrote, fun ⟨writes, h⟩ => h.leads⟩,
    fun writes e ending hw hending => ?_⟩
  have hkeeps := keeps_of_leads hw.leads
  have hholds := hw.holds (.ofInput r.input s.interpreter.capacity)
    (.ofInput r.input s.interpreter.capacity)
  refine ⟨.ofEnding r.timeout ending e.streams, ?_,
    Outcome.ofEnding_of_exceeded hkeeps hholds, Outcome.output_of_no_limit hkeeps hholds⟩
  rw [Request.outcome?, hsource, hending]
  rfl

/-- Every program writes to both streams, more to the second than is kept, and
    then does what it cannot. -/
def overflowing : Session where
  interpreter :=
    { image :=
        { start? := some (.function 0 0)
          missing? := none
          initializes := true
          run := fun _ =>
            .write 2 [97, 98] <| .write 1 [104, 105] <| .write 2 [99] <| .halt .trapped }
      arguments := []
      capacity := 2 }

/-- The caller is told of the limit. -/
theorem evaluate_overflowing : ∃ o,
    overflowing.evaluate none { source := "warn" } = some o ∧
      o.failure? = some (.outputLimitExceeded 2) := by
  obtain ⟨hrun, -, htold⟩ :=
    evaluate_untruncated (s := overflowing) (r := { source := "warn" }) (by decide)
  obtain ⟨o, ho, hexceeded, -⟩ :=
    htold _ _ (.failed .trap) (.advance (.advance (.advance (.advance (.enter .refl))))) rfl
  refine ⟨o, (hrun none).2.trans ho, (hexceeded (by decide)).resolve_right ?_⟩
  rintro rfl
  exact nomatch ho

end Session

end Playpen
