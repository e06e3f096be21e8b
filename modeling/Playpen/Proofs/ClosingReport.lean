import Playpen.Proofs.GuestRun
import Playpen.Proofs.ReportRoundTrip
import Playpen.Session

/-!
# What the prelude reports is what the caller is told

The prelude closes a run with a report behind whatever the program wrote to its
error stream. If the program ended its last line there, the caller is told what
the report says, and gets both streams without it. If it did not, the report
continues a line of the program and is not found where it should be
(`evaluate_closing_iff`): the caller is told something else, and a program that
raised may pass for one that ran to its end.
-/

namespace Playpen

namespace Report

/-- What the prelude of a run reports at its end. The fields of an exception are
    bytes, since a program may make them what it likes. -/
inductive Closing where
  | completed
  | exited (status : Int32)
  | raised (className ancestors message backtrace : Bytes)

namespace Closing

/-- What the prelude writes after the marker. -/
def body : Closing → List Char
  | completed => "ok".toList
  | exited status => "exit:".toList ++ (toString status.toInt).toList
  | raised className ancestors message backtrace =>
    bodyOf "raise".toList [className, ancestors, message, backtrace]

/-- The line that the prelude writes. -/
def line (c : Closing) : Bytes := Utf8.encode (marker ++ c.body ++ ['\n'])

/-- What the host is to read. -/
def report : Closing → Report
  | completed => .completed
  | exited status => .exited status
  | raised className ancestors message backtrace =>
    .raised (exceptionOf className ancestors message backtrace)

/-- What the caller is to be told. -/
def failure? : Closing → Option Failure
  | completed => none
  | exited status => if status = 0 then none else some (.exited status)
  | raised className ancestors message backtrace =>
    some (.guest (exceptionOf className ancestors message backtrace))

theorem isBody : ∀ c : Closing, IsBody c.body c.report
  | completed => isBody_ok
  | exited status => isBody_exit status
  | raised _ _ _ _ => isBody_raise _ _ _ _

/-- A report that was read decides, and the exit status does not. -/
theorem failureOfReport?_eq (c : Closing) (text : String) (status : Int32) :
    Outcome.failureOfReport? ⟨text, some (.ok c.report)⟩ status = c.failure? := by
  cases c <;> rfl

end Closing

/-- A report is found only if it is on a line of its own. -/
theorem text_ofText_eq_iff (bs : Bytes) (c : Closing) :
    (Diagnostics.ofText (Utf8.text (bs ++ c.line))).text = Utf8.text bs ↔ Text.EndsIn 10 bs := by
  constructor
  · intro h
    rw [Diagnostics.ofText, Utf8.text, String.toList_ofList, Closing.line, decode_line, Utf8.text,
      String.ofList_inj] at h
    rcases Diagnostics.splitClosing_cases (Utf8.decode bs ++ (marker ++ c.body) ++ ['\n']) with
      hs | ⟨text, body, htext, hs⟩
    · -- Without a report all is text, the report included.
      rw [hs] at h
      have hlength := congrArg List.length h
      simp only [List.length_append, List.length_cons] at hlength
      omega
    · rw [hs] at h
      exact endsIn_decode_iff.1 (h ▸ htext)
  · intro h
    rw [Closing.line, ofText_of_isBody h c.isBody]

end Report

namespace Session

open Report

/-- The streams of an evaluation in which that happened. -/
def streamsAfter (capacity : Nat) (t : Guest.Transcript) : Streams where
  unread := t.unread
  output := (Capture.empty capacity).write (sentTo 1 t.writes)
  diagnostics := (Capture.empty capacity).write (sentTo 2 t.writes)

/-- What a request comes to whose program ends by itself. -/
theorem evaluate_of_transcript {s : Session} {r : Request} {b : Guest.Behaviour}
    {t : Guest.Transcript} (hsource : Arguments.isPassable r.source)
    (hstart : s.interpreter.start (Arguments.execute s.interpreter.arguments r.source) = .ok b)
    (ht : b.transcript? r.input.bytes = some t) :
    s.evaluate none r = some (.ofEnding r.timeout (.ofHalt false t.halt)
      (streamsAfter s.interpreter.capacity t)) := by
  have hrun : (s.prepare r).runWithin none =
      { s.prepare r with
        phase := .ended (.ofHalt false t.halt)
        streams := streamsAfter s.interpreter.capacity t } := by
    rw [Evaluation.runWithin, prepare, Evaluation.create, hstart]
    exact Evaluation.runProgram_transcript ht
  rw [evaluate, hsource, hrun]
  rfl

/-- The caller is told what the prelude reports exactly if the program left the
    line to the report. -/
theorem evaluate_closing_iff {s : Session} {r : Request} {b : Guest.Behaviour}
    {t : Guest.Transcript} {status : Int32} {bs : Bytes} {c : Closing}
    (hsource : Arguments.isPassable r.source)
    (hstart : s.interpreter.start (Arguments.execute s.interpreter.arguments r.source) = .ok b)
    (ht : b.transcript? r.input.bytes = some t)
    (hstatus : Ending.ofHalt false t.halt = .exited status)
    (herr : sentTo 2 t.writes = bs ++ c.line)
    (hout : (sentTo 1 t.writes).length < s.interpreter.capacity)
    (hcap : (sentTo 2 t.writes).length < s.interpreter.capacity) :
    s.evaluate none r = some ⟨Utf8.text (sentTo 1 t.writes) ++ Utf8.text bs, c.failure?⟩ ↔
      Text.EndsIn 10 bs := by
  have htext {sent : Bytes} (h : sent.length < s.interpreter.capacity) :
      ((Capture.empty s.interpreter.capacity).write sent).text = Utf8.text sent := by
    rw [Capture.text, Capture.bytes_write_empty h.le, Utf8.text]
  have hfull {sent : Bytes} (h : sent.length < s.interpreter.capacity) :
      ((Capture.empty s.interpreter.capacity).write sent).isFull = false :=
    Bool.eq_false_iff.2 fun hf => Nat.not_le.2 h (Capture.isFull_write_empty.1 hf)
  have hoverflowed : (streamsAfter s.interpreter.capacity t).overflowed = false := by
    rw [Streams.overflowed, streamsAfter, hfull hout, hfull hcap]
    rfl
  rw [evaluate_of_transcript hsource hstart ht, hstatus, Outcome.ofEnding, hoverflowed]
  dsimp only [streamsAfter]
  rw [htext hout, htext hcap, herr, Option.some_inj]
  constructor
  · intro h
    have houtput := congrArg Outcome.output h
    exact (text_ofText_eq_iff bs c).1 (String.append_right_inj _ |>.1 houtput)
  · intro h
    rw [Closing.line, ofText_of_isBody h c.isBody]
    exact congrArg (Outcome.mk _) (c.failureOfReport?_eq _ _)

/-- A session in which every program says hi, writes that to its error stream and
    raises. The prelude reports that and returns. -/
def raisingAfter (bs : Bytes) : Session where
  interpreter :=
    { image :=
        { start? := some (.function 0 0)
          missing? := none
          initializes := true
          run := fun _ => .write 1 [104, 105] <| .write 2 bs <|
            .write 2 (Closing.raised [69] [69] [98] []).line <| .halt .returned }
      arguments := []
      capacity := 64 }

/-- After a line that was ended, the exception is told. -/
theorem evaluate_raising_after_line :
    (raisingAfter [97, 10]).evaluate none { source := "raise" } =
      some ⟨Utf8.text [104, 105] ++ Utf8.text [97, 10],
        some (.guest (exceptionOf [69] [69] [98] []))⟩ :=
  (evaluate_closing_iff
    (s := raisingAfter [97, 10]) (c := .raised [69] [69] [98] [])
    (t :=
      { writes := [(1, [104, 105]), (2, [97, 10]), (2, (Closing.raised [69] [69] [98] []).line)]
        unread := []
        halt := .returned })
    (by decide) rfl rfl rfl rfl (by decide) (by decide)).2 (by decide)

/-- After an unended line the exception passes for text of a program that ran to
    its end. -/
example :
    (raisingAfter [97]).evaluate none { source := "raise" } =
      some (.success "hia\x1erbrun:raise:RQ==:RQ==:Yg==:\n") := by
  decide

end Session

end Playpen
