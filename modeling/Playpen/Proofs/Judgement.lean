import Playpen.Proofs.Lines
import Playpen.Proofs.Moves

/-!
# How a run is judged

What an evaluation comes to depends on four things that may disagree: how it
ended, whether a stream is full, the closing report and the exit status. A program
may fill a stream and then trap, or report that it is done and exit with some
status. `Failure.Due` says when each failure is due, without the branches of
`Outcome.ofEnding`, and the caller is told a failure exactly when it is due
(`Session.evaluate_judged`). At most one is.
-/

namespace Playpen

/-- A captured stream holds `n` bytes or more. -/
def Streams.Full (n : Nat) (s : Streams) : Prop :=
  n ≤ s.output.bytes.length ∨ n ≤ s.diagnostics.bytes.length

instance (n : Nat) (s : Streams) : Decidable (s.Full n) := inferInstanceAs (Decidable (_ ∨ _))

/-- What the error stream holds. -/
def Streams.closing (s : Streams) : Diagnostics := .ofText s.diagnostics.text

theorem Streams.Keeps.overflowed_iff {n : Nat} {s : Streams} (h : s.Keeps n) :
    s.overflowed ↔ s.Full n := by
  rw [overflowed, Bool.or_eq_true, Capture.isFull_iff, Capture.isFull_iff, h.output, h.diagnostics,
    Full]

/-- The run failed for a reason that is not the program's: it could not be run, or
    what it left behind cannot be understood. -/
inductive Diagnostics.Blames (d : Diagnostics) : Ending → String → Prop
  | failed (why : HostFault) : Blames d (.failed why) why.message
  | unreadable {why : Report.Fault} (status : Int32) : d.report? = some (.error why) →
      Blames d (.exited status) ("unreadable guest error report: " ++ why.message)
  | rejected {e : Exception} (status : Int32) : d.report? = some (.ok (.rejected e)) →
      Blames d (.exited status) ("unexpected guest report: " ++ (Report.rejected e).inspect)
  | unreported {status : Int32} : d.report? = none → status ≠ 0 → ¬Text.isBlank d.text.toList →
      Blames d (.exited status) (s!"interpreter exited with status {status.toInt}: " ++
        String.ofList (Text.trim d.text.toList))

/-- A run with this limit, of whose streams `n` bytes are kept, fails so if it
    ended so and left these streams. -/
def Failure.Due (limit : Duration) (n : Nat) (ending : Ending) (s : Streams) : Failure → Prop
  | .timedOut d => ending = .interrupted ∧ d = limit
  | .outputLimitExceeded m => ending ≠ .interrupted ∧ s.Full n ∧ m = n
  | .host reason => ¬s.Full n ∧ s.closing.Blames ending reason
  | .guest e => ¬s.Full n ∧ (∃ status, ending = .exited status) ∧
      s.closing.report? = some (.ok (.raised e))
  | .exited m => ¬s.Full n ∧ m ≠ 0 ∧ ∃ status, ending = .exited status ∧
      (s.closing.report? = some (.ok (.exited m)) ∨
        s.closing.report? = none ∧ Text.isBlank s.closing.text.toList ∧ m = status)

namespace Outcome

variable {limit : Duration} {n : Nat} {ending : Ending} {s : Streams} {d : Diagnostics}
  {status : Int32} {f : Failure}

/-! ## What the report and the status say -/

/-- Without a report the status counts, and the text if there is any. -/
theorem failureOfReport?_of_none (h : d.report? = none) :
    failureOfReport? d status =
      if status = 0 then none
      else if Text.isBlank d.text.toList then some (.exited status)
      else some (.host (s!"interpreter exited with status {status.toInt}: " ++
        String.ofList (Text.trim d.text.toList))) := by
  have hblank : (Text.trim d.text.toList).isEmpty = Text.isBlank d.text.toList := by
    rw [Bool.eq_iff_iff, List.isEmpty_iff, Text.trim_eq_nil_iff]
  rw [failureOfReport?, h]
  dsimp only
  rw [hblank]

/-- A report that can be read decides, whatever the status. -/
theorem failureOfReport?_of_ok {r : Report} (h : d.report? = some (.ok r)) (status' : Int32) :
    failureOfReport? d status = failureOfReport? d status' := by
  rw [failureOfReport?, failureOfReport?, h]
  cases r <;> rfl

/-! ## Which failure is told -/

theorem ofEnding_of_full (hs : s.Keeps n) (hending : ending ≠ .interrupted) (hfull : s.Full n) :
    ofEnding limit ending s =
      failed (s.output.text ++ s.closing.text) (.outputLimitExceeded n) := by
  cases ending with
  | interrupted => exact absurd rfl hending
  | exited | failed =>
    rw [ofEnding, if_pos (hs.overflowed_iff.2 hfull), hs.output]
    rfl

theorem ofEnding_failed (hs : s.Keeps n) (hfull : ¬s.Full n) (why : HostFault) :
    ofEnding limit (.failed why) s =
      failed (s.output.text ++ s.closing.text) (.host why.message) :=
  if_neg fun h => hfull (hs.overflowed_iff.1 h)

theorem ofEnding_exited (hs : s.Keeps n) (hfull : ¬s.Full n) (status : Int32) :
    ofEnding limit (.exited status) s =
      ⟨s.output.text ++ s.closing.text, failureOfReport? s.closing status⟩ :=
  if_neg fun h => hfull (hs.overflowed_iff.1 h)

theorem due_of_failureOfReport? (hfull : ¬s.Full n)
    (h : failureOfReport? s.closing status = some f) : f.Due limit n (.exited status) s := by
  rcases hr : s.closing.report? with _ | why | r
  · rw [failureOfReport?_of_none hr] at h
    split_ifs at h with hzero hblank
    · obtain rfl := Option.some.inj h
      exact ⟨hfull, hzero, status, rfl, .inr ⟨hr, hblank, rfl⟩⟩
    · obtain rfl := Option.some.inj h
      exact ⟨hfull, .unreported hr hzero hblank⟩
  · rw [failureOfReport?, hr] at h
    obtain rfl := Option.some.inj h
    exact ⟨hfull, .unreadable status hr⟩
  · rw [failureOfReport?, hr] at h
    cases r with
    | completed => exact nomatch h
    | exited m =>
      obtain ⟨hm, hf⟩ := Option.ite_none_left_eq_some.1 h
      obtain rfl := Option.some.inj hf
      exact ⟨hfull, hm, status, rfl, .inl hr⟩
    | raised e =>
      obtain rfl := Option.some.inj h
      exact ⟨hfull, ⟨status, rfl⟩, hr⟩
    | rejected e =>
      obtain rfl := Option.some.inj h
      exact ⟨hfull, .rejected status hr⟩

/-- Only failures that are due are told. -/
theorem due_of_failure? (hs : s.Keeps n) (h : (ofEnding limit ending s).failure? = some f) :
    f.Due limit n ending s := by
  -- The order of these cases is the order in which the failures take precedence.
  by_cases hending : ending = .interrupted
  · subst hending
    obtain rfl := Option.some.inj h
    exact ⟨rfl, rfl⟩
  by_cases hfull : s.Full n
  · rw [ofEnding_of_full hs hending hfull] at h
    obtain rfl := Option.some.inj h
    exact ⟨hending, hfull, rfl⟩
  cases ending with
  | interrupted => exact absurd rfl hending
  | exited status =>
    rw [ofEnding_exited hs hfull] at h
    -- Without this, unification would evaluate the search for the report.
    dsimp only at h
    exact due_of_failureOfReport? hfull h
  | failed why =>
    rw [ofEnding_failed hs hfull] at h
    obtain rfl := Option.some.inj h
    exact ⟨hfull, .failed why⟩

/-- A failure that is due is told. -/
theorem failure?_of_due (hs : s.Keeps n) (h : f.Due limit n ending s) :
    (ofEnding limit ending s).failure? = some f := by
  cases f with
  | timedOut d =>
    obtain ⟨rfl, rfl⟩ := h
    rfl
  | outputLimitExceeded m =>
    obtain ⟨hending, hfull, rfl⟩ := h
    rw [ofEnding_of_full hs hending hfull]
    rfl
  | host reason =>
    obtain ⟨hfull, hblames⟩ := h
    cases hblames with
    | failed why =>
      rw [ofEnding_failed hs hfull]
      rfl
    | unreadable status hr | rejected status hr =>
      rw [ofEnding_exited hs hfull, failureOfReport?, hr]
    | unreported hr hzero hblank =>
      rw [ofEnding_exited hs hfull, failureOfReport?_of_none hr, if_neg hzero, if_neg hblank]
  | guest e =>
    obtain ⟨hfull, ⟨status, rfl⟩, hr⟩ := h
    rw [ofEnding_exited hs hfull, failureOfReport?, hr]
  | exited m =>
    obtain ⟨hfull, hm, status, rfl, hr | ⟨hr, hblank, rfl⟩⟩ := h
    · rw [ofEnding_exited hs hfull, failureOfReport?, hr]
      exact if_neg hm
    · rw [ofEnding_exited hs hfull, failureOfReport?_of_none hr, if_neg hm, if_pos hblank]

theorem failure?_eq_some_iff (hs : s.Keeps n) :
    (ofEnding limit ending s).failure? = some f ↔ f.Due limit n ending s :=
  ⟨due_of_failure? hs, failure?_of_due hs⟩

/-- This is to be told of a run that ended so and left these streams. -/
structure Judged (limit : Duration) (n : Nat) (ending : Ending) (s : Streams) (o : Outcome) :
    Prop where
  failure?_eq_some : ∀ f, o.failure? = some f ↔ f.Due limit n ending s
  failure?_eq_none : o.failure? = none ↔ ∀ f : Failure, ¬f.Due limit n ending s
  /-- Leaving with status 0 is no failure, and neither is reporting that. -/
  ne_exited : o.failure? ≠ some (.exited 0)
  of_exited : ∀ status, ending = .exited status → ¬s.Full n →
    s.closing.report? = some (.ok (.exited 0)) → o.failure? = none
  output_of_interrupted : ending = .interrupted → o.output = ""
  output_of_ne : ending ≠ .interrupted → o.output = s.output.text ++ s.closing.text
  error? : ∀ m, o.error? = some m ↔ ∃ f, o.failure? = some f ∧ f.message = m

/-- With such a report no status makes a difference. -/
theorem ofEnding_of_ok {r : Report} (h : s.closing.report? = some (.ok r)) (status' : Int32) :
    ofEnding limit (.exited status) s = ofEnding limit (.exited status') s := by
  rw [Streams.closing] at h
  rw [ofEnding, ofEnding, failureOfReport?_of_ok h status']

theorem output_ofEnding (hending : ending ≠ .interrupted) :
    (ofEnding limit ending s).output = s.output.text ++ s.closing.text := by
  cases ending with
  | interrupted => exact absurd rfl hending
  | exited | failed =>
    rw [ofEnding]
    split <;> rfl

theorem judged_ofEnding (hs : s.Keeps n) : Judged limit n ending s (ofEnding limit ending s) where
  failure?_eq_some f := failure?_eq_some_iff hs
  failure?_eq_none := by
    simp only [Option.eq_none_iff_forall_ne_some, ne_eq, failure?_eq_some_iff hs]
  ne_exited h := (due_of_failure? hs h).2.1 rfl
  of_exited status hending hfull hr := by
    rw [hending, ofEnding_exited hs hfull, failureOfReport?, hr]
    rfl
  output_of_interrupted h := h ▸ rfl
  output_of_ne := output_ofEnding
  error? m := Option.map_eq_some_iff

end Outcome

/-- What the caller of a request is told whose evaluation has become `e`, once it
    is over. -/
def Request.outcome? (r : Request) (e : Evaluation) : Option Outcome :=
  if !Arguments.isPassable r.source then some (.failed "" (.host Arguments.notPassable))
  else e.ending?.map fun ending => .ofEnding r.timeout ending e.streams

namespace Session

/-- An evaluation goes on until its time is over or it is stopped, and whatever has
    become of it is told to the caller. However it ended and whatever is in its
    streams, the failure that is due is told, and no other. If there is a report that
    can be read, it makes no difference with which status the program exited. -/
theorem evaluate_judged {s : Session} {r : Request} (hsource : Arguments.isPassable r.source) :
    (∀ limit?, (s.prepare r).Leads ((s.prepare r).runWithin limit?) ∧
      s.evaluate limit? r = r.outcome? ((s.prepare r).runWithin limit?)) ∧
    (s.prepare r).Leads (s.abandoned r) ∧
    (∀ e, (s.prepare r).Leads e → e.streams.Keeps s.interpreter.capacity) ∧
    (∀ e ending, e.ending? = some ending → e.streams.Keeps s.interpreter.capacity →
      ∃ o, r.outcome? e = some o ∧
        o.Judged r.timeout s.interpreter.capacity ending e.streams) ∧
    ∀ e e' status status', e.ending? = some (.exited status) →
      e'.ending? = some (.exited status') → e'.streams = e.streams →
      ∀ report, e.streams.closing.report? = some (.ok report) → r.outcome? e' = r.outcome? e := by
  have houtcome {e : Evaluation} {ending : Ending} (h : e.ending? = some ending) :
      r.outcome? e = some (.ofEnding r.timeout ending e.streams) := by
    rw [Request.outcome?, hsource, h]
    rfl
  refine ⟨fun limit? => ⟨Evaluation.leads_runWithin limit? _, rfl⟩, leads_abandoned,
    fun e => keeps_of_leads, fun e ending hending hs => ?_,
    fun e e' status status' he he' hstreams report hreport => ?_⟩
  · exact ⟨_, houtcome hending, Outcome.judged_ofEnding hs⟩
  · rw [houtcome he, houtcome he', hstreams]
    exact congrArg some (Outcome.ofEnding_of_ok hreport status)

/-- Every program reports that it left with status 0, and exits with status 3. -/
def disagreeing : Session where
  interpreter :=
    { image :=
        { start? := some (.function 0 0)
          missing? := none
          initializes := true
          run := fun _ =>
            .write 2 (Utf8.encode "\x1erbrun:exit:0\n".toList) <| .halt (.exited 3) }
      arguments := []
      capacity := 64 }

/-- The report decides: that was no failure. -/
theorem evaluate_disagreeing : ∃ o,
    disagreeing.evaluate none { source := "exit" } = some o ∧
      o.failure? = none ∧ o.output = "" := by
  obtain ⟨hrun, -, hkeeps, hjudged, -⟩ :=
    evaluate_judged (s := disagreeing) (r := { source := "exit" }) (by decide)
  obtain ⟨hleads, heval⟩ := hrun none
  obtain ⟨o, ho, hj⟩ := hjudged _ (.exited 3) rfl (hkeeps _ hleads)
  refine ⟨o, heval.trans ho, hj.of_exited 3 rfl (by decide) (by decide), ?_⟩
  rw [hj.output_of_ne nofun]
  decide

end Session

end Playpen
