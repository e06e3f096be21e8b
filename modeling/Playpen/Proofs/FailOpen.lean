import Playpen.Proofs.ReportLanguage
import Playpen.Runner

/-!
# Checks fail open

A check finds an error in a source only if the interpreter did. What the
interpreter finds is said here without the check (`Evaluation.Finds`): it left with
an exit, whatever the status, and what was captured of its diagnostics is closed by
a report that says that the source was not compiled. A check comes to that error if
there is one, and to none as soon as anything is missing (`SyntaxCheck.fails_open`).
A runner that is asked for a check answers on the spot with the interpreter it has,
and stays as it was.
-/

namespace Playpen

/-- A report is found and read exactly if the text is closed by what says it. -/
theorem Diagnostics.report?_eq_ok_iff {raw : List Char} {r : Report} :
    (ofText (String.ofList raw)).report? = some (.ok r) ↔
      ∃ text body, Closed text body raw ∧ Report.Says body r := by
  rw [ofText, String.toList_ofList]
  constructor
  · intro h
    obtain ⟨body, hbody, hread⟩ := Option.map_eq_some_iff.1 h
    refine ⟨(splitClosing raw).1, body, splitClosing_eq_some_iff.1 ?_,
      Report.read_eq_ok_iff.1 hread⟩
    rw [← hbody]
  · rintro ⟨text, body, hclosed, hsays⟩
    rw [splitClosing_of_closed hclosed]
    exact congrArg some (Report.read_eq_ok_iff.2 hsays)

/-- The interpreter left with an exit and closed its diagnostics, as far as they
    were captured, with the report that the source was not compiled for that
    reason. -/
structure Evaluation.Finds (e : Evaluation) (f : SyntaxFault) : Prop where
  exited : ∃ status, e.ending? = some (.exited status)
  reported : ∃ text body exception,
    Diagnostics.Closed text body (Utf8.decode e.streams.diagnostics.bytes) ∧
      Report.Says body (.rejected exception) ∧ f = .ofMessage exception.message

namespace SyntaxCheck

variable {i? : Option Interpreter} {i : Interpreter} {source : String} {f : SyntaxFault}

/-! ## What an evaluation comes to -/

theorem verdictOf_exited_eq_invalid_iff {status : Int32} {s : Streams} :
    verdictOf (.exited status) s = .invalid f ↔
      ∃ exception, (Diagnostics.ofText s.diagnostics.text).report? =
        some (.ok (.rejected exception)) ∧ f = .ofMessage exception.message := by
  rw [verdictOf]
  split
  · rename_i exception hreport
    rw [SyntaxVerdict.invalid.injEq]
    constructor
    · exact fun h => ⟨exception, hreport, h.symm⟩
    · rintro ⟨exception', hreport', rfl⟩
      have hsame := Option.some.inj (hreport.symm.trans hreport')
      obtain rfl := Report.rejected.inj (Except.ok.inj hsame)
      rfl
  · rename_i hother
    refine iff_of_false nofun ?_
    rintro ⟨exception, hreport, -⟩
    exact hother exception hreport

/-- However an evaluation ended, it comes to an error exactly if the interpreter
    found it. -/
theorem verdictOf_eq_invalid_iff {e : Evaluation} {ending : Ending}
    (hending : e.ending? = some ending) :
    verdictOf ending e.streams = .invalid f ↔ e.Finds f := by
  cases ending with
  | interrupted | failed =>
    refine iff_of_false nofun fun h => ?_
    obtain ⟨status, hstatus⟩ := h.exited
    exact nomatch hending.symm.trans hstatus
  | exited status =>
    rw [verdictOf_exited_eq_invalid_iff, Capture.text]
    constructor
    · rintro ⟨exception, hreport, rfl⟩
      obtain ⟨text, body, hclosed, hsays⟩ := Diagnostics.report?_eq_ok_iff.1 hreport
      exact ⟨⟨status, hending⟩, text, body, exception, hclosed, hsays, rfl⟩
    · rintro ⟨-, text, body, exception, hclosed, hsays, hf⟩
      exact ⟨exception, Diagnostics.report?_eq_ok_iff.2 ⟨text, body, hclosed, hsays⟩, hf⟩

/-- The other verdict needs no more than that nothing was found. -/
theorem verdictOf_eq_valid_iff {e : Evaluation} {ending : Ending}
    (hending : e.ending? = some ending) :
    verdictOf ending e.streams = .valid ↔ ∀ f, ¬e.Finds f := by
  simp only [← verdictOf_eq_invalid_iff hending]
  cases verdictOf ending e.streams with
  | valid => exact iff_of_true rfl fun f => nofun
  | invalid f => exact iff_of_false nofun fun h => h f rfl

/-! ## What a check comes to -/

/-- The check asks the interpreter: there is one, and the source is not blank and
    can be handed over. -/
structure Asks (i? : Option Interpreter) (source : String) (i : Interpreter) : Prop where
  interpreter : i? = some i
  not_blank : ¬Text.isBlank source.toList
  passable : Arguments.isPassable source

theorem run_of_asks (h : Asks i? source i) :
    run i? source = (evaluation i source).ending?.map fun ending =>
      verdictOf ending (evaluation i source).streams := by
  obtain ⟨rfl, hblank, hpassable⟩ := h
  refine if_neg ?_
  rw [hpassable, Bool.not_true, Bool.or_false]
  exact hblank

theorem run_of_not_asks (h : ∀ i, ¬Asks i? source i) : run i? source = some .valid := by
  cases i? with
  | none => rfl
  | some i =>
    refine if_pos ?_
    rw [Bool.or_eq_true, Bool.not_eq_true']
    by_contra hne
    rw [not_or, Bool.not_eq_false] at hne
    exact h i ⟨rfl, hne.1, hne.2⟩

theorem Asks.unique {j : Interpreter} (h : Asks i? source i) (h' : Asks i? source j) : i = j :=
  Option.some.inj (h.interpreter.symm.trans h'.interpreter)

theorem run_eq_invalid_iff :
    run i? source = some (.invalid f) ↔
      ∃ i, Asks i? source i ∧ (evaluation i source).Finds f := by
  by_cases h : ∃ i, Asks i? source i
  · obtain ⟨i, hi⟩ := h
    rw [run_of_asks hi, Option.map_eq_some_iff]
    constructor
    · rintro ⟨ending, hending, hverdict⟩
      exact ⟨i, hi, (verdictOf_eq_invalid_iff hending).1 hverdict⟩
    · rintro ⟨j, hj, hfinds⟩
      obtain rfl := hi.unique hj
      obtain ⟨status, hstatus⟩ := hfinds.exited
      exact ⟨_, hstatus, (verdictOf_eq_invalid_iff hstatus).2 hfinds⟩
  · rw [run_of_not_asks (not_exists.1 h)]
    refine iff_of_false nofun ?_
    rintro ⟨i, hi, -⟩
    exact h ⟨i, hi⟩

theorem run_eq_valid_iff :
    run i? source = some .valid ↔ ∀ i, Asks i? source i →
      (∃ ending, (evaluation i source).ending? = some ending) ∧
        ∀ f, ¬(evaluation i source).Finds f := by
  by_cases h : ∃ i, Asks i? source i
  · obtain ⟨i, hi⟩ := h
    rw [run_of_asks hi, Option.map_eq_some_iff]
    constructor
    · rintro ⟨ending, hending, hverdict⟩ j hj
      obtain rfl := hi.unique hj
      exact ⟨⟨ending, hending⟩, (verdictOf_eq_valid_iff hending).1 hverdict⟩
    · intro hall
      obtain ⟨⟨ending, hending⟩, hfinds⟩ := hall i hi
      exact ⟨ending, hending, (verdictOf_eq_valid_iff hending).2 hfinds⟩
  · rw [run_of_not_asks (not_exists.1 h)]
    exact iff_of_true rfl fun i hi => absurd ⟨i, hi⟩ h

end SyntaxCheck

namespace Runner

variable {σ : Type} {r : Runner σ}

/-- A runner has an interpreter exactly when it is ready. -/
theorem isSome_handle?_iff : r.handle?.isSome ↔ r.state = .ready := by
  rw [handle?, state]
  cases r.lifecycle.slot with
  | vacant | starting => exact iff_of_false nofun nofun
  | ready h => exact iff_of_true rfl rfl

theorem reply?_checkSyntax [Store σ] (source : String) :
    r.reply? (r.call (.checkSyntax source)).2 =
      (SyntaxCheck.run (r.handle?.map Handle.interpreter) source).map .verdict := by
  rw [call]
  dsimp only
  cases SyntaxCheck.run (r.handle?.map Handle.interpreter) source <;> rfl

end Runner

namespace SyntaxCheck

/-- A check comes to an error exactly if it asks an interpreter that finds this
    error. It comes to none exactly if the interpreter that it asks, if it asks one,
    comes to an end and finds nothing. There is an error in the result exactly if the
    source does not count as valid. And a runner that is asked for a check changes in
    nothing, neither in its state nor in what it asked of the network; it takes the
    interpreter it has, and calls every source valid until it is ready. -/
theorem fails_open (i? : Option Interpreter) (source : String) :
    (∀ f, run i? source = some (.invalid f) ↔
      ∃ i, Asks i? source i ∧ (evaluation i source).Finds f) ∧
    (run i? source = some .valid ↔ ∀ i, Asks i? source i →
      (∃ ending, (evaluation i source).ending? = some ending) ∧
        ∀ f, ¬(evaluation i source).Finds f) ∧
    (∀ v : SyntaxVerdict, v = .valid ↔ v.fault? = none) ∧
    ∀ (σ : Type) [Store σ] (r : Runner σ),
      (r.call (.checkSyntax source)).1 = r ∧
      (r.state ≠ .ready →
        r.reply? (r.call (.checkSyntax source)).2 = some (.verdict .valid)) ∧
      (r.state = .ready → ∃ h, r.handle? = some h ∧
        r.reply? (r.call (.checkSyntax source)).2 =
          (run (some h.interpreter) source).map .verdict) := by
  refine ⟨fun f => run_eq_invalid_iff, run_eq_valid_iff, fun v => ?_,
    fun σ _ r => ⟨rfl, fun hstate => ?_, fun hstate => ?_⟩⟩
  · cases v with
    | valid => exact iff_of_true rfl rfl
    | invalid f => exact iff_of_false nofun nofun
  · rw [Ne, ← Runner.isSome_handle?_iff, Bool.not_eq_true, Option.isSome_eq_false_iff,
      Option.isNone_iff_eq_none] at hstate
    rw [Runner.reply?_checkSyntax, hstate]
    rfl
  · obtain ⟨h, hh⟩ := Option.isSome_iff_exists.1 (Runner.isSome_handle?_iff.2 hstate)
    exact ⟨h, hh, by rw [Runner.reply?_checkSyntax, hh, Option.map_some]⟩

/-- An interpreter that warns of something, reports an error without a class in the
    third line of every source and exits with status 1. -/
def rejecting : Interpreter where
  image :=
    { start? := some (.function 0 0)
      missing? := none
      initializes := true
      run := fun _ =>
        .write 2 [119, 10] <|
        .write 2 (Utf8.encode "\x1erbrun:syntax:::PGNvZGU+OjM6IG9kZA==:\r\n\n".toList) <|
        .halt (.exited 1) }
  arguments := []
  capacity := 64

/-- The check comes to that error. -/
theorem fails_open_of_rejecting :
    run (some rejecting) "x =" = some (.invalid ⟨"odd", 3, 1⟩) := by
  have hclosed : Diagnostics.Closed "w\n".toList "syntax:::PGNvZGU+OjM6IG9kZA==:".toList
      ("w\n".toList ++ (Report.marker ++ "syntax:::PGNvZGU+OjM6IG9kZA==:".toList) ++
        "\r\n\n".toList) :=
    .intro (by decide) (by decide) (by decide) (List.all_eq_true.1 (by decide))
  have hcaptured : Utf8.decode (evaluation rejecting "x =").streams.diagnostics.bytes =
      "w\n".toList ++ (Report.marker ++ "syntax:::PGNvZGU+OjM6IG9kZA==:".toList) ++
        "\r\n\n".toList := by decide
  have hsays : Report.Says "syntax:::PGNvZGU+OjM6IG9kZA==:".toList
      (.rejected (Report.exceptionOf [] [] (Utf8.encode "<code>:3: odd".toList) [])) :=
    ⟨[], [], Utf8.encode "<code>:3: odd".toList, [], by decide, rfl⟩
  refine (fails_open (some rejecting) "x =").1 _ |>.2 ⟨rejecting, ⟨rfl, by decide, by decide⟩,
    ⟨1, rfl⟩, _, _, _, hcaptured ▸ hclosed, hsays, ?_⟩
  decide

end SyntaxCheck

end Playpen
