import Playpen.Proofs.Numeral
import Playpen.Proofs.Race
import Playpen.Runner
import Playpen.Store.Memory

/-!
# The limit that a message names

Whoever is told that a run took too long reads a number and a unit, which stand for a
duration (`Duration.IsQuantity`). It is the limit of that run cut to milliseconds, so
limits that are a millisecond or more apart are told in different words
(`Runner.names_limit`). Of a limit below one millisecond nothing is left: the message
names no time at all, although a limit of no time is refused.
-/

namespace Playpen

namespace Duration

/-- The units that a duration is told in, with their nanoseconds. -/
def units : List (String × Nat) :=
  [("second", 1000000000), ("seconds", 1000000000), ("ms", 1000000)]

/-- The text is a number in decimal with a unit, and so many of it are the duration. -/
inductive IsQuantity : List Char → Duration → Prop
  | intro {digits : List Char} {unit : String} {nanos : Nat} : Numeral.IsDigits digits →
      (unit, nanos) ∈ units →
      IsQuantity (digits ++ ' ' :: unit.toList) ⟨Nat.ofDigitChars 10 digits 0 * nanos⟩

/-- What is left of a duration without the part of a millisecond. -/
def cut (d : Duration) : Duration := .ofMillis d.millis

variable {d d' r r' : Duration} {cs : List Char}

/-- A text is read in one way: the number ends at the first character that is no
    digit, and no two units have the same name. -/
theorem IsQuantity.unique (h : IsQuantity cs r) (h' : IsQuantity cs r') : r = r' := by
  obtain ⟨hdigits, hunit⟩ := h
  rename_i digits unit nanos
  generalize hcs : digits ++ ' ' :: unit.toList = cs at h'
  obtain ⟨hdigits', hunit'⟩ := h'
  rename_i digits' unit' nanos'
  have hspace : ¬Char.isDigit ' ' := by decide
  have hnumber : digits = digits' := by
    have htake := congrArg (List.takeWhile Char.isDigit) hcs
    rwa [List.takeWhile_append_of_pos hdigits.2, List.takeWhile_append_of_pos hdigits'.2,
      List.takeWhile_cons_of_neg hspace, List.takeWhile_cons_of_neg hspace, List.append_nil,
      List.append_nil] at htake
  subst hnumber
  obtain rfl : unit = unit' :=
    String.toList_inj.1 (List.cons.inj (List.append_cancel_left hcs)).2
  have hnames : ∀ u ∈ units, ∀ v ∈ units, u.1 = v.1 → u.2 = v.2 := by decide
  rw [show nanos = nanos' from hnames _ hunit _ hunit' rfl]

theorem isQuantity_repr {unit : String} {nanos : Nat} (text : String)
    (hunit : (unit, nanos) ∈ units) (htext : text.toList = ' ' :: unit.toList) (n : Nat) :
    IsQuantity (n.repr ++ text).toList ⟨n * nanos⟩ := by
  have h := IsQuantity.intro (Numeral.isDigits_toDigits n) hunit
  rwa [Nat.ofDigitChars_ten_toDigits, ← htext, ← Nat.toList_repr, ← String.toList_append] at h

/-- A duration is told without the part of a millisecond, in whichever unit. -/
theorem isQuantity_describe (d : Duration) : IsQuantity d.describe.toList d.cut := by
  have hsecond : ("second", 1000000000) ∈ units := by decide
  have hseconds : ("seconds", 1000000000) ∈ units := by decide
  have hms : ("ms", 1000000) ∈ units := by decide
  rw [describe, cut, ofMillis]
  split_ifs with hone hwhole
  · rw [hone]
    exact isQuantity_repr " second" hsecond rfl 1
  · -- Nothing is lost by the larger unit, as the milliseconds are whole seconds.
    have h := isQuantity_repr " seconds" hseconds rfl (d.millis / 1000)
    rwa [show d.millis / 1000 * 1000000000 = d.millis * 1000000 by omega] at h
  · exact isQuantity_repr " ms" hms rfl d.millis

theorem isQuantity_describe_iff : IsQuantity d.describe.toList r ↔ r = d.cut :=
  ⟨fun h => h.unique (isQuantity_describe d), fun h => h ▸ isQuantity_describe d⟩

theorem not_isZero_iff : ¬d.isZero ↔ 0 < d.nanos := by
  rw [isZero, beq_iff_eq, Nat.pos_iff_ne_zero]

theorem cut_nanos (d : Duration) : d.cut.nanos = d.nanos / 1000000 * 1000000 :=
  rfl

theorem cut_nanos_le (d : Duration) : d.cut.nanos ≤ d.nanos := by
  rw [cut_nanos]
  omega

theorem lt_cut_nanos_add (d : Duration) : d.nanos < d.cut.nanos + 1000000 := by
  rw [cut_nanos]
  omega

/-- Nothing is left of what is below one millisecond, and only of that. -/
theorem cut_nanos_pos_iff : 0 < d.cut.nanos ↔ 1000000 ≤ d.nanos := by
  rw [cut_nanos]
  omega

theorem cut_inj : d.cut = d'.cut ↔ d.millis = d'.millis := by
  rw [cut, cut, ofMillis, ofMillis, mk.injEq]
  omega

/-- Durations are told in the same words if they have the same whole milliseconds. -/
theorem describe_inj : d.describe = d'.describe ↔ d.millis = d'.millis := by
  constructor
  · intro h
    have hd := isQuantity_describe d
    rw [h] at hd
    exact cut_inj.1 (isQuantity_describe_iff.1 hd)
  · intro h
    rw [describe, describe, h]

end Duration

namespace Failure

variable {d d' r : Duration}

/-- The message says that a run took longer than allowed, and this is the limit that
    it names. -/
def Names (message : String) (r : Duration) : Prop :=
  ∃ quantity : String, Duration.IsQuantity quantity.toList r ∧
    message = "Execution timed out after " ++ quantity ++ ". Your code may have an infinite loop."

theorem timedOut_message_eq {quantity : String} :
    (timedOut d).message =
        "Execution timed out after " ++ quantity ++ ". Your code may have an infinite loop." ↔
      d.describe = quantity :=
  (String.append_left_inj _).trans (String.append_right_inj _)

/-- The message names the limit cut to milliseconds and no other. -/
theorem names_message_iff : Names (timedOut d).message r ↔ r = d.cut := by
  constructor
  · rintro ⟨quantity, hquantity, hmessage⟩
    obtain rfl := timedOut_message_eq.1 hmessage
    exact Duration.isQuantity_describe_iff.1 hquantity
  · rintro rfl
    exact ⟨d.describe, Duration.isQuantity_describe d, rfl⟩

theorem timedOut_message_inj :
    (timedOut d).message = (timedOut d').message ↔ d.millis = d'.millis :=
  timedOut_message_eq.trans Duration.describe_inj

end Failure

/-- A run is given up after the limit that was set for it, and no other. -/
theorem Race.Returns.eq_timedOut {s : Session} {r : Request} {epoch : Nat} {o : Outcome}
    (h : Returns s r epoch o) (ho : o.isTimeout) : o = .timedOut r.timeout := by
  by_cases hblank : Text.isBlank r.source.toList
  · obtain rfl := (returns_iff_of_blank hblank).1 h
    cases ho
  · obtain heval | h := (returns_iff hblank).1 h
    · cases (Session.isTimeout_of_evaluate heval).symm.trans ho
    · exact h

namespace Runner

variable {σ : Type} [Store σ] {x : Runner σ} {source : String} {input? : Option String}
  {d : Duration}

/-- A run with a limit is refused only if that is zero. -/
theorem executes_iff :
    (∃ caller r, (x.call (.execute source input? (some d))).2 = .executing caller r) ↔
      0 < d.nanos := by
  rw [← Duration.not_isZero_iff]
  constructor
  · rintro ⟨caller, r, hcall⟩ hzero
    rw [call_execute_of_zero (some d) hzero] at hcall
    cases hcall
  · intro hzero
    rw [call_execute_of_not_zero (some d) hzero]
    exact ⟨_, _, rfl⟩

theorem timeout_eq_of_executes {caller : Nat} {r : Request}
    (h : (x.call (.execute source input? (some d))).2 = .executing caller r) : r.timeout = d := by
  have hzero := Duration.not_isZero_iff.2 (executes_iff.1 ⟨caller, r, h⟩)
  rw [call_execute_of_not_zero (some d) hzero] at h
  obtain ⟨-, rfl⟩ := Task.executing.inj h
  rfl

/-- A call with a limit is taken unless that is zero, and if its run is given up, however
    that goes, it is told so in the message of the limit. This names exactly one duration,
    which is at most the limit and less than a millisecond below it, and which is some
    time at all exactly if the limit is a millisecond or more. Two limits have the same
    message exactly if they have the same whole milliseconds, so never if they are a
    millisecond or more apart. -/
theorem names_limit (x : Runner σ) (source : String) (input? : Option String) (d : Duration) :
    ((∃ caller r, (x.call (.execute source input? (some d))).2 = .executing caller r) ↔
      0 < d.nanos) ∧
    (∀ caller r, (x.call (.execute source input? (some d))).2 = .executing caller r →
      ∀ s epoch o, Race.Returns s r epoch o → o.isTimeout →
        o.error? = some (Failure.timedOut d).message) ∧
    (∃ named : Duration, (∀ r, Failure.Names (Failure.timedOut d).message r ↔ r = named) ∧
      named.nanos ≤ d.nanos ∧ d.nanos < named.nanos + 1000000 ∧
      (0 < named.nanos ↔ 1000000 ≤ d.nanos)) ∧
    ∀ d' : Duration,
      ((Failure.timedOut d).message = (Failure.timedOut d').message ↔ d.millis = d'.millis) ∧
      (d.nanos + 1000000 ≤ d'.nanos →
        (Failure.timedOut d).message ≠ (Failure.timedOut d').message) := by
  refine ⟨executes_iff, fun caller r hcall s epoch o hreturns ho => ?_,
    ⟨d.cut, fun r => Failure.names_message_iff, d.cut_nanos_le, d.lt_cut_nanos_add,
      Duration.cut_nanos_pos_iff⟩,
    fun d' => ⟨Failure.timedOut_message_inj, fun hapart heq => ?_⟩⟩
  · rw [hreturns.eq_timedOut ho, timeout_eq_of_executes hcall]
    rfl
  · have hmillis := Failure.timedOut_message_inj.1 heq
    rw [Duration.millis, Duration.millis] at hmillis
    omega

/-- A runner that nobody has called yet. -/
def untouched : Runner MemoryStore :=
  create Settings.default (fun _ => none) (.ofStore? none)

/-- With a limit of half a millisecond a run is taken, and told that it took longer than
    no time at all. -/
theorem names_limit_of_brief :
    (∃ caller r,
      (untouched.call (.execute "loop" none (some ⟨500000⟩))).2 = .executing caller r ∧
        (Race.spinning.run r).error? =
          some "Execution timed out after 0 seconds. Your code may have an infinite loop.") ∧
    Failure.Names (Failure.timedOut ⟨500000⟩).message ⟨0⟩ ∧
    (Failure.timedOut ⟨500000⟩).message ≠ (Failure.timedOut ⟨2000000⟩).message := by
  obtain ⟨htaken, htold, ⟨⟨n⟩, hnamed, -, -, hpos⟩, hdiffer⟩ :=
    names_limit untouched "loop" none ⟨500000⟩
  obtain ⟨caller, r, hcall⟩ := htaken.2 (by decide)
  have htimeout : (Race.spinning.run r).isTimeout := by
    obtain ⟨-, rfl⟩ := Task.executing.inj hcall
    rfl
  obtain rfl : n = 0 := Nat.eq_zero_of_not_pos (hpos.not.2 (by decide))
  refine ⟨⟨caller, r, hcall, ?_⟩, (hnamed _).2 rfl, (hdiffer _).2 (by decide)⟩
  rw [htold caller r hcall Race.spinning 0 _ (Race.returns_run _ _ 0) htimeout]
  decide

end Runner

end Playpen
