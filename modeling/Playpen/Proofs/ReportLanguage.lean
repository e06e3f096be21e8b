import Mathlib.Data.List.Basic
import Playpen.Proofs.ReportRoundTrip

/-!
# The language of reports

What can be read as a report is said here without the reader (`Report.Says`): the
kind before the first colon, a status in decimal, or four fields that are
encodings. The reader accepts just this and reads it as just that
(`read_language`). Encodings are the only texts that are decoded and are told
apart by their bytes, so a report of an exception is made of one list of fields.
-/

namespace Playpen.Report

/-! ## The fields of a report -/

/-- Fields are read exactly if they are encodings. -/
theorem readFields_eq_ok_iff {fields texts : List (List Char)} :
    readFields fields = .ok texts ↔
      ∃ bss : List Bytes, fields = bss.map Base64.encode ∧ texts = bss.map Utf8.decode := by
  constructor
  · intro h
    induction fields generalizing texts with
    | nil => exact ⟨[], rfl, (Except.ok.inj h).symm⟩
    | cons field fields ih =>
      rw [readFields] at h
      cases hfield : Base64.decode field with
      | error why =>
        rw [hfield] at h
        cases h
      | ok bs =>
        cases hrest : readFields fields with
        | error why =>
          rw [hfield, hrest] at h
          cases h
        | ok rest =>
          rw [hfield, hrest] at h
          obtain rfl := Except.ok.inj h
          obtain ⟨bss, rfl, rfl⟩ := ih hrest
          obtain rfl := Base64.decode_eq_ok_iff.1 hfield
          exact ⟨bs :: bss, rfl, rfl⟩
  · rintro ⟨bss, rfl, rfl⟩
    exact readFields_encode bss

/-- What stands before the first colon. -/
def kindIn (body : List Char) : List Char := body.takeWhile (· != ':')

/-- What stands between the first colon and the next. -/
def statusIn (body : List Char) : List Char := kindIn (body.dropWhile (· != ':')).tail

/-- The texts that say this. -/
def Says (body : List Char) : Report → Prop
  | .completed => kindIn body = "ok".toList
  | .exited status => kindIn body = "exit".toList ∧ Numeral.IsDecimal (statusIn body) status.toInt
  | .raised e => ∃ className ancestors message backtrace,
      body = bodyOf "raise".toList [className, ancestors, message, backtrace] ∧
        e = exceptionOf className ancestors message backtrace
  | .rejected e => ∃ className ancestors message backtrace,
      body = bodyOf "syntax".toList [className, ancestors, message, backtrace] ∧
        e = exceptionOf className ancestors message backtrace

theorem headD_tail_split (body : List Char) :
    (Text.split ':' body).tail.headD [] = statusIn body := by
  rw [Text.tail_split, statusIn]
  cases body.dropWhile (· != ':') with
  | nil => rfl
  | cons c rest => exact Text.headD_split rest

theorem read_of_ok {body : List Char} (h : kindIn body = "ok".toList) :
    read body = .ok .completed := by
  simp only [read, Text.headD_split]
  exact if_pos h

/-- With that kind only the status counts. -/
theorem read_eq_ok_iff_of_exit {body : List Char} {r : Report} (h : kindIn body = "exit".toList) :
    read body = .ok r ↔ ∃ n, Numeral.readInt32 (statusIn body) = .ok n ∧ r = .exited n := by
  have hok : kindIn body ≠ "ok".toList := by rw [h]; decide
  rw [kindIn, ← Text.headD_split] at h hok
  simp only [read, headD_tail_split, if_neg hok, if_pos h]
  cases Numeral.readInt32 (statusIn body) with
  | error why =>
    constructor
    · intro h
      cases h
    · rintro ⟨n, hn, -⟩
      cases hn
  | ok n =>
    refine ⟨fun h => ⟨n, rfl, (Except.ok.inj h).symm⟩, ?_⟩
    rintro ⟨m, hm, rfl⟩
    rw [Except.ok.inj hm]

/-- A report of any other kind has four fields. -/
theorem exists_fields_of_read {body : List Char} {r : Report} (hok : kindIn body ≠ "ok".toList)
    (hexit : kindIn body ≠ "exit".toList) (h : read body = .ok r) :
    ∃ kind a b c d, body = bodyOf kind [a, b, c, d] ∧
      (kind = "raise".toList ∧ r = .raised (exceptionOf a b c d) ∨
        kind = "syntax".toList ∧ r = .rejected (exceptionOf a b c d)) := by
  rw [kindIn, ← Text.headD_split] at hok hexit
  cases hs : Text.split ':' body with
  | nil => exact absurd hs (Text.split_ne_nil ':' body)
  | cons kind fields =>
    rw [hs, List.headD_cons] at hok hexit
    simp only [read, hs, List.headD_cons, List.tail_cons, if_neg hok, if_neg hexit] at h
    split at h
    · cases h
    · rename_i className ancestors message backtrace hfields
      obtain ⟨bss, rfl, htexts⟩ := readFields_eq_ok_iff.1 hfields
      have hbody := (Text.split_eq_cons_iff.1 hs).1
      obtain ⟨a, bss, rfl, rfl, h₁⟩ := List.map_eq_cons_iff.1 htexts.symm
      obtain ⟨b, bss, rfl, rfl, h₂⟩ := List.map_eq_cons_iff.1 h₁
      obtain ⟨c, bss, rfl, rfl, h₃⟩ := List.map_eq_cons_iff.1 h₂
      obtain ⟨d, bss, rfl, rfl, h₄⟩ := List.map_eq_cons_iff.1 h₃
      obtain rfl := List.map_eq_nil_iff.1 h₄
      refine ⟨kind, a, b, c, d, hbody, ?_⟩
      split at h
      · rename_i hkind
        exact .inl ⟨hkind, (Except.ok.inj h).symm⟩
      split at h
      · rename_i hkind
        exact .inr ⟨hkind, (Except.ok.inj h).symm⟩
      · cases h
    · cases h

/-- A text is read as a report exactly if it says that. -/
theorem read_eq_ok_iff {body : List Char} {r : Report} : read body = .ok r ↔ Says body r := by
  constructor
  · intro h
    by_cases hok : kindIn body = "ok".toList
    · obtain rfl := Except.ok.inj ((read_of_ok hok).symm.trans h)
      exact hok
    by_cases hexit : kindIn body = "exit".toList
    · obtain ⟨n, hn, rfl⟩ := (read_eq_ok_iff_of_exit hexit).1 h
      exact ⟨hexit, Numeral.readInt32_eq_ok_iff.1 hn⟩
    obtain ⟨kind, a, b, c, d, hbody, ⟨rfl, rfl⟩ | ⟨rfl, rfl⟩⟩ := exists_fields_of_read hok hexit h
    · exact ⟨a, b, c, d, hbody, rfl⟩
    · exact ⟨a, b, c, d, hbody, rfl⟩
  · intro h
    match r with
    | .completed => exact read_of_ok h
    | .exited n =>
      obtain ⟨hexit, hn⟩ := h
      exact (read_eq_ok_iff_of_exit hexit).2 ⟨n, Numeral.readInt32_eq_ok_iff.2 hn, rfl⟩
    | .raised e =>
      obtain ⟨a, b, c, d, rfl, rfl⟩ := h
      exact read_raise a b c d
    | .rejected e =>
      obtain ⟨a, b, c, d, rfl, rfl⟩ := h
      exact read_syntax a b c d

/-- What follows the status does not count, and neither do zeros before it. -/
example : read "exit:-007:x".toList = .ok (.exited (-7)) := by decide

/-- The bits of the last character that no byte uses have to be zero. -/
example : (read "raise:QR==:::".toList).isOk = false := by decide

end Playpen.Report
