import Mathlib.Tactic.Common
import Mathlib.Tactic.Ring
import Playpen.Bytes.Utf8

/-!
# Decoding what was encoded

A text that was encoded is read back (`decode_encode`), whatever follows it.
Bytes that are wrong do no harm beyond the next byte of ASCII: such a byte never
belongs to a longer sequence, so bytes that it divides are read as two texts,
one after the other (`decode_append_ascii`).
-/

namespace Playpen.Utf8

/-- The text of bytes of which any may be wrong. -/
def text (bs : Bytes) : String := String.ofList (decode bs)

/-! ## Sequences that have begun -/

theorem decodeFrom_none_cons (b : UInt8) (bs : Bytes) :
    decodeFrom none (b :: bs) = match lead b with
      | .single c => c :: decodeFrom none bs
      | .opens p => decodeFrom (some p) bs
      | .none => replacement :: decodeFrom none bs := rfl

/-- The sequence goes on with bytes above those of ASCII, and stands for a
    character above those of ASCII even if all that follow are the least that
    may. -/
structure Partial.IsOpen (p : Partial) : Prop where
  low_ge : 0x80 ≤ p.low.toNat
  missing_pos : 0 < p.missing
  bits_ge : 0x80 ≤ p.bits * 64 ^ p.missing + (p.low.toNat - 0x80) * 64 ^ (p.missing - 1)

theorem isOpen_lead {b : UInt8} {p : Partial} (h : lead b = .opens p) : p.IsOpen := by
  simp only [lead] at h
  split at h
  · exact absurd h (by simp)
  split at h
  · exact absurd h (by simp)
  -- The first byte says how many follow, and from which number the next is.
  split at h
  · rw [← Lead.opens.inj h]
    exact ⟨by simp, by simp, by simp; omega⟩
  split at h
  · rw [← Lead.opens.inj h]
    refine ⟨?_, by simp, ?_⟩
    all_goals
      dsimp only
      split <;> simp <;> omega
  split at h
  · rw [← Lead.opens.inj h]
    refine ⟨?_, by simp, ?_⟩
    all_goals
      dsimp only
      split <;> simp <;> omega
  · exact absurd h (by simp)

theorem Partial.low_le_of_accepts {p : Partial} {b : UInt8} (h : p.accepts b) :
    p.low.toNat ≤ b.toNat := by
  rw [Partial.accepts, Bool.and_eq_true, decide_eq_true_eq] at h
  exact UInt8.le_iff_toNat_le.1 h.1

theorem Partial.missing_extend (p : Partial) (b : UInt8) :
    (p.extend b).missing = p.missing - 1 := rfl

theorem Partial.bits_extend (p : Partial) (b : UInt8) :
    (p.extend b).bits = p.bits * 64 + (b.toNat - 0x80) := rfl

theorem Partial.IsOpen.extend {p : Partial} (hp : p.IsOpen) {b : UInt8} (hb : p.accepts b)
    (hm : (p.extend b).missing ≠ 0) : (p.extend b).IsOpen := by
  have hlow := Partial.low_le_of_accepts hb
  have hpos := hp.missing_pos
  have hbits := hp.bits_ge
  rw [Partial.missing_extend] at hm
  obtain ⟨k, hk⟩ : ∃ k, p.missing = k + 2 := ⟨p.missing - 2, by omega⟩
  refine ⟨Nat.le_refl _, Nat.pos_of_ne_zero hm, ?_⟩
  rw [hk] at hbits
  calc 0x80 ≤ p.bits * 64 ^ (k + 2) + (p.low.toNat - 0x80) * 64 ^ (k + 1) := hbits
    _ ≤ p.bits * 64 ^ (k + 2) + (b.toNat - 0x80) * 64 ^ (k + 1) :=
      Nat.add_le_add_left (Nat.mul_le_mul_right _ (Nat.sub_le_sub_right hlow _)) _
    _ = (p.bits * 64 + (b.toNat - 0x80)) * 64 ^ (k + 1) := by ring
    _ ≤ (p.extend b).bits * 64 ^ (p.extend b).missing + _ := by
      rw [Partial.missing_extend, hk]
      exact Nat.le_add_right _ _

theorem ofNat_eq_newline {n : Nat} (h : Char.ofNat n = '\n') : n = 10 := by
  by_cases hn : n.isValidChar
  · rw [Char.ofNat, dif_pos hn] at h
    exact congrArg Char.toNat h
  · rw [Char.ofNat, dif_neg hn] at h
    exact absurd h (by decide)

/-- A completed sequence is no newline. -/
theorem Partial.IsOpen.ofNat_ne_newline {p : Partial} (hp : p.IsOpen) {b : UInt8}
    (hb : p.accepts b) (hm : (p.extend b).missing = 0) : Char.ofNat (p.extend b).bits ≠ '\n' := by
  have hlow := Partial.low_le_of_accepts hb
  have hpos := hp.missing_pos
  have hbits := hp.bits_ge
  rw [Partial.missing_extend] at hm
  rw [show p.missing = 1 by omega] at hbits
  intro h
  have hn := ofNat_eq_newline h
  rw [Partial.bits_extend] at hn
  omega

/-- The sequence, if there is one, is open. -/
def AllOpen (unfinished? : Option Partial) : Prop := ∀ p ∈ unfinished?, p.IsOpen

theorem allOpen_none : AllOpen none := fun _ h => nomatch h

theorem allOpen_some {p : Partial} (hp : p.IsOpen) : AllOpen (some p) :=
  fun _ h => Option.some.inj h ▸ hp

theorem of_filter_accepts {unfinished? : Option Partial} (hu : AllOpen unfinished?) {b : UInt8}
    {p : Partial} (h : unfinished?.filter (·.accepts b) = some p) : p.IsOpen ∧ p.accepts b := by
  rw [Option.filter_eq_some_iff] at h
  exact ⟨hu p h.1, h.2⟩

/-! ## Bytes of ASCII -/

theorem filter_accepts_of_ascii {unfinished? : Option Partial} (hu : AllOpen unfinished?)
    {b : UInt8} (hb : b < 0x80) : unfinished?.filter (·.accepts b) = none := by
  rw [Option.filter_eq_none_iff]
  intro p hp haccepts
  have hlow := (hu p hp).low_ge.trans (Partial.low_le_of_accepts haccepts)
  exact absurd (UInt8.lt_iff_toNat_lt.1 hb) (Nat.not_lt.2 hlow)

/-- What is wrong before a byte of ASCII has no effect after it. -/
theorem decodeFrom_append_ascii {b : UInt8} (hb : b < 0x80) (rest : Bytes) :
    ∀ (bs : Bytes) {unfinished? : Option Partial}, AllOpen unfinished? →
      decodeFrom unfinished? (bs ++ b :: rest) = decodeFrom unfinished? bs ++ decode (b :: rest)
  | [], unfinished?, hu => by
    have hf := filter_accepts_of_ascii hu hb
    simp only [List.nil_append, decode, decodeFrom, hf, Option.filter_none, Option.isSome_none]
    simp
  | a :: bs, unfinished?, hu => by
    have ih {u? : Option Partial} (hu : AllOpen u?) := decodeFrom_append_ascii hb rest bs hu
    simp only [List.cons_append, decodeFrom]
    -- The byte goes on with the sequence, or is read as the start of another.
    cases hp : unfinished?.filter (·.accepts a) with
    | some p =>
      obtain ⟨hopen, haccepts⟩ := of_filter_accepts hu hp
      dsimp only
      split
      · rw [ih allOpen_none, List.cons_append]
      · exact ih (allOpen_some (hopen.extend haccepts ‹_›))
    | none =>
      dsimp only
      rw [List.append_assoc]
      congr 1
      cases h : lead a with
      | single c => rw [ih allOpen_none, List.cons_append]
      | opens p => exact ih (allOpen_some (isOpen_lead h))
      | none => rw [ih allOpen_none, List.cons_append]

/-- Bytes that a byte of ASCII divides are read as two texts. -/
theorem decode_append_ascii {b : UInt8} (hb : b < 0x80) (bs rest : Bytes) :
    decode (bs ++ b :: rest) = decode bs ++ decode (b :: rest) :=
  decodeFrom_append_ascii hb rest bs allOpen_none

/-! ## Newlines -/

theorem decode_newline_cons (bs : Bytes) : decode (10 :: bs) = '\n' :: decode bs := rfl

theorem lead_eq_newline {b : UInt8} (h : lead b = .single '\n') : b = 10 := by
  simp only [lead] at h
  split at h
  · exact UInt8.toNat_inj.1 (ofNat_eq_newline (Lead.single.inj h))
  repeat' split at h
  all_goals exact absurd h (by simp)

/-- A newline is read from nothing but a newline. -/
theorem newline_mem_decodeFrom : ∀ (bs : Bytes) {unfinished? : Option Partial},
    AllOpen unfinished? → '\n' ∈ decodeFrom unfinished? bs → 10 ∈ bs
  | [], unfinished?, _, h => by
    rw [decodeFrom] at h
    split at h <;> exact absurd h (by decide)
  | a :: bs, unfinished?, hu, h => by
    have ih {u? : Option Partial} (hu : AllOpen u?) (h : '\n' ∈ decodeFrom u? bs) :
        10 ∈ a :: bs := List.mem_cons_of_mem a (newline_mem_decodeFrom bs hu h)
    rw [decodeFrom] at h
    cases hp : unfinished?.filter (·.accepts a) with
    | some p =>
      obtain ⟨hopen, haccepts⟩ := of_filter_accepts hu hp
      rw [hp] at h
      dsimp only at h
      split at h
      · rcases List.mem_cons.1 h with h | h
        · exact absurd h.symm (hopen.ofNat_ne_newline haccepts ‹_›)
        · exact ih allOpen_none h
      · exact ih (allOpen_some (hopen.extend haccepts ‹_›)) h
    | none =>
      rw [hp] at h
      dsimp only at h
      rcases List.mem_append.1 h with h | h
      · split at h <;> exact absurd h (by decide)
      cases hlead : lead a with
      | single c =>
        rw [hlead] at h
        rcases List.mem_cons.1 h with rfl | h
        · exact List.mem_cons.2 (.inl (lead_eq_newline hlead).symm)
        · exact ih allOpen_none h
      | opens p =>
        rw [hlead] at h
        exact ih (allOpen_some (isOpen_lead hlead)) h
      | none =>
        rw [hlead] at h
        rcases List.mem_cons.1 h with h | h
        · exact absurd h (by decide)
        · exact ih allOpen_none h

theorem newline_mem_decode {bs : Bytes} (h : '\n' ∈ decode bs) : 10 ∈ bs :=
  newline_mem_decodeFrom bs allOpen_none h

theorem decodeFrom_some_ne_nil (bs : Bytes) (p : Partial) : decodeFrom (some p) bs ≠ [] := by
  induction bs generalizing p with
  | nil => simp [decodeFrom]
  | cons b bs ih =>
    rw [decodeFrom]
    cases hf : (some p).filter (·.accepts b) with
    | some q =>
      dsimp only
      split
      · exact List.cons_ne_nil _ _
      · exact ih _
    | none => exact List.cons_ne_nil _ _

/-- Every byte leaves its mark in the text. -/
theorem decode_ne_nil {bs : Bytes} (h : bs ≠ []) : decode bs ≠ [] := by
  obtain ⟨b, rest, rfl⟩ := List.exists_cons_of_ne_nil h
  rw [decode, decodeFrom_none_cons]
  cases lead b with
  | single c => exact List.cons_ne_nil _ _
  | opens p => exact decodeFrom_some_ne_nil rest p
  | none => exact List.cons_ne_nil _ _

/-! ## Encoded characters -/

/-- The byte that carries the last six bits of `n` in the middle of a
    sequence. -/
def continuation (n : Nat) : UInt8 := UInt8.ofNat (n % 64 + 0x80)

theorem toNat_continuation (n : Nat) : (continuation n).toNat = n % 64 + 0x80 :=
  UInt8.toNat_ofNat_of_lt' (show n % 64 + 0x80 < 256 by omega)

theorem accepts_continuation {bits missing n : Nat} {low high : UInt8}
    (hlow : low.toNat ≤ n % 64 + 0x80) (hhigh : n % 64 + 0x80 ≤ high.toNat) :
    (Partial.mk bits missing low high).accepts (continuation n) := by
  rw [Partial.accepts, Bool.and_eq_true, decide_eq_true_eq, decide_eq_true_eq,
    UInt8.le_iff_toNat_le, UInt8.le_iff_toNat_le, toNat_continuation]
  exact ⟨hlow, hhigh⟩

theorem extend_continuation (bits missing n : Nat) (low high : UInt8) :
    (Partial.mk bits missing low high).extend (continuation n) =
      ⟨bits * 64 + n % 64, missing - 1, 0x80, 0xBF⟩ := by
  have hbits : (continuation n).toNat - 0x80 = n % 64 := Nat.sub_eq_of_eq_add (toNat_continuation n)
  rw [← hbits]
  rfl

/-- The last byte of a sequence completes its character. -/
theorem decodeFrom_last {bits n : Nat} {low high : UInt8} (hlow : low.toNat ≤ n % 64 + 0x80)
    (hhigh : n % 64 + 0x80 ≤ high.toNat) (bs : Bytes) :
    decodeFrom (some ⟨bits, 1, low, high⟩) (continuation n :: bs) =
      Char.ofNat (bits * 64 + n % 64) :: decodeFrom none bs := by
  rw [decodeFrom, Option.filter_some, if_pos (accepts_continuation hlow hhigh)]
  simp only [extend_continuation, Nat.sub_self, if_true]

/-- A byte in the middle of a sequence adds six bits. -/
theorem decodeFrom_more {bits k n : Nat} {low high : UInt8} (hlow : low.toNat ≤ n % 64 + 0x80)
    (hhigh : n % 64 + 0x80 ≤ high.toNat) (bs : Bytes) :
    decodeFrom (some ⟨bits, k + 2, low, high⟩) (continuation n :: bs) =
      decodeFrom (some ⟨bits * 64 + n % 64, k + 1, 0x80, 0xBF⟩) bs := by
  rw [decodeFrom, Option.filter_some, if_pos (accepts_continuation hlow hhigh)]
  simp only [extend_continuation, show k + 2 - 1 = k + 1 from rfl, Nat.add_one_ne_zero, if_false]

theorem lead_single {n : Nat} (h : n < 0x80) : lead (UInt8.ofNat n) = .single (Char.ofNat n) := by
  have hn : (UInt8.ofNat n).toNat = n := UInt8.toNat_ofNat_of_lt' (show n < 256 by omega)
  simp only [lead, hn, if_pos h]

theorem lead_two {n : Nat} (h₂ : 2 ≤ n) (h : n < 32) :
    lead (UInt8.ofNat (n + 0xC0)) = .opens ⟨n, 1, 0x80, 0xBF⟩ := by
  have hn : (UInt8.ofNat (n + 0xC0)).toNat = n + 0xC0 :=
    UInt8.toNat_ofNat_of_lt' (show n + 0xC0 < 256 by omega)
  simp only [lead, hn, Nat.add_sub_cancel]
  rw [if_neg (by omega), if_neg (by omega), if_pos (by omega)]

theorem lead_three {n : Nat} (h : n < 16) :
    lead (UInt8.ofNat (n + 0xE0)) =
      .opens ⟨n, 2, if n = 0 then 0xA0 else 0x80, if n = 0xD then 0x9F else 0xBF⟩ := by
  have hn : (UInt8.ofNat (n + 0xE0)).toNat = n + 0xE0 :=
    UInt8.toNat_ofNat_of_lt' (show n + 0xE0 < 256 by omega)
  simp only [lead, hn, Nat.add_sub_cancel]
  rw [if_neg (by omega), if_neg (by omega), if_neg (by omega), if_pos (by omega)]
  simp

theorem lead_four {n : Nat} (h : n < 5) :
    lead (UInt8.ofNat (n + 0xF0)) =
      .opens ⟨n, 3, if n = 0 then 0x90 else 0x80, if n = 4 then 0x8F else 0xBF⟩ := by
  have hn : (UInt8.ofNat (n + 0xF0)).toNat = n + 0xF0 :=
    UInt8.toNat_ofNat_of_lt' (show n + 0xF0 < 256 by omega)
  simp only [lead, hn, Nat.add_sub_cancel]
  rw [if_neg (by omega), if_neg (by omega), if_neg (by omega), if_neg (by omega),
    if_pos (by omega)]
  simp

/-- The first character of a text that was encoded is read back. -/
theorem decode_utf8EncodeChar_append (c : Char) (bs : Bytes) :
    decode (String.utf8EncodeChar c ++ bs) = c :: decode bs := by
  have hval : c.val.toNat = c.toNat := rfl
  have hvalid : c.toNat < 0xD800 ∨ 0xDFFF < c.toNat ∧ c.toNat < 0x110000 := c.valid
  rw [String.utf8EncodeChar, hval, decode, decode]
  -- One case for each length of a sequence, which its first byte says.
  split
  · rw [List.singleton_append, decodeFrom_none_cons, lead_single (by omega), Char.ofNat_toNat]
  split
  · change decodeFrom none (UInt8.ofNat (c.toNat / 64 % 32 + 0xC0) ::
      continuation c.toNat :: bs) = _
    have hbits : c.toNat / 64 % 32 * 64 + c.toNat % 64 = c.toNat := by omega
    rw [decodeFrom_none_cons, lead_two (by omega) (by omega)]
    dsimp only
    rw [decodeFrom_last (by simp) (by simp; omega), hbits, Char.ofNat_toNat]
  split
  · change decodeFrom none (UInt8.ofNat (c.toNat / 4096 % 16 + 0xE0) ::
      continuation (c.toNat / 64) :: continuation c.toNat :: bs) = _
    have hbits : (c.toNat / 4096 % 16 * 64 + c.toNat / 64 % 64) * 64 + c.toNat % 64 = c.toNat := by
      omega
    rw [decodeFrom_none_cons, lead_three (by omega)]
    dsimp only
    rw [decodeFrom_more (by split <;> simp; omega) (by split <;> simp <;> omega),
      decodeFrom_last (by simp) (by simp; omega), hbits, Char.ofNat_toNat]
  · change decodeFrom none (UInt8.ofNat (c.toNat / 262144 % 8 + 0xF0) ::
      continuation (c.toNat / 4096) :: continuation (c.toNat / 64) :: continuation c.toNat :: bs) = _
    have hbits : ((c.toNat / 262144 % 8 * 64 + c.toNat / 4096 % 64) * 64 + c.toNat / 64 % 64) * 64 +
      c.toNat % 64 = c.toNat := by omega
    rw [decodeFrom_none_cons, lead_four (by omega)]
    dsimp only
    rw [decodeFrom_more (by split <;> simp; omega) (by split <;> simp <;> omega),
      decodeFrom_more (by simp) (by simp; omega), decodeFrom_last (by simp) (by simp; omega),
      hbits, Char.ofNat_toNat]

/-- A text that was encoded is read back, and then what follows it. -/
theorem decode_encode_append (cs : List Char) (bs : Bytes) :
    decode (encode cs ++ bs) = cs ++ decode bs := by
  induction cs with
  | nil => rfl
  | cons c cs ih =>
    rw [encode, List.flatMap_cons, ← encode, List.append_assoc, decode_utf8EncodeChar_append, ih,
      List.cons_append]

/-- A text that was encoded is read back. -/
theorem decode_encode (cs : List Char) : decode (encode cs) = cs := by
  have h := decode_encode_append cs []
  rwa [List.append_nil, show decode [] = [] from rfl, List.append_nil] at h

/-! ## Bytes that are characters of their own -/

/-- A byte below 0x80 is the only one of its character. -/
theorem toNat_of_mem_utf8EncodeChar {c : Char} {b : UInt8} (h : b ∈ String.utf8EncodeChar c)
    (hb : b.toNat < 0x80) : c.toNat = b.toNat := by
  have hval : c.val.toNat = c.toNat := rfl
  rw [String.utf8EncodeChar, hval] at h
  -- The bytes of longer sequences are 0x80 and more.
  split_ifs at h
  all_goals
    simp only [List.mem_cons, List.not_mem_nil, or_false, ← UInt8.toNat_inj, UInt8.toNat_ofNat'] at h
    omega

/-- No zero is written but for a zero character. -/
theorem zero_not_mem_encode {cs : List Char} (h : '\x00' ∉ cs) : 0 ∉ encode cs := by
  intro hmem
  obtain ⟨c, hc, hzero⟩ := List.mem_flatMap.1 hmem
  have hnat : c.toNat = '\x00'.toNat := toNat_of_mem_utf8EncodeChar hzero (by decide)
  exact h (Char.toNat_inj.1 hnat ▸ hc)

end Playpen.Utf8
