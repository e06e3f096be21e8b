import Mathlib.Tactic.Common
import Playpen.Text.Numeral

/-!
# Reading what was written in decimal

Digits are read as the number they stand for, if it is within the limit
(`readDigits_ofDigitChars`), so every number of 32 bits is read as it was
written (`readInt32_toString`). It is read from every other way to write it, with
a sign or with zeros before it, and nothing else is read as a number
(`readInt32_eq_ok_iff`). Numbers without a sign but a plus are read likewise
(`readNat_eq_ok_iff`).
-/

namespace Playpen.Numeral

theorem digit?_of_isDigit {c : Char} (h : c.isDigit) : digit? c = some (c.toNat - '0'.toNat) :=
  if_pos (Char.isDigit_iff_toNat.1 h)

/-- A number is written in digits. -/
theorem isDigit_of_mem_toDigits {n : Nat} : ∀ c ∈ Nat.toDigits 10 n, c.isDigit :=
  fun _ hc => Nat.isDigit_of_mem_toDigits (by decide) (by decide) hc

theorem le_ofDigitChars (cs : List Char) (n : Nat) : n ≤ Nat.ofDigitChars 10 cs n := by
  rw [Nat.ofDigitChars_eq_ofDigitChars_zero]
  calc n ≤ 10 ^ cs.length * n := Nat.le_mul_of_pos_left n (Nat.pow_pos (by decide))
    _ ≤ 10 ^ cs.length * n + Nat.ofDigitChars 10 cs 0 := Nat.le_add_right _ _

/-- Digits are read as the number that they stand for. -/
theorem readDigits_ofDigitChars {limit : Nat} (excess : Fault) {cs : List Char}
    (hd : ∀ c ∈ cs, c.isDigit) : ∀ {n : Nat}, Nat.ofDigitChars 10 cs n ≤ limit →
      readDigits limit excess n cs = .ok (Nat.ofDigitChars 10 cs n) := by
  induction cs with
  | nil => exact fun _ => rfl
  | cons c cs ih =>
    intro n hn
    rw [List.forall_mem_cons] at hd
    rw [Nat.ofDigitChars_cons] at hn ⊢
    rw [readDigits, digit?_of_isDigit hd.1]
    dsimp only
    rw [if_neg (Nat.not_lt.2 (Nat.le_trans (le_ofDigitChars cs _) hn)), ih hd.2 hn]

theorem readMagnitude_toDigits {limit n : Nat} (excess : Fault) (h : n ≤ limit) :
    readMagnitude limit excess (Nat.toDigits 10 n) = .ok n := by
  have hle := Nat.le_trans (Nat.le_of_eq Nat.ofDigitChars_ten_toDigits) h
  have hread := readDigits_ofDigitChars excess isDigit_of_mem_toDigits hle
  rw [Nat.ofDigitChars_ten_toDigits] at hread
  cases hcs : Nat.toDigits 10 n with
  | nil => exact absurd hcs Nat.toDigits_ne_nil
  | cons c cs => rwa [hcs] at hread

theorem readInt32_of_isDigit {c : Char} (h : c.isDigit) (cs : List Char) :
    readInt32 (c :: cs) =
      (readMagnitude 0x7FFFFFFF .tooLarge (c :: cs)).map fun n => Int32.ofInt n := by
  rw [readInt32]
  · exact List.cons_ne_nil c cs
  · rintro cs' ⟨⟩
    exact absurd h (by decide)
  · rintro cs' ⟨⟩
    exact absurd h (by decide)

/-- A number is written in digits, after a sign if it is below zero. -/
theorem of_mem_toString {n : Int} {c : Char} (h : c ∈ (toString n).toList) :
    c = '-' ∨ c.isDigit := by
  have hd {k : Nat} (hk : c ∈ k.repr.toList) : c.isDigit :=
    isDigit_of_mem_toDigits c (Nat.toList_repr ▸ hk)
  rw [Int.toString_eq_repr, Int.repr_eq_if] at h
  split at h
  · exact .inr (hd h)
  · rw [String.toList_append, List.mem_append] at h
    exact h.imp List.mem_singleton.1 hd

/-- A number of 32 bits is read as it was written. -/
theorem readInt32_toString (n : Int32) : readInt32 (toString n.toInt).toList = .ok n := by
  have hlow := n.le_toInt
  have hhigh := n.toInt_lt
  rw [Int.toString_eq_repr, Int.repr_eq_if]
  split
  · rename_i hn
    have hread := readMagnitude_toDigits .tooLarge (show n.toInt.toNat ≤ 0x7FFFFFFF by omega)
    have hd := isDigit_of_mem_toDigits (n := n.toInt.toNat)
    rw [Nat.toList_repr]
    cases hcs : Nat.toDigits 10 n.toInt.toNat with
    | nil => exact absurd hcs Nat.toDigits_ne_nil
    | cons c cs =>
      rw [hcs] at hd hread
      rw [readInt32_of_isDigit (hd c List.mem_cons_self), hread]
      change Except.ok (Int32.ofInt n.toInt.toNat) = _
      rw [Int.toNat_of_nonneg hn, Int32.ofInt_toInt]
  · rename_i hn
    have hread := readMagnitude_toDigits .tooSmall (show (-n.toInt).toNat ≤ 0x80000000 by omega)
    rw [String.toList_append, Nat.toList_repr, show "-".toList = ['-'] from rfl,
      List.singleton_append, readInt32, hread]
    change Except.ok (Int32.ofInt (-(-n.toInt).toNat)) = _
    rw [Int.toNat_of_nonneg (by omega), Int.neg_neg, Int32.ofInt_toInt]

/-! ## What is read as a number -/

theorem digit?_eq_some_iff {c : Char} {d : Nat} :
    digit? c = some d ↔ c.isDigit ∧ c.toNat - '0'.toNat = d := by
  rw [digit?, Option.ite_none_right_eq_some, Option.some_inj]
  exact and_congr_left fun _ => Char.isDigit_iff_toNat.symm

/-- Only digits are read, and only up to the limit. -/
theorem readDigits_eq_ok_iff {limit : Nat} {excess : Fault} {cs : List Char} {n m : Nat}
    (hn : n ≤ limit) : readDigits limit excess n cs = .ok m ↔
      (∀ c ∈ cs, c.isDigit) ∧ Nat.ofDigitChars 10 cs n = m ∧ m ≤ limit := by
  constructor
  · intro h
    induction cs generalizing n with
    | nil =>
      obtain rfl := Except.ok.inj h
      exact ⟨fun _ hc => (List.not_mem_nil hc).elim, rfl, hn⟩
    | cons c cs ih =>
      rw [readDigits] at h
      split at h
      · exact nomatch h
      rename_i d hd
      obtain ⟨hc, rfl⟩ := digit?_eq_some_iff.1 hd
      split at h
      · exact nomatch h
      rename_i hle
      obtain ⟨hcs, hm, hmle⟩ := ih (Nat.not_lt.1 hle) h
      rw [Nat.ofDigitChars_cons]
      exact ⟨List.forall_mem_cons.2 ⟨hc, hcs⟩, hm, hmle⟩
  · rintro ⟨hd, rfl, hle⟩
    exact readDigits_ofDigitChars excess hd hle

/-- One digit or more. -/
def IsDigits (cs : List Char) : Prop := cs ≠ [] ∧ ∀ c ∈ cs, c.isDigit

theorem isDigits_toDigits (n : Nat) : IsDigits (Nat.toDigits 10 n) :=
  ⟨Nat.toDigits_ne_nil, isDigit_of_mem_toDigits⟩

theorem readMagnitude_eq_ok_iff {limit : Nat} {excess : Fault} {cs : List Char} {n : Nat} :
    readMagnitude limit excess cs = .ok n ↔
      IsDigits cs ∧ Nat.ofDigitChars 10 cs 0 = n ∧ n ≤ limit := by
  rw [IsDigits, and_assoc]
  cases cs with
  | nil => exact iff_of_false nofun fun h => h.1 rfl
  | cons c cs =>
    rw [readMagnitude, readDigits_eq_ok_iff (Nat.zero_le limit)]
    · exact (and_iff_right (List.cons_ne_nil c cs)).symm
    · exact List.cons_ne_nil c cs

/-- The text is a number in decimal without a minus: a plus, if there is one, and
    digits. -/
inductive IsUnsigned : List Char → Nat → Prop
  | digits {cs : List Char} : IsDigits cs → IsUnsigned cs (Nat.ofDigitChars 10 cs 0)
  | plus {cs : List Char} : IsDigits cs → IsUnsigned ('+' :: cs) (Nat.ofDigitChars 10 cs 0)

theorem isUnsigned_plus {cs : List Char} {n : Nat} :
    IsUnsigned ('+' :: cs) n ↔ IsDigits cs ∧ Nat.ofDigitChars 10 cs 0 = n := by
  constructor
  · rintro (h | h)
    · exact absurd (h.2 '+' List.mem_cons_self) (by decide)
    · exact ⟨h, rfl⟩
  · rintro ⟨h, rfl⟩
    exact .plus h

theorem isUnsigned_digits {cs : List Char} {n : Nat} (hplus : ∀ rest, cs ≠ '+' :: rest) :
    IsUnsigned cs n ↔ IsDigits cs ∧ Nat.ofDigitChars 10 cs 0 = n := by
  constructor
  · rintro (h | h)
    · exact ⟨h, rfl⟩
    · exact absurd rfl (hplus _)
  · rintro ⟨h, rfl⟩
    exact .digits h

/-- Exactly the numbers up to the limit are read. -/
theorem readNat_eq_ok_iff {limit n : Nat} {cs : List Char} :
    readNat limit cs = .ok n ↔ IsUnsigned cs n ∧ n ≤ limit := by
  fun_cases readNat limit cs with
  | case1 =>
    refine iff_of_false nofun fun h => ?_
    rw [isUnsigned_digits fun _ => (List.cons_ne_nil _ _).symm] at h
    exact h.1.1.1 rfl
  | case2 cs => rw [isUnsigned_plus, readMagnitude_eq_ok_iff, and_assoc]
  | case3 cs _ hplus => rw [isUnsigned_digits hplus, readMagnitude_eq_ok_iff, and_assoc]

/-- The text is a number in decimal: a sign, if there is one, and digits. -/
inductive IsDecimal : List Char → Int → Prop
  | unsigned {digits : List Char} : IsDigits digits →
      IsDecimal digits (Nat.ofDigitChars 10 digits 0)
  | plus {digits : List Char} : IsDigits digits →
      IsDecimal ('+' :: digits) (Nat.ofDigitChars 10 digits 0)
  | minus {digits : List Char} : IsDigits digits →
      IsDecimal ('-' :: digits) (-Nat.ofDigitChars 10 digits 0)

theorem isDecimal_plus {cs : List Char} {k : Int} :
    IsDecimal ('+' :: cs) k ↔ IsDigits cs ∧ (Nat.ofDigitChars 10 cs 0 : Int) = k := by
  constructor
  · rintro (h | h)
    · exact absurd (h.2 '+' List.mem_cons_self) (by decide)
    · exact ⟨h, rfl⟩
  · rintro ⟨h, rfl⟩
    exact .plus h

theorem isDecimal_minus {cs : List Char} {k : Int} :
    IsDecimal ('-' :: cs) k ↔ IsDigits cs ∧ -(Nat.ofDigitChars 10 cs 0 : Int) = k := by
  constructor
  · rintro (h | _ | h)
    · exact absurd (h.2 '-' List.mem_cons_self) (by decide)
    · exact ⟨h, rfl⟩
  · rintro ⟨h, rfl⟩
    exact .minus h

/-- Without a sign there are only digits. -/
theorem isDecimal_unsigned {cs : List Char} {k : Int} (hplus : ∀ rest, cs ≠ '+' :: rest)
    (hminus : ∀ rest, cs ≠ '-' :: rest) :
    IsDecimal cs k ↔ IsDigits cs ∧ (Nat.ofDigitChars 10 cs 0 : Int) = k := by
  constructor
  · rintro (h | h | h)
    · exact ⟨h, rfl⟩
    · exact absurd rfl (hplus _)
    · exact absurd rfl (hminus _)
  · rintro ⟨h, rfl⟩
    exact .unsigned h

/-- A number with its sign is read if that fits into 32 bits. -/
theorem map_readMagnitude_eq_ok_iff {limit : Nat} {excess : Fault} {signed : Int → Int}
    {cs : List Char} {n : Int32}
    (hlimit : ∀ k : Nat, k ≤ limit ↔ -0x80000000 ≤ signed k ∧ signed k < 0x80000000) :
    (do let k ← readMagnitude limit excess cs; pure (k : Int)).map
        (fun k => Int32.ofInt (signed k)) = .ok n ↔
      IsDigits cs ∧ signed (Nat.ofDigitChars 10 cs 0) = n.toInt := by
  have hread {k : Nat} : readMagnitude limit excess cs = .ok k ↔ _ := readMagnitude_eq_ok_iff
  constructor
  · intro h
    cases hk : readMagnitude limit excess cs with
    | error why => exact nomatch hk ▸ h
    | ok k =>
      rw [hk] at h
      obtain ⟨hdigits, rfl, hle⟩ := hread.1 hk
      obtain ⟨hlow, hhigh⟩ := (hlimit _).1 hle
      obtain rfl : Int32.ofInt (signed _) = n := Except.ok.inj h
      exact ⟨hdigits, (Int32.toInt_ofInt_of_le hlow hhigh).symm⟩
  · rintro ⟨hdigits, hn⟩
    have hle : Nat.ofDigitChars 10 cs 0 ≤ limit := by
      rw [hlimit, hn]
      exact ⟨n.le_toInt, n.toInt_lt⟩
    rw [hread.2 ⟨hdigits, rfl, hle⟩]
    change Except.ok (Int32.ofInt _) = _
    rw [hn, Int32.ofInt_toInt]

/-- Exactly the numbers of 32 bits in decimal are read. -/
theorem readInt32_eq_ok_iff {cs : List Char} {n : Int32} :
    readInt32 cs = .ok n ↔ IsDecimal cs n.toInt := by
  have hlow (k : Nat) : k ≤ 0x80000000 ↔ -0x80000000 ≤ -(k : Int) ∧ -(k : Int) < 0x80000000 := by
    omega
  have hhigh (k : Nat) : k ≤ 0x7FFFFFFF ↔ -0x80000000 ≤ (k : Int) ∧ (k : Int) < 0x80000000 := by
    omega
  fun_cases readInt32 cs with
  | case1 =>
    refine iff_of_false nofun fun h => ?_
    rw [isDecimal_unsigned (fun _ => (List.cons_ne_nil _ _).symm)
      fun _ => (List.cons_ne_nil _ _).symm] at h
    exact h.1.1 rfl
  | case2 cs =>
    rw [isDecimal_minus]
    exact map_readMagnitude_eq_ok_iff hlow
  | case3 cs =>
    rw [isDecimal_plus]
    exact map_readMagnitude_eq_ok_iff hhigh
  | case4 _ _ hminus hplus =>
    rw [isDecimal_unsigned hplus hminus]
    exact map_readMagnitude_eq_ok_iff hhigh

end Playpen.Numeral
