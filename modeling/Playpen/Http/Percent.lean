import Playpen.Bytes.Utf8
import Playpen.Text.Numeral

/-!
# Percent signs

What may not stand in a part of an address is written as the numbers of its
bytes, each after a percent sign (`encode`), and read back by `decode`, which
takes every other percent sign for itself. If percent signs are written so too,
nothing is lost (`decode_encode`).
-/

namespace Playpen.Http.Percent

/-- The digit of that value. -/
def digit (n : Nat) : Char := (Nat.digitChar n).toUpper

/-- A byte as its number. -/
def ofByte (b : UInt8) : List Char := ['%', digit (b.toNat / 16), digit (b.toNat % 16)]

/-- The character has to be written as numbers whatever part it stands in: it
    is not of ASCII, or does not show. -/
def isAlwaysEscaped (c : Char) : Bool := c.toNat < 0x20 || 0x7F ≤ c.toNat

/-- The text with the characters in `escaped`, and those that have to be
    anyway, as the numbers of their bytes. -/
def encode (escaped cs : List Char) : List Char :=
  cs.flatMap fun c =>
    if isAlwaysEscaped c || escaped.contains c then (String.utf8EncodeChar c).flatMap ofByte
    else [c]

/-- The bytes of a text in which some are written as numbers. -/
def decode : List Char → Bytes
  | '%' :: a :: b :: rest =>
    match Numeral.hexDigit? a, Numeral.hexDigit? b with
    | some x, some y => UInt8.ofNat (16 * x + y) :: decode rest
    | _, _ => 0x25 :: decode (a :: b :: rest)
  | c :: rest => String.utf8EncodeChar c ++ decode rest
  | [] => []

theorem decode_cons {c : Char} (h : c ≠ '%') (rest : List Char) :
    decode (c :: rest) = String.utf8EncodeChar c ++ decode rest := by
  rw [decode]
  rintro a b rest rfl
  exact absurd rfl h

/-- A digit is read as its value. -/
theorem hexDigit?_digit {n : Nat} (h : n < 16) : Numeral.hexDigit? (digit n) = some n := by
  have all : ∀ n ∈ List.range 16, Numeral.hexDigit? (digit n) = some n := by decide
  exact all n (List.mem_range.2 h)

/-- The number of a byte is read as the byte. -/
theorem decode_ofByte (b : UInt8) (rest : List Char) : decode (ofByte b ++ rest) = b :: decode rest := by
  have hb : b.toNat < 256 := b.toNat_lt
  simp only [ofByte, List.cons_append, List.nil_append, decode,
    hexDigit?_digit (n := b.toNat / 16) (by omega), hexDigit?_digit (n := b.toNat % 16) (by omega)]
  rw [Nat.div_add_mod, UInt8.ofNat_toNat]

theorem decode_flatMap_ofByte (bs : Bytes) (rest : List Char) :
    decode (bs.flatMap ofByte ++ rest) = bs ++ decode rest := by
  induction bs with
  | nil => rfl
  | cons b bs ih => rw [List.flatMap_cons, List.append_assoc, decode_ofByte, ih, List.cons_append]

/-- What was written with the percent signs as numbers is read back. -/
theorem decode_encode {escaped : List Char} (h : '%' ∈ escaped) (cs : List Char) :
    decode (encode escaped cs) = Utf8.encode cs := by
  induction cs with
  | nil => rfl
  | cons c cs ih =>
    rw [encode] at ih
    rw [encode, List.flatMap_cons, Utf8.encode, List.flatMap_cons]
    split
    · rw [decode_flatMap_ofByte, ih, Utf8.encode]
    · rename_i hc
      have hne : c ≠ '%' := by
        rintro rfl
        exact hc (by simp [h])
      rw [List.cons_append, List.nil_append, decode_cons hne, ih, Utf8.encode]

end Playpen.Http.Percent
