import Mathlib.Tactic.Common
import Playpen.Bytes.Base64

/-!
# Decoding base64

What was encoded is decoded again (`decode_encode`), for every number of bytes:
whole groups of three and the one or two bytes left over are taken apart into
numbers of six bits and put together again. An encoding has no characters but
those of the alphabet and of padding (`isCode_of_mem_encode`), so it can stand
between separators.

Nothing else is decoded: a text that is, is the encoding of what it is decoded to
(`decode_eq_ok_iff`), so bytes have one encoding.
-/

namespace Playpen.Base64

theorem value?_symbol : ∀ n < 64, value? (symbol n) = some n := by decide

theorem value?_pad : value? '=' = none := by decide

/-- The numbers of six bits of three bytes make up the same bytes. -/
theorem threeBytes_split (a b c : UInt8) :
    let n := (a.toNat * 256 + b.toNat) * 256 + c.toNat
    threeBytes (n / 262144) (n / 4096 % 64) (n / 64 % 64) (n % 64) = [a, b, c] := by
  intro n
  have ha := a.toNat_lt
  have hb := b.toNat_lt
  have hc := c.toNat_lt
  have hn : ((n / 262144 * 64 + n / 4096 % 64) * 64 + n / 64 % 64) * 64 + n % 64 = n := by omega
  have h₁ : n / 65536 = a.toNat := by omega
  have h₂ : n / 256 % 256 = b.toNat := by omega
  have h₃ : n % 256 = c.toNat := by omega
  simp only [threeBytes, hn, h₁, h₂, h₃, UInt8.ofNat_toNat]

/-- The numbers of six bits of two bytes make up the same bytes. -/
theorem twoBytes?_split (a b : UInt8) :
    let n := (a.toNat * 256 + b.toNat) * 4
    twoBytes? (n / 4096) (n / 64 % 64) (n % 64) = some [a, b] := by
  intro n
  have ha := a.toNat_lt
  have hb := b.toNat_lt
  have hn : (n / 4096 * 64 + n / 64 % 64) * 64 + n % 64 = n := by omega
  have h₀ : n % 4 = 0 := by omega
  have h₁ : n / 1024 = a.toNat := by omega
  have h₂ : n / 4 % 256 = b.toNat := by omega
  simp only [twoBytes?, hn, h₀, h₁, h₂, UInt8.ofNat_toNat, if_true]

/-- The numbers of six bits of one byte make up the same byte. -/
theorem oneByte?_split (a : UInt8) :
    let n := a.toNat * 16
    oneByte? (n / 64) (n % 64) = some [a] := by
  intro n
  have ha := a.toNat_lt
  have hn : n / 64 * 64 + n % 64 = n := by omega
  have h₀ : n % 16 = 0 := by omega
  have h₁ : n / 16 = a.toNat := by omega
  simp only [oneByte?, hn, h₀, h₁, UInt8.ofNat_toNat, if_true]

theorem decode?_encode (bs : Bytes) : decode? (encode bs) = some bs := by
  fun_induction encode bs with
  | case1 => rfl
  | case2 a n =>
    have ha := a.toNat_lt
    rw [decode?, value?_symbol _ (by omega), value?_symbol _ (by omega), value?_pad]
    exact oneByte?_split a
  | case3 a b n =>
    have ha := a.toNat_lt
    have hb := b.toNat_lt
    rw [decode?, value?_symbol _ (by omega), value?_symbol _ (by omega), value?_symbol _ (by omega),
      value?_pad]
    exact twoBytes?_split a b
  | case4 a b c rest n ih =>
    have ha := a.toNat_lt
    have hb := b.toNat_lt
    have hc := c.toNat_lt
    rw [decode?, value?_symbol _ (by omega), value?_symbol _ (by omega), value?_symbol _ (by omega),
      value?_symbol _ (by omega), ih]
    dsimp only [Option.map_some]
    rw [threeBytes_split a b c]
    rfl

/-- What was encoded is decoded again. -/
theorem decode_encode (bs : Bytes) : decode (encode bs) = .ok bs := by
  rw [decode, decode?_encode]

/-- The character may stand in an encoding. -/
def isCode (c : Char) : Bool := (value? c).isSome || c == '='

theorem isCode_symbol {n : Nat} (h : n < 64) : isCode (symbol n) := by
  rw [isCode, value?_symbol n h]
  rfl

/-- An encoding has only characters of the alphabet and padding. -/
theorem isCode_of_mem_encode (bs : Bytes) : ∀ c ∈ encode bs, isCode c := by
  fun_induction encode bs with
  | case1 => exact fun _ h => absurd h List.not_mem_nil
  | case2 a n =>
    have ha := a.toNat_lt
    intro c h
    simp only [List.mem_cons, List.not_mem_nil, or_false] at h
    rcases h with rfl | rfl | rfl | rfl
    exacts [isCode_symbol (by omega), isCode_symbol (by omega), rfl, rfl]
  | case3 a b n =>
    have ha := a.toNat_lt
    have hb := b.toNat_lt
    intro c h
    simp only [List.mem_cons, List.not_mem_nil, or_false] at h
    rcases h with rfl | rfl | rfl | rfl
    exacts [isCode_symbol (by omega), isCode_symbol (by omega), isCode_symbol (by omega), rfl]
  | case4 a b c rest n ih =>
    have ha := a.toNat_lt
    have hb := b.toNat_lt
    have hc := c.toNat_lt
    intro d h
    simp only [List.mem_cons] at h
    rcases h with rfl | rfl | rfl | rfl | h
    exacts [isCode_symbol (by omega), isCode_symbol (by omega), isCode_symbol (by omega),
      isCode_symbol (by omega), ih d h]

/-! ## What is decoded was encoded -/

/-- A character of a range is found again from its place in it. -/
theorem ofNat_range {low high c : Char} {k n : Nat} (hc : low ≤ c ∧ c ≤ high)
    (hn : some (c.toNat - low.toNat + k) = some n) :
    k ≤ n ∧ n ≤ high.toNat - low.toNat + k ∧ Char.ofNat (low.toNat + (n - k)) = c := by
  have hlow : low.toNat ≤ c.toNat := hc.1
  have hhigh : c.toNat ≤ high.toNat := hc.2
  obtain rfl := Option.some.inj hn
  refine ⟨by omega, by omega, ?_⟩
  rw [show low.toNat + (c.toNat - low.toNat + k - k) = c.toNat by omega, Char.ofNat_toNat]

/-- A character of the alphabet is the one that stands for its number. -/
theorem symbol_of_value? {c : Char} {n : Nat} (h : value? c = some n) : n < 64 ∧ symbol n = c := by
  rw [value?] at h
  rw [symbol]
  split at h
  · rename_i hc
    obtain ⟨-, hn, hchar⟩ := ofNat_range (k := 0) hc h
    simp only [Char.reduceToNat] at hn
    rw [if_pos (by omega)]
    exact ⟨by omega, hchar⟩
  split at h
  · rename_i hc
    obtain ⟨hk, hn, hchar⟩ := ofNat_range hc h
    simp only [Char.reduceToNat] at hn
    rw [if_neg (by omega), if_pos (by omega)]
    exact ⟨by omega, hchar⟩
  split at h
  · rename_i hc
    obtain ⟨hk, hn, hchar⟩ := ofNat_range hc h
    simp only [Char.reduceToNat] at hn
    rw [if_neg (by omega), if_neg (by omega), if_pos (by omega)]
    exact ⟨by omega, hchar⟩
  split at h
  · rename_i hc
    obtain rfl := Option.some.inj h
    exact ⟨by decide, hc.symm⟩
  split at h
  · rename_i hc
    obtain rfl := Option.some.inj h
    exact ⟨by decide, hc.symm⟩
  · exact nomatch h

theorem encode_of_oneByte? {a b : Nat} {bs : Bytes} (ha : a < 64) (hb : b < 64)
    (h : oneByte? a b = some bs) : encode bs = [symbol a, symbol b, '=', '='] := by
  obtain ⟨h₀, hbs⟩ := Option.ite_none_right_eq_some.1 h
  generalize hn : a * 64 + b = n at h₀ hbs
  have hbyte : (UInt8.ofNat (n / 16)).toNat = n / 16 :=
    UInt8.toNat_ofNat_of_lt' (show n / 16 < 256 by omega)
  rw [← Option.some.inj hbs, encode, hbyte, show n / 16 * 16 / 64 = a by omega,
    show n / 16 * 16 % 64 = b by omega]

theorem encode_of_twoBytes? {a b c : Nat} {bs : Bytes} (ha : a < 64) (hb : b < 64) (hc : c < 64)
    (h : twoBytes? a b c = some bs) : encode bs = [symbol a, symbol b, symbol c, '='] := by
  obtain ⟨h₀, hbs⟩ := Option.ite_none_right_eq_some.1 h
  generalize hn : (a * 64 + b) * 64 + c = n at h₀ hbs
  have hfirst : (UInt8.ofNat (n / 1024)).toNat = n / 1024 :=
    UInt8.toNat_ofNat_of_lt' (show n / 1024 < 256 by omega)
  have hsecond : (UInt8.ofNat (n / 4 % 256)).toNat = n / 4 % 256 :=
    UInt8.toNat_ofNat_of_lt' (show n / 4 % 256 < 256 by omega)
  have hsum : (n / 1024 * 256 + n / 4 % 256) * 4 = n := by omega
  rw [← Option.some.inj hbs, encode, hfirst, hsecond, hsum, show n / 4096 = a by omega,
    show n / 64 % 64 = b by omega, show n % 64 = c by omega]

theorem encode_threeBytes {a b c d : Nat} (ha : a < 64) (hb : b < 64) (hc : c < 64) (hd : d < 64)
    (rest : Bytes) :
    encode (threeBytes a b c d ++ rest) =
      symbol a :: symbol b :: symbol c :: symbol d :: encode rest := by
  rw [threeBytes]
  generalize hn : ((a * 64 + b) * 64 + c) * 64 + d = n
  have hfirst : (UInt8.ofNat (n / 65536)).toNat = n / 65536 :=
    UInt8.toNat_ofNat_of_lt' (show n / 65536 < 256 by omega)
  have hsecond : (UInt8.ofNat (n / 256 % 256)).toNat = n / 256 % 256 :=
    UInt8.toNat_ofNat_of_lt' (show n / 256 % 256 < 256 by omega)
  have hthird : (UInt8.ofNat (n % 256)).toNat = n % 256 :=
    UInt8.toNat_ofNat_of_lt' (show n % 256 < 256 by omega)
  have hsum : (n / 65536 * 256 + n / 256 % 256) * 256 + n % 256 = n := by omega
  rw [List.cons_append, List.cons_append, List.cons_append, List.nil_append, encode, hfirst,
    hsecond, hthird, hsum, show n / 262144 = a by omega, show n / 4096 % 64 = b by omega,
    show n / 64 % 64 = c by omega, show n % 64 = d by omega]

/-- Bytes have no other encoding than theirs. -/
theorem encode_of_decode? {cs : List Char} {bs : Bytes} (h : decode? cs = some bs) :
    encode bs = cs := by
  fun_induction decode? cs generalizing bs with
  | case1 =>
    obtain rfl := Option.some.inj h
    rfl
  | case2 _ _ _ _ rest a b c d hvd hvc hvb hva ih =>
    obtain ⟨ha, rfl⟩ := symbol_of_value? hva
    obtain ⟨hb, rfl⟩ := symbol_of_value? hvb
    obtain ⟨hc, rfl⟩ := symbol_of_value? hvc
    obtain ⟨hd, rfl⟩ := symbol_of_value? hvd
    obtain ⟨bs, hrest, rfl⟩ := Option.map_eq_some_iff.1 h
    rw [encode_threeBytes ha hb hc hd, ih hrest]
  | case3 _ _ _ _ rest a b c _ hvc hvb hva htail =>
    obtain ⟨ha, rfl⟩ := symbol_of_value? hva
    obtain ⟨hb, rfl⟩ := symbol_of_value? hvb
    obtain ⟨hc, rfl⟩ := symbol_of_value? hvc
    obtain ⟨rfl, rfl⟩ := htail
    exact encode_of_twoBytes? ha hb hc h
  | case5 _ _ _ _ rest a b _ _ hvb hva htail =>
    obtain ⟨ha, rfl⟩ := symbol_of_value? hva
    obtain ⟨hb, rfl⟩ := symbol_of_value? hvb
    obtain ⟨rfl, rfl, rfl⟩ := htail
    exact encode_of_oneByte? ha hb h
  | case4 | case6 | case7 | case8 => exact nomatch h

theorem decode_eq_ok_iff {cs : List Char} {bs : Bytes} : decode cs = .ok bs ↔ cs = encode bs := by
  constructor
  · intro h
    rw [decode] at h
    split at h
    · rename_i hdecode
      obtain rfl := Except.ok.inj h
      exact (encode_of_decode? hdecode).symm
    · exact nomatch h
  · rintro rfl
    exact decode_encode bs

end Playpen.Base64
