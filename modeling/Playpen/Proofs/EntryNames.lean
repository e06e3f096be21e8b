import Playpen.Proofs.FileTree
import Playpen.Store.Disk

/-!
# Names of entries

The files of a store are named by a digest in hexadecimal and an ending, `.bin` for an
entry and another for what is being written. Such a name is plain, has as many bytes as
characters, and tells the digest and the ending (`DiskStore.file_inj`). So the files of
two keys are the same only if the keys have the same digest, and an entry is never taken
for what is being written (`DiskStore.draftFile_ne_entryFile`).
-/

namespace Playpen

/-! ## Digests in hexadecimal -/

namespace Sha256

theorem length_bigEndian (count n : Nat) : (bigEndian count n).length = count := by
  induction count generalizing n with
  | zero => rfl
  | succ count ih => rw [bigEndian, List.length_append, ih, List.length_singleton]

theorem length_digest (bs : Bytes) : (digest bs).length = 32 := by
  simp only [digest, List.flatMap_cons, List.flatMap_nil, List.length_append, length_bigEndian,
    List.length_nil]

/-- The digits of numbers in hexadecimal. -/
def lowerHex : List Char := "0123456789abcdef".toList

theorem digitChar_mem_lowerHex : ∀ n : Fin 16, Nat.digitChar n ∈ lowerHex := by decide

theorem digitChar_injective : ∀ n m : Fin 16, Nat.digitChar n = Nat.digitChar m → n = m := by
  decide

theorem hexDigits_injective {a b : UInt8} (h : hexDigits a = hexDigits b) : a = b := by
  obtain ⟨hhigh, hlow⟩ := List.cons.inj h
  have ha := a.toNat_lt
  have hb := b.toNat_lt
  have hhigh' := digitChar_injective ⟨a.toNat / 16, by omega⟩ ⟨b.toNat / 16, by omega⟩ hhigh
  have hlow' := digitChar_injective ⟨a.toNat % 16, by omega⟩ ⟨b.toNat % 16, by omega⟩
    (List.cons.inj hlow).1
  rw [Fin.mk.injEq] at hhigh' hlow'
  exact UInt8.toNat_inj.1 (by omega)

theorem flatMap_hexDigits_injective {as bs : Bytes}
    (h : as.flatMap hexDigits = bs.flatMap hexDigits) : as = bs := by
  induction as generalizing bs with
  | nil =>
    cases bs with
    | nil => rfl
    | cons b bs => exact nomatch h
  | cons a as ih =>
    cases bs with
    | nil => exact nomatch h
    | cons b bs =>
      rw [List.flatMap_cons, List.flatMap_cons] at h
      obtain ⟨hfirst, hrest⟩ := List.append_inj h rfl
      rw [hexDigits_injective hfirst, ih hrest]

theorem length_hexDigest (bs : Bytes) : (hexDigest bs).length = 64 := by
  rw [hexDigest, List.length_flatMap]
  have htwo : (digest bs).map (fun b => (hexDigits b).length) = (digest bs).map fun _ => 2 := rfl
  rw [htwo, List.map_const', List.sum_replicate_nat, length_digest]

theorem mem_lowerHex_of_mem_hexDigest {bs : Bytes} {c : Char} (h : c ∈ hexDigest bs) :
    c ∈ lowerHex := by
  obtain ⟨b, -, hc⟩ := List.mem_flatMap.1 h
  have hb := b.toNat_lt
  rcases List.mem_cons.1 hc with rfl | hc
  · exact digitChar_mem_lowerHex ⟨b.toNat / 16, by omega⟩
  · obtain rfl := List.mem_singleton.1 hc
    exact digitChar_mem_lowerHex ⟨b.toNat % 16, by omega⟩

end Sha256

namespace DiskStore

variable {key key' ending ending' : String}

/-! ## Files -/

/-- May follow the digest in the name of a file. -/
def IsEnding (ending : String) : Prop :=
  ∀ c ∈ ending.toList, c.val ≤ 127 ∧ c ≠ '/' ∧ c ≠ '\x00'

theorem isEnding_of_all
    (h : ending.toList.all fun c => c.val ≤ 127 ∧ c ≠ '/' ∧ c ≠ '\x00') : IsEnding ending :=
  fun c hc => of_decide_eq_true (List.all_eq_true.1 h c hc)

theorem isEnding_lowerHex : IsEnding "0123456789abcdef" := isEnding_of_all (by decide)

theorem toList_file (key ending : String) :
    (entryName key ++ ending).toList =
      Sha256.hexDigest (Utf8.encode key.toList) ++ ending.toList := by
  rw [String.toList_append, entryName, String.toList_ofList]

theorem of_mem_file (h : IsEnding ending) :
    ∀ c ∈ (entryName key ++ ending).toList, c.val ≤ 127 ∧ c ≠ '/' ∧ c ≠ '\x00' := by
  rw [toList_file]
  intro c hc
  rcases List.mem_append.1 hc with hc | hc
  · exact isEnding_lowerHex c (Sha256.mem_lowerHex_of_mem_hexDigest hc)
  · exact h c hc

theorem length_file (key ending : String) :
    (entryName key ++ ending).toList.length = 64 + ending.toList.length := by
  rw [toList_file, List.length_append, Sha256.length_hexDigest]

theorem isPlain_file (key : String) (h : IsEnding ending) :
    Path.IsPlain (entryName key ++ ending) := by
  have hne {name : String} (hname : name.toList.length < 64) : entryName key ++ ending ≠ name := by
    intro heq
    have hlength := length_file key ending
    rw [heq] at hlength
    omega
  exact ⟨hne (by decide), hne (by decide), hne (by decide),
    fun hmem => (of_mem_file h _ hmem).2.1 rfl⟩

/-- Characters of one byte each. -/
theorem utf8ByteSize_of_ascii {s : String} (h : ∀ c ∈ s.toList, c.val ≤ 127) :
    s.utf8ByteSize = s.toList.length := by
  induction s using String.push_induction with
  | empty => rfl
  | push s c ih =>
    rw [String.toList_push] at h ⊢
    have hc : c.utf8Size = 1 :=
      Char.utf8Size_eq_one_iff.2 (h c (List.mem_append_right _ List.mem_cons_self))
    rw [String.utf8ByteSize_push, ih fun d hd => h d (List.mem_append_left _ hd), hc,
      List.length_append, List.length_singleton]

theorem utf8ByteSize_file (key : String) (h : IsEnding ending) :
    (entryName key ++ ending).utf8ByteSize = 64 + ending.toList.length := by
  rw [utf8ByteSize_of_ascii fun c hc => (of_mem_file h c hc).1, length_file]

/-- The name of a file tells the digest and the ending. -/
theorem file_inj : entryName key ++ ending = entryName key' ++ ending' ↔
    Sha256.digest (Utf8.encode key.toList) = Sha256.digest (Utf8.encode key'.toList) ∧
      ending = ending' := by
  constructor
  · intro h
    have hlist := congrArg String.toList h
    rw [toList_file, toList_file] at hlist
    obtain ⟨hdigest, hending⟩ := List.append_inj hlist
      ((Sha256.length_hexDigest _).trans (Sha256.length_hexDigest _).symm)
    exact ⟨Sha256.flatMap_hexDigits_injective hdigest, String.toList_injective hending⟩
  · rintro ⟨hdigest, rfl⟩
    rw [entryName, entryName, Sha256.hexDigest, Sha256.hexDigest, hdigest]

theorem entryPath_eq (s : DiskStore) (key : String) : s.entryPath key = s.path (entryFile key) :=
  rfl

theorem draftPath_eq (s : DiskStore) (key : String) :
    s.draftPath key = s.path (draftFile s.process key) := by
  rw [draftPath, draftFile, String.append_assoc]

theorem isEnding_bin : IsEnding ".bin" := isEnding_of_all (by decide)

theorem isEnding_tmp (process : Nat) : IsEnding (".tmp" ++ toString process) := by
  rw [IsEnding, String.toList_append]
  intro c hc
  rcases List.mem_append.1 hc with hc | hc
  · exact isEnding_of_all (by decide) c hc
  · have hdigit : c.isDigit :=
      Nat.isDigit_of_mem_toDigits (by decide) (by decide) (Nat.toList_repr ▸ hc)
    have hnine : c.val ≤ 57 := of_decide_eq_true (Bool.and_eq_true_iff.1 hdigit).2
    refine ⟨UInt32.le_trans hnine (by decide), ?_, ?_⟩
    · rintro rfl
      exact absurd hdigit (by decide)
    · rintro rfl
      exact absurd hdigit (by decide)

theorem isPlain_entryFile (key : String) : Path.IsPlain (entryFile key) :=
  isPlain_file key isEnding_bin

theorem isPlain_draftFile (process : Nat) (key : String) : Path.IsPlain (draftFile process key) :=
  isPlain_file key (isEnding_tmp process)

theorem entryFile_inj : entryFile key = entryFile key' ↔
    Sha256.digest (Utf8.encode key.toList) = Sha256.digest (Utf8.encode key'.toList) :=
  file_inj.trans (and_iff_left rfl)

theorem draftFile_ne_entryFile (process : Nat) (key key' : String) :
    draftFile process key ≠ entryFile key' := by
  intro h
  have hlist := congrArg String.toList (file_inj.1 h).2
  rw [String.toList_append] at hlist
  exact absurd (List.cons.inj (List.cons.inj hlist).2).1 (by decide)

theorem utf8ByteSize_entryFile (key : String) : (entryFile key).utf8ByteSize = 68 :=
  utf8ByteSize_file key isEnding_bin

theorem utf8ByteSize_draftFile (process : Nat) (key : String) :
    (draftFile process key).utf8ByteSize = 68 + (toString process).toList.length := by
  rw [draftFile, utf8ByteSize_file key (isEnding_tmp process), String.toList_append,
    List.length_append, ← Nat.add_assoc]
  rfl

/-- The number of a process is short. -/
theorem utf8ByteSize_draftFile_le {process : Nat} (h : process < UInt32.size) (key : String) :
    (draftFile process key).utf8ByteSize ≤ Path.longestName := by
  have hlength : (toString process).length ≤ 10 :=
    (Nat.length_repr_le_iff (by decide)).2 (Nat.lt_trans h (by decide))
  rw [← String.length_toList] at hlength
  rw [utf8ByteSize_draftFile, Path.longestName]
  omega

end DiskStore

end Playpen
