import Mathlib.Logic.Function.Basic
import Playpen.Store.Folder

/-!
# What a file in a directory holds

Files are written and renamed while others have them open. What is done to a draft and to
the entry that it becomes leaves all other files as they are (`Folder.Touched`), whatever
is done to those two in between. What is put under a name at once is read under it
(`Folder.read?_put`).
-/

namespace Playpen

namespace Folder

variable {d d' : Folder} {name name' draft entry : String} {m n : Nat} {bs : Bytes}

/-! ## Operations on open files -/

theorem read?_eq_some_iff : d.read? name = some bs ↔ ∃ n, d.name? n = some name ∧ d.contents n = bs := by
  simp [read?, locate?_eq_some_iff]

/-- The file that was opened to be written has the name and is empty. -/
theorem create_spec (d : Folder) (name : String) :
    (d.create name).1.name? (d.create name).2 = some name ∧
      (d.create name).1.contents (d.create name).2 = [] := by
  rw [create]
  cases h : d.locate? name with
  | some n =>
    have hname := locate?_eq_some_iff.1 h
    simp [hname, contents_modify, lt_of_name? hname]
  | none => simp [name?_rename, contents_of_length_le]

/-- A file that is there is opened again. -/
theorem create_of_name? (h : d.name? n = some name) :
    d.create name = (d.modify n fun _ => [], n) := by
  rw [create, locate?_eq_some_iff.2 h]

/-- A file that is there is moved. -/
theorem move?_of_name? (h : d.name? n = some name) (target : String) :
    d.move? name target = some (d.rename n target) := by
  rw [move?, locate?_eq_some_iff.2 h]
  rfl

theorem splice_nil (bs : Bytes) : splice [] 0 bs = bs := by
  rw [splice]
  split
  · rename_i h
    exact (List.isEmpty_iff.1 h).symm
  · simp

theorem contents_write_self (h : n < d.files.length) (offset : Nat) (bs : Bytes) :
    (d.write n offset bs).contents n = splice (d.contents n) offset bs := by
  rw [write, contents_modify, if_pos ⟨rfl, h⟩]

/-- Bytes are written in order. -/
theorem splice_take (bytes : Bytes) {offset : Nat} (h : offset ≤ bytes.length) (count : Nat) :
    splice (bytes.take offset) offset ((bytes.drop offset).take count) =
      bytes.take (offset + ((bytes.drop offset).take count).length) := by
  rw [splice]
  split
  · rename_i hnil
    rw [List.isEmpty_iff.1 hnil, List.length_nil, Nat.add_zero]
  · have hdrop : (bytes.take offset).drop (offset + ((bytes.drop offset).take count).length) = [] :=
      List.drop_eq_nil_of_le (Nat.le_trans (List.length_take_le _ _) (Nat.le_add_right _ _))
    rw [hdrop, List.append_nil, List.length_take_of_le h, Nat.sub_self, List.replicate_zero,
      List.append_nil, List.take_take, Nat.min_self, List.take_add]
    congr 1
    rw [List.length_take, ← List.take_take, List.take_length]

/-- Of the files only that with the name `draft` and a new one may have been written or
    named, `draft` or `entry`. Another may have lost the name `entry`. -/
structure Touched (draft entry : String) (d d' : Folder) : Prop where
  length_le : d.files.length ≤ d'.files.length
  contents {n : Nat} : n < d.files.length → d.name? n ≠ some draft → d'.contents n = d.contents n
  kept {n : Nat} : n < d.files.length → d.name? n ≠ some draft →
    d'.name? n = d.name? n ∨ d.name? n = some entry ∧ d'.name? n = none
  given {n : Nat} {name : String} : d'.name? n = some name →
    d.name? n = some name ∨ name = draft ∨ name = entry

namespace Touched

theorem refl (draft entry : String) (d : Folder) : Touched draft entry d d where
  length_le := Nat.le_refl _
  contents _ _ := rfl
  kept _ _ := .inl rfl
  given := .inl

theorem create (draft entry : String) (d : Folder) : Touched draft entry d (d.create draft).1 := by
  rw [Folder.create]
  cases h : d.locate? draft with
  | some n =>
    have hname := locate?_eq_some_iff.1 h
    refine ⟨by simp, fun {m} hm hne => ?_, fun {m} _ _ => .inl (by simp), fun {m name} => by simp; exact .inl⟩
    have hmn : m ≠ n := by
      rintro rfl
      exact hne hname
    simp [contents_modify, hmn]
  | none =>
    have hfree := locate?_eq_none_iff.1 h
    refine ⟨by simp, fun {m} hm hne => by simp, fun {m} hm hne => .inl ?_, fun {m name} => ?_⟩
    · simp [name?_rename, Nat.ne_of_lt hm, hfree m]
    · simp [name?_rename, hfree m]
      grind

theorem write (entry : String) (h : d.name? n = some draft) (offset : Nat) (bs : Bytes) :
    Touched draft entry d (d.write n offset bs) where
  length_le := by simp [Folder.write]
  contents {m} hm hne := by
    have hmn : m ≠ n := by
      rintro rfl
      exact hne h
    simp [Folder.write, contents_modify, hmn]
  kept {m} _ _ := .inl (by simp [Folder.write])
  given {m name} hname := .inl (by simpa [Folder.write] using hname)

theorem rename (h : d.name? n = some draft) : Touched draft entry d (d.rename n entry) where
  length_le := by simp
  contents _ _ := by simp
  kept {m} hm hne := by
    have hmn : m ≠ n := by
      rintro rfl
      exact hne h
    simp [name?_rename, hmn]
    grind
  given {m name} hname := by
    rw [name?_rename] at hname
    grind

theorem unlink (h : name = draft ∨ name = entry) : Touched draft entry d (d.unlink name) where
  length_le := by simp
  contents _ _ := by simp
  kept {m} hm hne := by
    rw [name?_unlink]
    grind
  given {m name'} hname := by
    rw [name?_unlink] at hname
    grind

/-- Files with another name keep it, and are not written. -/
theorem name?_iff (h : Touched draft entry d d') (hdraft : name ≠ draft) (hentry : name ≠ entry) :
    d'.name? n = some name ↔ d.name? n = some name := by
  constructor
  · intro hname
    rcases h.given hname with hname | rfl | rfl
    · exact hname
    · exact absurd rfl hdraft
    · exact absurd rfl hentry
  · intro hname
    rcases h.kept (lt_of_name? hname) (by simpa [hname] using hdraft) with hkept | ⟨hlost, -⟩
    · exact hkept.trans hname
    · exact absurd (Option.some.inj (hname.symm.trans hlost)) hentry

theorem contents_eq (h : Touched draft entry d d') (hdraft : name ≠ draft)
    (hname : d.name? n = some name) : d'.contents n = d.contents n :=
  h.contents (lt_of_name? hname) (by simpa [hname] using hdraft)

/-- What is read under other names is the same. -/
theorem read?_eq (h : Touched draft entry d d') (hdraft : name ≠ draft) (hentry : name ≠ entry) :
    d'.read? name = d.read? name := by
  ext bs
  rw [read?_eq_some_iff, read?_eq_some_iff]
  refine exists_congr fun n => ?_
  rw [h.name?_iff hdraft hentry]
  refine and_congr_right fun hname => ?_
  rw [h.contents_eq hdraft hname]

end Touched

/-- Under a name that was taken away there is nothing. -/
theorem read?_unlink (d : Folder) (name : String) :
    (d.unlink name).read? = Function.update d.read? name none := by
  funext name'
  rw [Function.update_apply]
  split
  · rename_i h
    subst h
    rw [read?, locate?_eq_none_iff.2, Option.map_none]
    intro n hn
    rw [name?_unlink] at hn
    exact absurd (Option.ite_none_left_eq_some.1 hn).2 (Option.ite_none_left_eq_some.1 hn).1
  · rename_i h
    exact (Touched.unlink (.inl rfl)).read?_eq h h

/-- A file that was opened to be written is empty. -/
theorem read?_create (d : Folder) (name : String) :
    (d.create name).1.read? = Function.update d.read? name (some []) := by
  funext name'
  rw [Function.update_apply]
  split
  · rename_i h
    rw [h, read?_eq_some_iff]
    exact ⟨_, create_spec d name⟩
  · rename_i h
    exact (Touched.create name name d).read?_eq h h

theorem read?_write (h : d.name? n = some name) (offset : Nat) (bs : Bytes) :
    (d.write n offset bs).read? =
      Function.update d.read? name (some (splice (d.contents n) offset bs)) := by
  funext name'
  rw [Function.update_apply]
  split
  · rename_i hname
    rw [hname, read?_eq_some_iff]
    exact ⟨n, (name?_modify ..).trans h, contents_write_self (lt_of_name? h) offset bs⟩
  · rename_i hname
    exact (Touched.write name h offset bs).read?_eq hname hname

/-- A file that was moved is read under its new name only. -/
theorem read?_rename (h : d.name? n = some name) (target : String) :
    (d.rename n target).read? =
      Function.update (Function.update d.read? name none) target (some (d.contents n)) := by
  have hlt := lt_of_name? h
  funext name'
  rw [Function.update_apply, Function.update_apply]
  split
  · rename_i htarget
    rw [htarget, read?_eq_some_iff]
    exact ⟨n, by rw [name?_rename, if_pos ⟨rfl, hlt⟩], contents_rename ..⟩
  rename_i htarget
  split
  · rename_i hname
    subst hname
    rw [read?, locate?_eq_none_iff.2, Option.map_none]
    intro m hm
    rw [name?_rename] at hm
    split at hm
    · exact htarget (Option.some.inj hm).symm
    · rename_i hne
      exact hne ⟨d.unique (Option.ite_none_left_eq_some.1 hm).2 h, hlt⟩
  · rename_i hname
    exact (Touched.rename h).read?_eq hname htarget

/-- Writes a file at once. -/
def put (d : Folder) (name : String) (bytes : Bytes) : Folder :=
  (d.create name).1.write (d.create name).2 0 bytes

theorem put_spec (d : Folder) (name : String) (bytes : Bytes) :
    (d.put name bytes).name? (d.create name).2 = some name ∧
      (d.put name bytes).contents (d.create name).2 = bytes := by
  obtain ⟨hname, hcontents⟩ := create_spec d name
  refine ⟨(name?_modify ..).trans hname, ?_⟩
  rw [put, contents_write_self (lt_of_name? hname), hcontents, splice_nil]

theorem read?_put (d : Folder) (name : String) (bytes : Bytes) :
    (d.put name bytes).read? = Function.update d.read? name (some bytes) := by
  obtain ⟨hname, hcontents⟩ := create_spec d name
  rw [put, read?_write hname, hcontents, splice_nil, read?_create, Function.update_idem]

/-- A directory with these files. -/
def ofFiles : List (String × Bytes) → Folder
  | [] => empty
  | (name, bytes) :: files => (ofFiles files).put name bytes

theorem read?_ofFiles (files : List (String × Bytes)) (name : String) :
    (ofFiles files).read? name = files.lookup name := by
  induction files with
  | nil => rfl
  | cons f files ih =>
    obtain ⟨name', bytes⟩ := f
    rw [ofFiles, read?_put, Function.update_apply, ih, List.lookup_cons]
    by_cases h : name = name'
    · rw [if_pos h, h, beq_self_eq_true]
    · rw [if_neg h, beq_false_of_ne h]

end Folder

end Playpen
