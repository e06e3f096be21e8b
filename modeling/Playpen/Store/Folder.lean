import Playpen.FileTree

/-!
# Open files

A file of a directory is opened by its name. From then on it is the same file that is
written or read, whatever becomes of the name: it may be given to another file or taken
away. So files are known by number here, and each has a name or has it no longer.
-/

namespace Playpen

/-- A file, and the name by which it can be opened if it still has one. -/
structure Folder.File where
  name? : Option String
  bytes : Bytes
deriving DecidableEq, Repr

/-- The name of a file among these. -/
def Folder.nameAmong (files : List Folder.File) (n : Nat) : Option String :=
  files[n]?.bind Folder.File.name?

/-- The files that a directory has, and those it had. They are known by number. -/
structure Folder where
  files : List Folder.File
  /-- A name is that of one file. -/
  unique : ∀ {m n : Nat} {name : String}, Folder.nameAmong files m = some name →
    Folder.nameAmong files n = some name → m = n

namespace Folder

/-- The name of a file. -/
def name? (d : Folder) (n : Nat) : Option String := nameAmong d.files n

/-- The bytes of a file. -/
def contents (d : Folder) (n : Nat) : Bytes := (d.files[n]?.map File.bytes).getD []

/-- A directory without files. -/
def empty : Folder where
  files := []
  unique := by simp [nameAmong]

theorem nameAmong_push (files : List File) (n : Nat) :
    nameAmong (files ++ [⟨none, []⟩]) n = nameAmong files n := by
  rw [nameAmong, nameAmong, List.getElem?_append]
  split
  · rfl
  · rename_i h
    rw [List.getElem?_eq_none (Nat.le_of_not_lt h)]
    cases n - files.length <;> rfl

/-- Makes a file that has no name yet. -/
def push (d : Folder) : Folder where
  files := d.files ++ [⟨none, []⟩]
  unique {k m name} := by
    rw [nameAmong_push, nameAmong_push]
    exact d.unique

theorem nameAmong_modify (files : List File) (n : Nat) (f : Bytes → Bytes) (m : Nat) :
    nameAmong (files.modify n fun x => { x with bytes := f x.bytes }) m = nameAmong files m := by
  rw [nameAmong, nameAmong, List.getElem?_modify]
  cases files[m]? with
  | none => rfl
  | some x => split <;> rfl

/-- Changes the bytes of a file. -/
def modify (d : Folder) (n : Nat) (f : Bytes → Bytes) : Folder where
  files := d.files.modify n fun x => { x with bytes := f x.bytes }
  unique {k m name} := by
    rw [nameAmong_modify, nameAmong_modify]
    exact d.unique

/-- These files, when none of them has the name any longer. -/
def withoutName (files : List File) (name : String) : List File :=
  files.map fun x => if x.name? = some name then { x with name? := none } else x

theorem nameAmong_withoutName (files : List File) (name : String) (n : Nat) :
    nameAmong (withoutName files name) n =
      if nameAmong files n = some name then none else nameAmong files n := by
  rw [nameAmong, nameAmong, withoutName, List.getElem?_map]
  cases files[n]? with
  | none => rfl
  | some x =>
    rw [Option.map_some, Option.bind_some, Option.bind_some]
    split <;> rfl

/-- Takes a name away. -/
def unlink (d : Folder) (name : String) : Folder where
  files := withoutName d.files name
  unique {m n name'} := by
    rw [nameAmong_withoutName, nameAmong_withoutName]
    intro hm hn
    exact d.unique (Option.ite_none_left_eq_some.1 hm).2 (Option.ite_none_left_eq_some.1 hn).2

theorem nameAmong_named (files : List File) (name : String) (n m : Nat) :
    nameAmong ((withoutName files name).modify n fun x => { x with name? := some name }) m =
      if m = n ∧ n < files.length then some name
      else if nameAmong files m = some name then none else nameAmong files m := by
  rw [← nameAmong_withoutName, nameAmong, nameAmong, List.getElem?_modify]
  have hlength : (withoutName files name).length = files.length := List.length_map _
  by_cases h : m < files.length
  · rw [List.getElem?_eq_getElem (hlength ▸ h)]
    by_cases hm : m = n
    · subst hm
      simp [h]
    · simp [hm, Ne.symm hm]
  · rw [List.getElem?_eq_none (hlength ▸ Nat.le_of_not_lt h), if_neg (by omega)]
    rfl

/-- Gives a file another name, which is then no other's. -/
def rename (d : Folder) (n : Nat) (name : String) : Folder where
  files := (withoutName d.files name).modify n fun x => { x with name? := some name }
  unique {k m name'} := by
    rw [nameAmong_named, nameAmong_named]
    have hunique := @Folder.unique d k m name'
    grind

/-- The file with a name. -/
def locate? (d : Folder) (name : String) : Option Nat :=
  d.files.findIdx? fun x => x.name? = some name

/-- What is read under a name. -/
def read? (d : Folder) (name : String) : Option Bytes := (d.locate? name).map d.contents

/-- Opens the file with a name to write it anew, and makes it if there is none. -/
def create (d : Folder) (name : String) : Folder × Nat :=
  match d.locate? name with
  | some n => (d.modify n fun _ => [], n)
  | none => (d.push.rename d.files.length name, d.files.length)

/-- Bytes after others were written at an offset. A gap is filled with zeros, but not to
    write nothing. -/
def splice (old : Bytes) (offset : Nat) (bs : Bytes) : Bytes :=
  if bs.isEmpty then old
  else old.take offset ++ List.replicate (offset - old.length) 0 ++ bs ++
    old.drop (offset + bs.length)

/-- Writes to a file that is open. -/
def write (d : Folder) (n offset : Nat) (bs : Bytes) : Folder :=
  d.modify n fun old => splice old offset bs

/-- Moves the file with a name to another, in the place of what was there. -/
def move? (d : Folder) (source target : String) : Option Folder :=
  (d.locate? source).map fun n => d.rename n target

/-! ## Names and contents -/

variable {d : Folder} {name : String} {m n : Nat}

@[simp]
theorem name?_push (d : Folder) (n : Nat) : d.push.name? n = d.name? n := nameAmong_push d.files n

@[simp]
theorem name?_modify (d : Folder) (n : Nat) (f : Bytes → Bytes) (m : Nat) :
    (d.modify n f).name? m = d.name? m := nameAmong_modify d.files n f m

theorem name?_unlink (d : Folder) (name : String) (n : Nat) :
    (d.unlink name).name? n = if d.name? n = some name then none else d.name? n :=
  nameAmong_withoutName d.files name n

theorem name?_rename (d : Folder) (n : Nat) (name : String) (m : Nat) :
    (d.rename n name).name? m =
      if m = n ∧ n < d.files.length then some name
      else if d.name? m = some name then none else d.name? m :=
  nameAmong_named d.files name n m

@[simp]
theorem length_push (d : Folder) : d.push.files.length = d.files.length + 1 :=
  List.length_append

@[simp]
theorem length_modify (d : Folder) (n : Nat) (f : Bytes → Bytes) :
    (d.modify n f).files.length = d.files.length := List.length_modify ..

@[simp]
theorem length_unlink (d : Folder) (name : String) :
    (d.unlink name).files.length = d.files.length := List.length_map _

@[simp]
theorem length_rename (d : Folder) (n : Nat) (name : String) :
    (d.rename n name).files.length = d.files.length :=
  (List.length_modify ..).trans (List.length_map _)

@[simp]
theorem contents_push (d : Folder) (n : Nat) : d.push.contents n = d.contents n := by
  rw [contents, contents, push, List.getElem?_append]
  split
  · rfl
  · rename_i h
    rw [List.getElem?_eq_none (Nat.le_of_not_lt h)]
    cases n - d.files.length <;> rfl

theorem contents_of_length_le (h : d.files.length ≤ n) : d.contents n = [] := by
  rw [contents, List.getElem?_eq_none h]
  rfl

theorem contents_modify (d : Folder) (n : Nat) (f : Bytes → Bytes) (m : Nat) :
    (d.modify n f).contents m =
      if m = n ∧ n < d.files.length then f (d.contents m) else d.contents m := by
  rw [contents, contents, modify, List.getElem?_modify]
  by_cases h : m < d.files.length
  · rw [List.getElem?_eq_getElem h]
    grind
  · rw [List.getElem?_eq_none (Nat.le_of_not_lt h), if_neg (by omega)]
    rfl

theorem bytes_withoutName (files : List File) (name : String) (n : Nat) :
    (withoutName files name)[n]?.map File.bytes = files[n]?.map File.bytes := by
  rw [withoutName, List.getElem?_map]
  cases files[n]? with
  | none => rfl
  | some x =>
    rw [Option.map_some, Option.map_some]
    split <;> rfl

@[simp]
theorem contents_unlink (d : Folder) (name : String) (n : Nat) :
    (d.unlink name).contents n = d.contents n := by
  rw [contents, contents, unlink, bytes_withoutName]

@[simp]
theorem contents_rename (d : Folder) (n : Nat) (name : String) (m : Nat) :
    (d.rename n name).contents m = d.contents m := by
  rw [contents, contents, rename, ← bytes_withoutName d.files name, List.getElem?_modify]
  cases (withoutName d.files name)[m]? with
  | none => rfl
  | some x =>
    simp only [Option.map_eq_map, Option.map_some]
    split <;> rfl

theorem name?_eq_some_iff :
    d.name? n = some name ↔ ∃ h : n < d.files.length, d.files[n].name? = some name := by
  rw [name?, nameAmong, Option.bind_eq_some_iff]
  constructor
  · rintro ⟨x, hx, hname⟩
    obtain ⟨h, rfl⟩ := List.getElem?_eq_some_iff.1 hx
    exact ⟨h, hname⟩
  · rintro ⟨h, hname⟩
    exact ⟨_, List.getElem?_eq_getElem h, hname⟩

theorem lt_of_name? (h : d.name? n = some name) : n < d.files.length :=
  (name?_eq_some_iff.1 h).1

/-- A file is located by its name. -/
theorem locate?_eq_some_iff : d.locate? name = some n ↔ d.name? n = some name := by
  rw [locate?, List.findIdx?_eq_some_iff_getElem, name?_eq_some_iff]
  simp only [decide_eq_true_eq]
  constructor
  · rintro ⟨h, hname, -⟩
    exact ⟨h, hname⟩
  · rintro ⟨h, hname⟩
    refine ⟨h, hname, fun m hm hother => ?_⟩
    have heq := d.unique (name?_eq_some_iff.2 ⟨Nat.lt_trans hm h, hother⟩)
      (name?_eq_some_iff.2 ⟨h, hname⟩)
    exact Nat.ne_of_lt hm heq

theorem locate?_eq_none_iff : d.locate? name = none ↔ ∀ n, d.name? n ≠ some name := by
  simp [Option.eq_none_iff_forall_ne_some, locate?_eq_some_iff]

end Folder

end Playpen
