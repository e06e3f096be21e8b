import Mathlib.Data.Set.Function
import Playpen.Proofs.EntryNames

/-!
# What a store does to the files

A store only ever exchanges files of its own directory, whatever its operations come to
(`DiskStore.exchanged_insert`, `DiskStore.exchanged_remove`). In a directory that holds
nothing but entries every operation does what it is to do, and after it the directory
again holds nothing but entries (`DiskStore.insert_eq`, `DiskStore.remove_eq`).
-/

namespace Playpen

/-- If two steps go well the first does, and then the second. -/
theorem exists_of_bind_eq_ok {ε α β : Type} {x : Except ε α} {f : α → Except ε β} {b : β}
    (h : (x >>= f) = .ok b) : ∃ a, x = .ok a ∧ f a = .ok b := by
  cases x with
  | error why => exact nomatch h
  | ok a => exact ⟨a, rfl, h⟩

/-- Only what is not refused goes well. -/
theorem FileFault.unless_eq_ok_iff {α : Type} {refusal? : Option Refusal}
    {r : Except FileFault α} {a : α} :
    FileFault.unless refusal? r = .ok a ↔ refusal? = none ∧ r = .ok a := by
  cases refusal? with
  | none => exact (and_iff_right rfl).symm
  | some why => exact iff_of_false nofun nofun

theorem Cutoff.within?_eq_some_iff {cutoff? : Option Cutoff} {c : Cutoff} {bytes : Bytes} :
    Cutoff.within? cutoff? bytes = some c ↔ cutoff? = some c ∧ c.count < bytes.length := by
  rw [within?, Option.filter_eq_some_iff, decide_eq_true_iff]

namespace FileTree

variable {t t' : FileTree} {text source target name : String} {p : Path} {place : Place}
  {bytes : Bytes} {entries : List (String × FileTree)} {refusal? : Option Refusal}
  {cutoff? : Option Cutoff}

/-! ## Operations on files -/

theorem locateFile_eq_ok_iff :
    t.locateFile text = .ok place ↔
      t.locate text = .ok place ∧ ∀ inner, place.found? ≠ some (.directory inner) := by
  constructor
  · intro h
    obtain ⟨⟨path, found?⟩, hlocate, h⟩ := exists_of_bind_eq_ok h
    match found? with
    | some (.directory inner) => exact nomatch h
    | none | some (.file bytes) =>
      obtain rfl := Except.ok.inj h
      exact ⟨hlocate, nofun⟩
  · rintro ⟨hlocate, hfile⟩
    rw [locateFile, hlocate]
    obtain ⟨path, found?⟩ := place
    match found? with
    | some (.directory inner) => exact absurd rfl (hfile inner)
    | none | some (.file bytes) => rfl

/-- Whatever is written, it is to the file that the path leads to. -/
theorem exists_of_writeFile {result : Except FileFault Unit}
    (h : t.writeFile text bytes refusal? cutoff? = (t', result)) :
    t' = t ∨ ∃ place written, t.locateFile text = .ok place ∧
      t' = t.replace (some (.file written)) place.path := by
  rw [writeFile] at h
  split at h
  · exact .inl (Prod.mk.inj h).1.symm
  · rename_i place hplace
    obtain ⟨-, hplace⟩ := FileFault.unless_eq_ok_iff.1 hplace
    split at h
    · exact .inr ⟨place, _, hplace, (Prod.mk.inj h).1.symm⟩
    · exact .inr ⟨place, _, hplace, (Prod.mk.inj h).1.symm⟩

theorem exists_of_removeFile (h : t.removeFile text = .ok t') :
    ∃ place, t.locateFile text = .ok place ∧ t' = t.replace none place.path := by
  obtain ⟨place, hplace, h⟩ := exists_of_bind_eq_ok h
  refine ⟨place, hplace, ?_⟩
  split at h
  · exact nomatch h
  · exact (Except.ok.inj h).symm

theorem exists_of_renameFile (h : t.renameFile source target = .ok t') :
    ∃ bytes a b, t.locateFile source = .ok a ∧ t.locateFile target = .ok b ∧
      t' = (t.replace none a.path).replace (some (.file bytes)) b.path := by
  obtain ⟨bytes, -, h⟩ := exists_of_bind_eq_ok h
  obtain ⟨a, ha, h⟩ := exists_of_bind_eq_ok h
  obtain ⟨b, hb, h⟩ := exists_of_bind_eq_ok h
  exact ⟨bytes, a, b, ha, hb, (Except.ok.inj h).symm⟩

theorem readFile_of_none (h : t.locate text = .ok ⟨p, none⟩) :
    t.readFile text = .error .notFound := by
  rw [readFile, h]
  rfl

theorem readFile_of_file (h : t.locate text = .ok ⟨p, some (.file bytes)⟩) :
    t.readFile text = .ok bytes := by
  rw [readFile, h]
  rfl

theorem readFile_of_error {why : FileFault} (h : t.locate text = .error why) :
    t.readFile text = .error why := by
  rw [readFile, h]
  rfl

theorem locateFile_of_error {why : FileFault} (h : t.locate text = .error why) :
    t.locateFile text = .error why := by
  rw [locateFile, h]
  rfl

theorem writeFile_of_refused {why : FileFault}
    (h : FileFault.unless refusal? (t.locateFile text) = .error why) (bytes : Bytes)
    (cutoff? : Option Cutoff) :
    t.writeFile text bytes refusal? cutoff? = (t, .error why) := by
  rw [writeFile, h]

theorem removeFile_of_error {why : FileFault} (h : t.locate text = .error why) :
    t.removeFile text = .error why := by
  rw [removeFile, locateFile_of_error h]
  rfl

theorem removeFile_of_none (h : t.locate text = .ok ⟨p, none⟩) :
    t.removeFile text = .error .notFound := by
  rw [removeFile, locateFile_eq_ok_iff.2 ⟨h, nofun⟩]
  rfl

theorem removeFile_of_file (h : t.locate text = .ok ⟨p, some (.file bytes)⟩) :
    t.removeFile text = .ok (t.replace none p) := by
  rw [removeFile, locateFile_eq_ok_iff.2 ⟨h, nofun⟩]
  rfl

/-- All bytes are written, if the system does not stop before. -/
theorem writeFile_of_locate (h : t.locate text = .ok place)
    (hfile : ∀ inner, place.found? ≠ some (.directory inner)) (hopen : refusal? = none)
    (hall : Cutoff.within? cutoff? bytes = none) :
    t.writeFile text bytes refusal? cutoff? =
      (t.replace (some (.file bytes)) place.path, .ok ()) := by
  rw [writeFile, FileFault.unless_eq_ok_iff.2 ⟨hopen, locateFile_eq_ok_iff.2 ⟨h, hfile⟩⟩]
  dsimp only
  rw [hall]

/-- What was written before the system stops stays. -/
theorem writeFile_of_within (h : t.locate text = .ok place)
    (hfile : ∀ inner, place.found? ≠ some (.directory inner)) (hopen : refusal? = none)
    {c : Cutoff} (hcut : Cutoff.within? cutoff? bytes = some c) :
    t.writeFile text bytes refusal? cutoff? =
      (t.replace (some (.file (bytes.take c.count))) place.path, .error (.refused c.why)) := by
  rw [writeFile, FileFault.unless_eq_ok_iff.2 ⟨hopen, locateFile_eq_ok_iff.2 ⟨h, hfile⟩⟩]
  dsimp only
  rw [hcut]

theorem renameFile_of_locate (h : t.locate source = .ok ⟨p, some (.file bytes)⟩)
    (htarget : t.locate target = .ok place)
    (hfile : ∀ inner, place.found? ≠ some (.directory inner)) :
    t.renameFile source target =
      .ok ((t.replace none p).replace (some (.file bytes)) place.path) := by
  rw [renameFile, readFile_of_file h, locateFile_eq_ok_iff.2 ⟨h, nofun⟩,
    locateFile_eq_ok_iff.2 ⟨htarget, hfile⟩]
  rfl

end FileTree

namespace DiskStore

open FileTree

variable {t t' t₁ t₂ : FileTree} {s : DiskStore} {root name key : String} {p : Path}
  {process : Nat} {bytes : Bytes} {r : Refusals} {why why' : FileFault}

/-! ## How an insertion goes -/

/-- What was written is left as it is if writing fails. -/
theorem insert_of_not_written
    (hwrite : t.writeFile (s.draftPath key) bytes r.create? r.write? = (t₁, .error why)) :
    s.insert t key bytes r = (t₁, .error why) := by
  rw [insert, hwrite]

theorem insert_of_moved
    (hwrite : t.writeFile (s.draftPath key) bytes r.create? r.write? = (t₁, .ok ()))
    (hmove : FileFault.unless r.move? (t₁.renameFile (s.draftPath key) (s.entryPath key)) =
      .ok t₂) : s.insert t key bytes r = (t₂, .ok ()) := by
  rw [insert, hwrite]
  dsimp only
  rw [hmove]

/-- A draft that cannot be moved is taken away. -/
theorem insert_of_cleared
    (hwrite : t.writeFile (s.draftPath key) bytes r.create? r.write? = (t₁, .ok ()))
    (hmove : FileFault.unless r.move? (t₁.renameFile (s.draftPath key) (s.entryPath key)) =
      .error why)
    (hclear : FileFault.unless r.clear? (t₁.removeFile (s.draftPath key)) = .ok t₂) :
    s.insert t key bytes r = (t₂, .error why) := by
  rw [insert, hwrite]
  dsimp only
  rw [hmove]
  dsimp only
  rw [hclear]

/-- A draft that can be neither moved nor taken away stays. -/
theorem insert_of_stuck
    (hwrite : t.writeFile (s.draftPath key) bytes r.create? r.write? = (t₁, .ok ()))
    (hmove : FileFault.unless r.move? (t₁.renameFile (s.draftPath key) (s.entryPath key)) =
      .error why)
    (hclear : FileFault.unless r.clear? (t₁.removeFile (s.draftPath key)) = .error why') :
    s.insert t key bytes r = (t₁, .error why) := by
  rw [insert, hwrite]
  dsimp only
  rw [hmove]
  dsimp only
  rw [hclear]

/-! ## Nothing but files of the directory is exchanged -/

/-- What is located for a file of the store is in the store's directory, and no directory
    itself. -/
theorem place_of_locateFile {file : String} {place : Place} (h : IsAt t root p)
    (hname : Path.IsPlain name) (hfile : Path.IsPlain file)
    (hplace : t.locateFile (Path.joinText (Path.joinText root name) file) = .ok place) :
    place.path = p ++ [name] ++ [file] ∧
      ∀ inner, t.find? (p ++ [name] ++ [file]) ≠ some (.directory inner) := by
  obtain ⟨hlocate, hnone⟩ := locateFile_eq_ok_iff.1 hplace
  obtain rfl := h.eq_of_locate hname hfile hlocate
  exact ⟨rfl, hnone⟩

theorem exchanged_replace {file : String} {place : Place} (h : IsAt t root p)
    (hname : Path.IsPlain name) (hfile : Path.IsPlain file)
    (hplace : t.locateFile (Path.joinText (Path.joinText root name) file) = .ok place)
    (new? : Option FileTree) : Exchanged (p ++ [name]) t (t.replace new? place.path) := by
  obtain ⟨hpath, hnone⟩ := place_of_locateFile h hname hfile hplace
  rw [hpath]
  exact .exchange new? .refl hnone

theorem exchanged_writeFile {file : String} (h : IsAt t root p) (hname : Path.IsPlain name)
    (hfile : Path.IsPlain file) {refusal? : Option Refusal} {cutoff? : Option Cutoff}
    {result : Except FileFault Unit}
    (hwrite : t.writeFile (Path.joinText (Path.joinText root name) file) bytes refusal? cutoff? =
      (t', result)) :
    Exchanged (p ++ [name]) t t' := by
  rcases exists_of_writeFile hwrite with rfl | ⟨place, written, hplace, rfl⟩
  · exact .refl
  · exact exchanged_replace h hname hfile hplace (some (.file written))

theorem exchanged_removeFile {file : String} (h : IsAt t root p) (hname : Path.IsPlain name)
    (hfile : Path.IsPlain file)
    (hremove : t.removeFile (Path.joinText (Path.joinText root name) file) = .ok t') :
    Exchanged (p ++ [name]) t t' := by
  obtain ⟨place, hplace, rfl⟩ := exists_of_removeFile hremove
  exact exchanged_replace h hname hfile hplace none

theorem exchanged_renameFile {source target : String} (h : IsAt t root p)
    (hname : Path.IsPlain name) (hsource : Path.IsPlain source) (htarget : Path.IsPlain target)
    (hne : target ≠ source)
    (hrename : t.renameFile (Path.joinText (Path.joinText root name) source)
      (Path.joinText (Path.joinText root name) target) = .ok t') :
    Exchanged (p ++ [name]) t t' := by
  obtain ⟨bytes, a, b, ha, hb, rfl⟩ := exists_of_renameFile hrename
  obtain ⟨hpath, hnone⟩ := place_of_locateFile h hname hsource ha
  obtain ⟨hpath', hnone'⟩ := place_of_locateFile h hname htarget hb
  rw [hpath, hpath']
  refine .exchange _ (.exchange none .refl hnone) fun inner => ?_
  rw [find?_replace_of_ne hne]
  exact hnone' inner

/-- Whatever comes of it, putting bytes under a key exchanges files of the directory. -/
theorem exchanged_insert (h : IsAt t root p) (hname : Path.IsPlain name) (process : Nat)
    (key : String) (bytes : Bytes) (r : Refusals) :
    Exchanged (p ++ [name]) t (insert ⟨Path.joinText root name, process⟩ t key bytes r).1 := by
  have hdraft := isPlain_draftFile process key
  unfold insert
  rw [draftPath_eq]
  split
  · rename_i written why hwrite
    exact exchanged_writeFile h hname hdraft hwrite
  rename_i written hwrite
  have hwritten := exchanged_writeFile h hname hdraft hwrite
  have h' := h.survives hwritten.survives
  split
  · rename_i moved hmove
    exact hwritten.trans (exchanged_renameFile h' hname hdraft (isPlain_entryFile key)
      (draftFile_ne_entryFile process key key).symm (FileFault.unless_eq_ok_iff.1 hmove).2)
  split
  · rename_i removed hremove
    exact hwritten.trans
      (exchanged_removeFile h' hname hdraft (FileFault.unless_eq_ok_iff.1 hremove).2)
  · exact hwritten

/-- Whatever comes of it, taking away what is under a key exchanges files of the
    directory. -/
theorem exchanged_remove (h : IsAt t root p) (hname : Path.IsPlain name) (process : Nat)
    (key : String) (refusal? : Option Refusal) :
    Exchanged (p ++ [name]) t (remove ⟨Path.joinText root name, process⟩ t key refusal?).1 := by
  unfold remove
  split
  · rename_i removed hremove
    exact exchanged_removeFile h hname (isPlain_entryFile key)
      (FileFault.unless_eq_ok_iff.1 hremove).2
  · exact .refl
  · exact .refl

/-! ## Directories of entries -/

/-- What is under a key, as an entry of the directory. -/
def entry (e : String × Bytes) : String × FileTree := (entryFile e.1, .file e.2)

/-- No two of these keys have the same digest. -/
def Distinct (keys : Set String) : Prop :=
  keys.InjOn fun key => Sha256.digest (Utf8.encode key.toList)

variable {keys : Set String} {es : List (String × Bytes)}

/-- Keys whose digests differ have entries of their own. -/
theorem entryFile_eq_iff (hkeys : Distinct keys) {key' : String} (h : key ∈ keys)
    (h' : key' ∈ keys) : entryFile key = entryFile key' ↔ key = key' :=
  ⟨fun heq => hkeys h h' (entryFile_inj.1 heq), congrArg entryFile⟩

theorem entryFile_beq (hkeys : Distinct keys) {key' : String} (h : key ∈ keys) (h' : key' ∈ keys) :
    (entryFile key == entryFile key') = (key == key') := by
  rw [Bool.eq_iff_iff, beq_iff_eq, beq_iff_eq, entryFile_eq_iff hkeys h h']

theorem lookup_entry (hkeys : Distinct keys) (hes : ∀ e ∈ es, e.1 ∈ keys) (h : key ∈ keys) :
    (es.map entry).lookup (entryFile key) = (es.lookup key).map .file := by
  induction es with
  | nil => rfl
  | cons e es ih =>
    rw [List.forall_mem_cons] at hes
    obtain ⟨key', bytes⟩ := e
    rw [List.map_cons, entry, List.lookup_cons, List.lookup_cons, entryFile_beq hkeys h hes.1,
      ih hes.2]
    cases key == key' with
    | true => rfl
    | false => rfl

theorem filter_entry (hkeys : Distinct keys) (hes : ∀ e ∈ es, e.1 ∈ keys) (h : key ∈ keys) :
    ((es.map entry).filter fun e => e.1 != entryFile key) =
      (es.filter fun e => e.1 != key).map entry := by
  rw [List.filter_map]
  refine congrArg (List.map entry) (List.filter_congr fun e he => ?_)
  rw [Function.comp_apply, entry, bne, bne, entryFile_beq hkeys (hes e he) h]

theorem lookup_draft (process : Nat) (key : String) (es : List (String × Bytes)) :
    (es.map entry).lookup (draftFile process key) = none := by
  refine List.lookup_eq_none_iff.2 fun e he => ?_
  obtain ⟨e', -, rfl⟩ := List.mem_map.1 he
  exact bne_iff_ne.2 (draftFile_ne_entryFile process key e'.1)

theorem filter_draft (process : Nat) (key : String) (es : List (String × Bytes)) :
    ((es.map entry).filter fun e => e.1 != draftFile process key) = es.map entry := by
  refine List.filter_eq_self.2 fun e he => ?_
  obtain ⟨e', -, rfl⟩ := List.mem_map.1 he
  exact bne_iff_ne.2 (draftFile_ne_entryFile process key e'.1).symm

/-- The system may be asked for the paths of all files of a store. -/
structure Usable (s : DiskStore) : Prop where
  process_lt : s.process < UInt32.size
  fits : ∀ key, (s.draftPath key).utf8ByteSize ≤ Path.longest

theorem utf8ByteSize_path {file : String} (s : DiskStore) (hfile : Path.IsPlain file) :
    (s.path file).utf8ByteSize =
      (Path.leading s.directory).utf8ByteSize + file.utf8ByteSize := by
  rw [path, Path.joinText_eq hfile, String.utf8ByteSize_append]

theorem zero_not_mem_path {file : String} (hfile : Path.IsPlain file)
    (hdirectory : '\x00' ∉ s.directory.toList) (hzero : '\x00' ∉ file.toList) :
    '\x00' ∉ (s.path file).toList := by
  rw [path, Path.joinText_eq hfile, String.toList_append, List.mem_append, not_or]
  exact ⟨Path.zero_not_mem_leading hdirectory, hzero⟩

theorem zero_not_mem_entryPath (h : '\x00' ∉ s.directory.toList) (key : String) :
    '\x00' ∉ (s.entryPath key).toList := by
  rw [entryPath_eq]
  exact zero_not_mem_path (isPlain_entryFile key) h
    fun hmem => (of_mem_file isEnding_bin _ hmem).2.2 rfl

theorem zero_not_mem_draftPath (h : '\x00' ∉ s.directory.toList) (key : String) :
    '\x00' ∉ (s.draftPath key).toList := by
  rw [draftPath_eq]
  exact zero_not_mem_path (isPlain_draftFile s.process key) h
    fun hmem => (of_mem_file (isEnding_tmp s.process) _ hmem).2.2 rfl

theorem utf8ByteSize_entryPath (s : DiskStore) (key : String) :
    (s.entryPath key).utf8ByteSize = (Path.leading s.directory).utf8ByteSize + 68 := by
  rw [entryPath_eq, utf8ByteSize_path s (isPlain_entryFile key), utf8ByteSize_entryFile]

theorem utf8ByteSize_draftPath (s : DiskStore) (key : String) :
    (s.draftPath key).utf8ByteSize =
      (s.entryPath key).utf8ByteSize + (toString s.process).toList.length := by
  rw [draftPath_eq, utf8ByteSize_path s (isPlain_draftFile s.process key),
    utf8ByteSize_draftFile, utf8ByteSize_entryPath, Nat.add_assoc]

namespace Usable

theorem locate_entry (h : Usable s) (hat : IsAt t s.directory p)
    (hzero : '\x00' ∉ s.directory.toList) (key : String) :
    t.locate (s.entryPath key) = .ok ⟨p ++ [entryFile key], t.find? (p ++ [entryFile key])⟩ := by
  have hshort : 68 ≤ Path.longestName := by decide
  have hsize : (s.entryPath key).utf8ByteSize ≤ Path.longest :=
    (Nat.le_add_right _ _).trans (utf8ByteSize_draftPath s key ▸ h.fits key)
  rw [entryPath_eq]
  exact hat.locate (isPlain_entryFile key) ((utf8ByteSize_entryFile key).trans_le hshort)
    ⟨zero_not_mem_entryPath hzero key, hsize⟩

theorem locate_draft (h : Usable s) (hat : IsAt t s.directory p)
    (hzero : '\x00' ∉ s.directory.toList) (key : String) :
    t.locate (s.draftPath key) =
      .ok ⟨p ++ [draftFile s.process key], t.find? (p ++ [draftFile s.process key])⟩ := by
  have hwritten : Path.IsWritten (s.draftPath key) :=
    ⟨zero_not_mem_draftPath hzero key, h.fits key⟩
  rw [draftPath_eq] at hwritten ⊢
  exact hat.locate (isPlain_draftFile s.process key) (utf8ByteSize_draftFile_le h.process_lt key)
    hwritten

end Usable

/-! ## The draft takes its place -/

/-- A draft beside the entries is moved to the place of the entry, whether there was one
    or not. -/
theorem renameFile_draft (hs : Usable s) (hat : IsAt t s.directory p)
    (hzero : '\x00' ∉ s.directory.toList)
    (h : t.find? p = some (.directory ((draftFile s.process key, .file bytes) :: es.map entry)))
    (hkeys : Distinct keys) (hes : ∀ e ∈ es, e.1 ∈ keys) (hkey : key ∈ keys) :
    t.renameFile (s.draftPath key) (s.entryPath key) =
      .ok ((t.replace none (p ++ [draftFile s.process key])).replace (some (.file bytes))
        (p ++ [entryFile key])) := by
  have hdraft : t.find? (p ++ [draftFile s.process key]) = some (.file bytes) := by
    rw [find?_concat, h, Option.bind_some, child?, List.lookup_cons_self]
  have hentry : t.find? (p ++ [entryFile key]) = (es.lookup key).map .file := by
    rw [find?_concat, h, Option.bind_some, child?, List.lookup_cons,
      beq_false_of_ne (draftFile_ne_entryFile s.process key key).symm]
    exact lookup_entry hkeys hes hkey
  have hsource := hs.locate_draft hat hzero key
  rw [hdraft] at hsource
  refine renameFile_of_locate hsource (hs.locate_entry hat hzero key) fun inner hinner => ?_
  rw [hentry] at hinner
  obtain ⟨bytes', -, hfile⟩ := Option.map_eq_some_iff.1 hinner
  cases hfile

/-- The directory after the draft was moved to the place of the entry. -/
theorem find?_replace_moved
    (h : t.find? p = some (.directory ((draftFile process key, .file bytes) :: es.map entry)))
    (hkeys : Distinct keys) (hes : ∀ e ∈ es, e.1 ∈ keys) (hkey : key ∈ keys) :
    ((t.replace none (p ++ [draftFile process key])).replace (some (.file bytes))
        (p ++ [entryFile key])).find? p =
      some (.directory (((key, bytes) :: es.filter fun e => e.1 != key).map entry)) := by
  have htaken : (t.replace none (p ++ [draftFile process key])).find? p =
      some (.directory (es.map entry)) := by
    rw [find?_replace_above h, setChild, List.filter_cons_of_neg, filter_draft]
    · rfl
    · rw [bne_self_eq_false]
      exact Bool.false_ne_true
  rw [find?_replace_above htaken, setChild, filter_entry hkeys hes hkey]
  rfl

/-! ## What the operations do -/

/-- The directory of a store is at a place and holds just these entries. -/
structure Holds (s : DiskStore) (p : Path) (es : List (String × Bytes)) (t : FileTree) : Prop where
  zero_not_mem : '\x00' ∉ s.directory.toList
  isAt : IsAt t s.directory p
  find? : t.find? p = some (.directory (es.map entry))

namespace Holds

theorem find?_entry (h : s.Holds p es t) (hkeys : Distinct keys) (hes : ∀ e ∈ es, e.1 ∈ keys)
    (hkey : key ∈ keys) : t.find? (p ++ [entryFile key]) = (es.lookup key).map .file := by
  rw [find?_concat, h.find?, Option.bind_some]
  exact lookup_entry hkeys hes hkey

theorem find?_draft (h : s.Holds p es t) (process : Nat) (key : String) :
    t.find? (p ++ [draftFile process key]) = none := by
  rw [find?_concat, h.find?, Option.bind_some]
  exact lookup_draft process key es

/-- What is looked up is found in the directory. -/
theorem lookup_eq (h : s.Holds p es t) (hs : Usable s) (hkeys : Distinct keys)
    (hes : ∀ e ∈ es, e.1 ∈ keys) (hkey : key ∈ keys) :
    s.lookup t key = .ok (es.lookup key) := by
  have hlocate := hs.locate_entry h.isAt h.zero_not_mem key
  rw [h.find?_entry hkeys hes hkey] at hlocate
  unfold lookup
  cases hlookup : es.lookup key with
  | none =>
    rw [hlookup] at hlocate
    rw [readFile_of_none hlocate]
  | some bytes =>
    rw [hlookup] at hlocate
    rw [readFile_of_file hlocate]

/-- What is taken away is no longer in the directory. -/
theorem remove_eq (h : s.Holds p es t) (hs : Usable s) (hkeys : Distinct keys)
    (hes : ∀ e ∈ es, e.1 ∈ keys) (key : String) (hkey : key ∈ keys) :
    ∃ t', s.remove t key none = (t', .ok ()) ∧
      t'.find? p = some (.directory ((es.filter fun e => e.1 != key).map entry)) := by
  have hlocate := hs.locate_entry h.isAt h.zero_not_mem key
  rw [h.find?_entry hkeys hes hkey] at hlocate
  rw [remove, FileFault.unless]
  cases hlookup : es.lookup key with
  | none =>
    rw [hlookup] at hlocate
    rw [removeFile_of_none hlocate]
    have hkept : (es.filter fun e => e.1 != key) = es :=
      List.filter_eq_self.2 fun e he =>
        bne_comm.trans (List.lookup_eq_none_iff.1 hlookup e he)
    exact ⟨t, rfl, by rw [hkept, h.find?]⟩
  | some bytes =>
    rw [hlookup] at hlocate
    rw [removeFile_of_file hlocate]
    refine ⟨_, rfl, ?_⟩
    rw [find?_replace_above h.find?, ← filter_entry hkeys hes hkey]
    rfl

/-- The directory after the draft was written. -/
theorem find?_replace_draft (h : s.Holds p es t) (process : Nat) (key : String) (bytes : Bytes) :
    (t.replace (some (.file bytes)) (p ++ [draftFile process key])).find? p =
      some (.directory ((draftFile process key, .file bytes) :: es.map entry)) := by
  rw [find?_replace_above h.find?, setChild, filter_draft]
  rfl

/-- What is put under a key is in the directory, and nothing else that was not there. -/
theorem insert_eq (h : s.Holds p es t) (hs : Usable s) (hkeys : Distinct keys)
    (hes : ∀ e ∈ es, e.1 ∈ keys) (key : String) (hkey : key ∈ keys) (bytes : Bytes) :
    ∃ t', s.insert t key bytes .none = (t', .ok ()) ∧
      t'.find? p =
        some (.directory (((key, bytes) :: es.filter fun e => e.1 != key).map entry)) := by
  have hfree := h.find?_draft s.process key
  have hnone : ∀ inner, t.find? (p ++ [draftFile s.process key]) ≠ some (.directory inner) := by
    rw [hfree]
    exact fun _ => (Option.some_ne_none _).symm
  have hwrite : t.writeFile (s.draftPath key) bytes none none =
      (t.replace (some (.file bytes)) (p ++ [draftFile s.process key]), .ok ()) :=
    writeFile_of_locate (hs.locate_draft h.isAt h.zero_not_mem key) hnone rfl rfl
  have hfind := h.find?_replace_draft s.process key bytes
  have hat := h.isAt.survives (Exchanged.exchange (some (.file bytes)) .refl hnone).survives
  -- Of the tree with the draft only the directory matters from here on.
  generalize t.replace (some (.file bytes)) (p ++ [draftFile s.process key]) = t₁
    at hwrite hfind hat
  have hmove := renameFile_draft hs hat h.zero_not_mem hfind hkeys hes hkey
  exact ⟨_, insert_of_moved hwrite hmove, find?_replace_moved hfind hkeys hes hkey⟩

end Holds

/-! ## Paths that are too long -/

theorem lookup_of_long (hzero : '\x00' ∉ s.directory.toList) (key : String)
    (hlong : Path.longest < (s.entryPath key).utf8ByteSize) (t : FileTree) :
    s.lookup t key = .error .nameTooLong := by
  have hlocate := locate_of_long (zero_not_mem_entryPath hzero key) hlong t
  unfold lookup
  rw [readFile_of_error hlocate]

theorem insert_of_long (hzero : '\x00' ∉ s.directory.toList) (key : String)
    (hlong : Path.longest < (s.entryPath key).utf8ByteSize) (t : FileTree) (bytes : Bytes) :
    s.insert t key bytes .none = (t, .error .nameTooLong) := by
  have hlong' : Path.longest < (s.draftPath key).utf8ByteSize := by
    rw [utf8ByteSize_draftPath]
    exact hlong.trans_le (Nat.le_add_right _ _)
  have hlocate := locate_of_long (zero_not_mem_draftPath hzero key) hlong' t
  have hrefused : FileFault.unless none (t.locateFile (s.draftPath key)) = .error .nameTooLong :=
    locateFile_of_error hlocate
  exact insert_of_not_written (writeFile_of_refused hrefused bytes none)

theorem remove_of_long (hzero : '\x00' ∉ s.directory.toList) (key : String)
    (hlong : Path.longest < (s.entryPath key).utf8ByteSize) (t : FileTree) :
    s.remove t key none = (t, .error .nameTooLong) := by
  have hlocate := locate_of_long (zero_not_mem_entryPath hzero key) hlong t
  rw [remove, FileFault.unless, removeFile_of_error hlocate]

end DiskStore

end Playpen
