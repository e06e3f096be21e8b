import Playpen.Proofs.StoreAgreement

/-!
# Stores on disk when something is in the way

The directory of a store may be gone, or be a file, there may be directories where the
store wants to have its files, and the system may refuse any step. There are five ways
that an insertion can go (`DiskStore.Comes`), and in those that fail nobody finds anything
else than before. A draft that could not be moved is taken away again, but one that could
not be written to its end is not: it stays, with what was written
(`DiskStore.clears_or_strands`). A lookup finds nothing exactly where something is missing
on the way (`DiskStore.lookup_eq_none_iff`), and a removal that finds nothing goes well.
-/

namespace Playpen

/-- A path that the system does not refuse before it has looked at any file. -/
structure Path.IsAdmitted (text : String) : Prop extends Path.IsWritten text where
  name_le : ∀ name ∈ Path.ofText text, name.utf8ByteSize ≤ Path.longestName

namespace FileTree

variable {t t' : FileTree} {text name : String} {p : Path} {above names : List String}

/-! ## What is missing -/

/-- From the directory with the names `above` one comes along `names` to a directory in
    which the next name stands for nothing. -/
def Misses (t : FileTree) (above names : List String) : Prop :=
  ∃ before name after above', names = before ++ name :: after ∧ Walks t above before above' ∧
    name ≠ "." ∧ name ≠ ".." ∧ t.find? (name :: above').reverse = none

/-- Something is missing where a path leads to, or on the way. -/
def IsMissing (t : FileTree) (text : String) : Prop := t.Misses [] (Path.ofText text)

theorem misses_of_walkFrom (h : t.walkFrom above names = .error .notFound) :
    t.Misses above names := by
  induction names generalizing above with
  | nil => cases h
  | cons name names ih =>
    -- Once the walk goes on, what is missing is missing further on.
    have hmore {above₁ : List String} (h : t.walkFrom above₁ names = .error .notFound)
        (hstep : ∀ {before above'}, Walks t above₁ before above' →
          Walks t above (name :: before) above') : t.Misses above (name :: names) := by
      obtain ⟨before, name', after, above', rfl, hw, hmiss⟩ := ih h
      exact ⟨name :: before, name', after, above', rfl, hstep hw, hmiss⟩
    rw [walkFrom] at h
    split at h
    · exact hmore h fun hw => .here ‹_› hw
    split at h
    · exact hmore h fun hw => .back ‹_› hw
    split at h
    · cases h
    split at h
    · cases h
    split at h
    · rename_i hdot hdots _ _ _ hfind
      exact ⟨[], name, names, above, rfl, .nil above, hdot, hdots, hfind⟩
    · cases h
    · rename_i hdot hdots hlong _ _ entries hfind
      exact hmore h fun hw => .enter hdot hdots (Nat.not_lt.1 hlong) hfind hw

theorem walkFrom_of_misses (h : t.Misses above names)
    (hnames : ∀ name ∈ names, name.utf8ByteSize ≤ Path.longestName) :
    t.walkFrom above names = .error .notFound ∨
      ∃ p, t.walkFrom above names = .ok ⟨p, none⟩ := by
  obtain ⟨before, name, after, above', rfl, hw, hdot, hdots, hfind⟩ := h
  have hshort : name.utf8ByteSize ≤ Path.longestName :=
    hnames name (List.mem_append_right _ List.mem_cons_self)
  rw [hw.walkFrom_append (List.cons_ne_nil name after), walkFrom, if_neg hdot, if_neg hdots,
    if_neg (Nat.not_lt.2 hshort), hfind]
  split
  · exact .inr ⟨_, rfl⟩
  · exact .inl rfl

theorem readFile_of_directory {entries : List (String × FileTree)}
    (h : t.locate text = .ok ⟨p, some (.directory entries)⟩) :
    t.readFile text = .error .isDirectory := by
  rw [readFile, h]
  rfl

theorem removeFile_of_directory {entries : List (String × FileTree)}
    (h : t.locate text = .ok ⟨p, some (.directory entries)⟩) :
    t.removeFile text = .error .isDirectory := by
  rw [removeFile, locateFile, h]
  rfl

/-- What is called by a name in a directory is missing if there is nothing of that name. -/
theorem IsAt.isMissing {base : String} (h : IsAt t base p) (hname : Path.IsPlain name)
    (hfind : t.find? (p ++ [name]) = none) : t.IsMissing (Path.joinText base name) := by
  refine ⟨Path.ofText base, name, [], p.reverse, Path.ofText_joinText hname, h, hname.ne_dot,
    hname.ne_dots, ?_⟩
  rw [List.reverse_cons, List.reverse_reverse, hfind]

/-- A file is not found exactly where something is missing. -/
theorem readFile_eq_notFound_iff {base : String} (hname : Path.IsPlain name)
    (hadmitted : Path.IsAdmitted (Path.joinText base name)) :
    t.readFile (Path.joinText base name) = .error .notFound ↔
      t.IsMissing (Path.joinText base name) := by
  have hlocate : t.locate (Path.joinText base name) =
      t.walkFrom [] (Path.ofText (Path.joinText base name)) := by
    rw [locate_eq, if_neg fun h => hadmitted.zero_not_mem (List.contains_iff_mem.1 h),
      if_neg (Nat.not_lt.2 hadmitted.size_le)]
  constructor
  · intro h
    cases hplace : t.locate (Path.joinText base name) with
    | error why =>
      rw [readFile_of_error hplace] at h
      obtain rfl := Except.error.inj h
      exact misses_of_walkFrom (hlocate.symm.trans hplace)
    | ok place =>
      obtain ⟨p, hat, rfl, -⟩ := IsAt.of_locate hname hplace
      refine hat.isMissing hname ?_
      cases hfind : t.find? (p ++ [name]) with
      | none => rfl
      | some found =>
        rw [hfind] at hplace
        cases found with
        | file bytes =>
          rw [readFile_of_file hplace] at h
          exact nomatch h
        | directory entries =>
          rw [readFile_of_directory hplace] at h
          exact nomatch h
  · intro h
    rcases walkFrom_of_misses h hadmitted.name_le with hwalk | ⟨p, hwalk⟩
    · exact readFile_of_error (hlocate.trans hwalk)
    · exact readFile_of_none (hlocate.trans hwalk)

/-- To take a file away fails for want of it exactly where to read it does. -/
theorem removeFile_eq_notFound_iff :
    t.removeFile text = .error .notFound ↔ t.readFile text = .error .notFound := by
  cases hplace : t.locate text with
  | error why => rw [readFile_of_error hplace, removeFile_of_error hplace, Except.error.injEq,
      Except.error.injEq]
  | ok place =>
    obtain ⟨p, _ | bytes | entries⟩ := place
    · rw [readFile_of_none hplace, removeFile_of_none hplace, Except.error.injEq,
        Except.error.injEq]
    · rw [readFile_of_file hplace, removeFile_of_file hplace]
      exact iff_of_false nofun nofun
    · rw [readFile_of_directory hplace, removeFile_of_directory hplace, Except.error.injEq,
        Except.error.injEq]

/-! ## Where a walk ends -/

/-- Where a path leads to there is a directory, unless it leads to the top and all there
    is is one file. -/
theorem IsAt.directory_or_top (h : IsAt t text p) :
    (∃ entries, t.find? p = some (.directory entries)) ∨ p = [] ∧ ∃ bytes, t = .file bytes := by
  have hdrop {above names above' : List String} (hw : Walks t above names above')
      (habove : ∀ k, ∃ sub, t.find? (above.drop k).reverse = some sub ∧
        ((∃ bytes, sub = .file bytes) → above.drop k = [])) :
      ∃ sub, t.find? above'.reverse = some sub ∧ ((∃ bytes, sub = .file bytes) → above' = []) := by
    -- A walk may go back any number of times, so this has to be known of all places above.
    induction hw with
    | nil above => exact habove 0
    | here _ _ ih => exact ih habove
    | back _ _ ih =>
      refine ih fun k => ?_
      rw [List.drop_drop]
      exact habove (1 + k)
    | enter _ _ _ hfind _ ih =>
      refine ih fun k => ?_
      cases k with
      | zero => exact ⟨_, hfind, nofun⟩
      | succ k => exact habove k
  obtain ⟨sub, hfind, hfile⟩ := hdrop h fun k => by
    rw [List.drop_nil]
    exact ⟨t, rfl, fun _ => rfl⟩
  rw [List.reverse_reverse] at hfind
  cases sub with
  | directory entries => exact .inl ⟨entries, hfind⟩
  | file bytes =>
    obtain rfl : p = [] := List.reverse_eq_nil_iff.1 (hfile ⟨bytes, rfl⟩)
    exact .inr ⟨rfl, bytes, Option.some.inj hfind⟩

/-- Files cannot be moved over directories. -/
theorem renameFile_of_directory {source target : String} {bytes : Bytes} {q : Path}
    {entries : List (String × FileTree)} (h : t.locate source = .ok ⟨p, some (.file bytes)⟩)
    (htarget : t.locate target = .ok ⟨q, some (.directory entries)⟩) :
    t.renameFile source target = .error .isDirectory := by
  have hfile (inner : List (String × FileTree)) :
      some (FileTree.file bytes) ≠ some (.directory inner) := by
    intro hinner
    cases hinner
  rw [renameFile, readFile_of_file h, locateFile_eq_ok_iff.2 ⟨h, hfile⟩, locateFile, htarget]
  rfl

theorem renameFile_of_none {source target : String} (h : t.locate source = .ok ⟨p, none⟩) :
    t.renameFile source target = .error .notFound := by
  rw [renameFile, readFile_of_none h]
  rfl

end FileTree

namespace DiskStore

open FileTree Store

variable {s : DiskStore} {t t' : FileTree} {key key' : String} {bytes : Bytes} {p : Path}
  {r : Refusals}

/-! ## Files of a store -/

theorem zero_not_mem_directory {name : String} (hname : Path.IsPlain name)
    (h : '\x00' ∉ (s.path name).toList) : '\x00' ∉ s.directory.toList := by
  intro hmem
  refine h ?_
  rw [path, Path.joinText_eq hname, String.toList_append, Path.leading]
  refine List.mem_append_left _ ?_
  split
  · exact hmem
  · rw [String.toList_append]
    exact List.mem_append_left _ hmem

/-- If the system may be asked for one entry it may be asked for all. -/
theorem isWritten_entryPath (h : Path.IsWritten (s.entryPath key)) (key' : String) :
    Path.IsWritten (s.entryPath key') := by
  have hdirectory := zero_not_mem_directory (isPlain_entryFile key) h.zero_not_mem
  refine ⟨zero_not_mem_entryPath hdirectory key', ?_⟩
  rw [utf8ByteSize_entryPath, ← utf8ByteSize_entryPath s key]
  exact h.size_le

/-- If the system may be asked for a draft it may be asked for the entry. -/
theorem isWritten_of_draftPath (h : Path.IsWritten (s.draftPath key)) :
    Path.IsWritten (s.entryPath key) := by
  have hsize := h.size_le
  rw [utf8ByteSize_draftPath] at hsize
  rw [draftPath_eq] at h
  have hdirectory := zero_not_mem_directory (isPlain_draftFile s.process key) h.zero_not_mem
  exact ⟨zero_not_mem_entryPath hdirectory key, (Nat.le_add_right _ _).trans hsize⟩

/-- Where an entry is, in the directory of a store. -/
theorem locate_entryPath (hat : IsAt t s.directory p) (h : Path.IsWritten (s.entryPath key))
    (key' : String) :
    t.locate (s.entryPath key') =
      .ok ⟨p ++ [entryFile key'], t.find? (p ++ [entryFile key'])⟩ :=
  hat.locate (isPlain_entryFile key') ((utf8ByteSize_entryFile key').trans_le (by decide))
    (isWritten_entryPath h key')

theorem locate_draftPath (hat : IsAt t s.directory p) (h : Path.IsWritten (s.draftPath key))
    (hshort : (draftFile s.process key).utf8ByteSize ≤ Path.longestName) :
    t.locate (s.draftPath key) =
      .ok ⟨p ++ [draftFile s.process key], t.find? (p ++ [draftFile s.process key])⟩ := by
  rw [draftPath_eq] at h ⊢
  exact hat.locate (isPlain_draftFile s.process key) hshort h

/-- What is looked up depends on the place of the entry only. -/
theorem lookup_congr (h : t'.locate (s.entryPath key) = t.locate (s.entryPath key)) :
    s.lookup t' key = s.lookup t key := by
  unfold lookup
  rw [readFile, readFile, h]

theorem lookup_eq_none_iff_readFile :
    s.lookup t key = .ok none ↔ t.readFile (s.entryPath key) = .error .notFound := by
  unfold lookup
  split
  · rename_i hbytes
    rw [hbytes]
    exact iff_of_false nofun nofun
  · rename_i hnone
    exact iff_of_true rfl hnone
  · rename_i why hwhy herror
    rw [herror]
    exact iff_of_false nofun fun heq => hwhy (Except.error.inj heq)

/-- What is looked up is what is found at the place of the entry. -/
theorem lookup_eq_of_find? (hat : IsAt t s.directory p) (hat' : IsAt t' s.directory p)
    (h : Path.IsWritten (s.entryPath key))
    (hfind : t'.find? (p ++ [entryFile key']) = t.find? (p ++ [entryFile key'])) :
    s.lookup t' key' = s.lookup t key' := by
  refine lookup_congr ?_
  rw [locate_entryPath hat h, locate_entryPath hat' h, hfind]

/-! ## What comes of an insertion -/

/-- Where a draft can be opened it is in the directory of the store. -/
theorem exists_of_locateDraft {place : Place} (h : t.locateFile (s.draftPath key) = .ok place) :
    ∃ p, IsAt t s.directory p ∧ Path.IsWritten (s.draftPath key) ∧
      (draftFile s.process key).utf8ByteSize ≤ Path.longestName ∧
      (∀ inner, t.find? (p ++ [draftFile s.process key]) ≠ some (.directory inner)) ∧
      place.path = p ++ [draftFile s.process key] := by
  obtain ⟨hlocate, hfile⟩ := locateFile_eq_ok_iff.1 h
  rw [draftPath_eq] at hlocate ⊢
  obtain ⟨p, hat, rfl, hshort, hwritten⟩ :=
    IsAt.of_locate (isPlain_draftFile s.process key) hlocate
  exact ⟨p, hat, hwritten, hshort, hfile, rfl⟩

/-- The directory of the store is at `p` in both trees, and the system may be asked for
    drafts in it. -/
structure Stays (s : DiskStore) (key : String) (p : Path) (t t' : FileTree) : Prop where
  isWritten : Path.IsWritten (s.draftPath key)
  draft_le : (draftFile s.process key).utf8ByteSize ≤ Path.longestName
  isAt : IsAt t s.directory p
  isAt' : IsAt t' s.directory p
  directory : ∃ entries, t'.find? p = some (.directory entries)

/-- The draft can be made: no directory is in its place. -/
structure Free (s : DiskStore) (key : String) (p : Path) (t : FileTree) : Prop
    extends s.Stays key p t t where
  draft_ne : ∀ inner, t.find? (p ++ [draftFile s.process key]) ≠ some (.directory inner)

/-- Then there is a draft with these bytes, and all else is as it was. -/
structure Drafted (s : DiskStore) (key : String) (bytes : Bytes) (p : Path) (t t' : FileTree) :
    Prop extends s.Stays key p t t' where
  draft_eq : t'.find? (p ++ [draftFile s.process key]) = some (.file bytes)
  find?_eq {name : String} : name ≠ draftFile s.process key →
    t'.find? (p ++ [name]) = t.find? (p ++ [name])

/-- Then there is no draft, and all else but the entry is as it was. -/
structure Cleared (s : DiskStore) (key : String) (p : Path) (t t' : FileTree) : Prop
    extends s.Stays key p t t' where
  draft_eq : t'.find? (p ++ [draftFile s.process key]) = none
  find?_eq {name : String} : name ≠ draftFile s.process key → name ≠ entryFile key →
    t'.find? (p ++ [name]) = t.find? (p ++ [name])

/-- A file in the directory is exchanged. -/
theorem Stays.replace {name : String} (h : s.Stays key p t t')
    (hfile : ∀ inner, t'.find? (p ++ [name]) ≠ some (.directory inner))
    (new? : Option FileTree) : s.Stays key p t (t'.replace new? (p ++ [name])) where
  isWritten := h.isWritten
  draft_le := h.draft_le
  isAt := h.isAt
  isAt' := h.isAt'.survives (Exchanged.exchange new? .refl hfile).survives
  directory := by
    obtain ⟨entries, hdir⟩ := h.directory
    exact ⟨_, find?_replace_above hdir new? name⟩

namespace Free

/-- What is written is a draft. -/
theorem drafted (h : s.Free key p t) (bytes : Bytes) :
    s.Drafted key bytes p t (t.replace (some (.file bytes)) (p ++ [draftFile s.process key])) := by
  obtain ⟨entries, hdir⟩ := h.directory
  exact {
    toStays := h.toStays.replace h.draft_ne _
    draft_eq := find?_replace hdir _ _
    find?_eq := fun hname => find?_replace_of_ne hname _ t p }

theorem writeFile_eq (h : s.Free key p t) {refusal? : Option Refusal} {cutoff? : Option Cutoff}
    (hopen : refusal? = none) (hall : Cutoff.within? cutoff? bytes = none) :
    t.writeFile (s.draftPath key) bytes refusal? cutoff? =
      (t.replace (some (.file bytes)) (p ++ [draftFile s.process key]), .ok ()) :=
  writeFile_of_locate (locate_draftPath h.isAt h.isWritten h.draft_le) h.draft_ne hopen hall

theorem writeFile_of_within (h : s.Free key p t) {refusal? : Option Refusal}
    {cutoff? : Option Cutoff} {c : Cutoff} (hopen : refusal? = none)
    (hcut : Cutoff.within? cutoff? bytes = some c) :
    t.writeFile (s.draftPath key) bytes refusal? cutoff? =
      (t.replace (some (.file (bytes.take c.count))) (p ++ [draftFile s.process key]),
        .error (.refused c.why)) :=
  FileTree.writeFile_of_within (locate_draftPath h.isAt h.isWritten h.draft_le) h.draft_ne hopen
    hcut

end Free

/-- A draft that can be opened can be made, if there is any directory to make it in. -/
theorem free_or_top {place : Place} (h : t.locateFile (s.draftPath key) = .ok place) :
    (∃ p, s.Free key p t) ∨
      (∀ new?, t.replace new? place.path = t) ∧ ∃ p, t.locate (s.draftPath key) = .ok ⟨p, none⟩ := by
  obtain ⟨p, hat, hwritten, hshort, hdraft, hpath⟩ := exists_of_locateDraft h
  rcases hat.directory_or_top with ⟨entries, hdir⟩ | ⟨rfl, file, rfl⟩
  · exact .inl ⟨p, ⟨hwritten, hshort, hat, hat, entries, hdir⟩, hdraft⟩
  · rw [hpath]
    exact .inr ⟨fun _ => rfl, _, locate_draftPath hat hwritten hshort⟩

namespace Drafted

variable {t₁ : FileTree}

/-- The draft is taken away. -/
theorem cleared (h : s.Drafted key bytes p t t₁) :
    s.Cleared key p t (t₁.replace none (p ++ [draftFile s.process key])) := by
  obtain ⟨entries, hdir⟩ := h.directory
  have hnone : ∀ inner, t₁.find? (p ++ [draftFile s.process key]) ≠ some (.directory inner) := by
    rw [h.draft_eq]
    exact nofun
  exact {
    toStays := h.toStays.replace hnone none
    draft_eq := find?_replace hdir _ none
    find?_eq := fun hname _ => by rw [find?_replace_of_ne hname, h.find?_eq hname] }

theorem locate_draft (h : s.Drafted key bytes p t t₁) :
    t₁.locate (s.draftPath key) = .ok ⟨p ++ [draftFile s.process key], some (.file bytes)⟩ := by
  rw [locate_draftPath h.isAt' h.isWritten h.draft_le, h.draft_eq]

theorem locate_entry (h : s.Drafted key bytes p t t₁) :
    t₁.locate (s.entryPath key) = .ok ⟨p ++ [entryFile key], t.find? (p ++ [entryFile key])⟩ := by
  rw [locate_entryPath h.isAt' (isWritten_of_draftPath h.isWritten),
    h.find?_eq (draftFile_ne_entryFile s.process key key).symm]

theorem readFile_draft (h : s.Drafted key bytes p t t₁) :
    t₁.readFile (s.draftPath key) = .ok bytes := readFile_of_file h.locate_draft

/-- Drafts are not looked up. -/
theorem lookup_eq (h : s.Drafted key bytes p t t₁) (key' : String) :
    s.lookup t₁ key' = s.lookup t key' :=
  lookup_eq_of_find? h.isAt h.isAt' (isWritten_of_draftPath h.isWritten)
    (h.find?_eq (draftFile_ne_entryFile s.process key key').symm)

end Drafted

namespace Cleared

theorem lookup_eq (h : s.Cleared key p t t')
    (hfind : t'.find? (p ++ [entryFile key']) = t.find? (p ++ [entryFile key'])) :
    s.lookup t' key' = s.lookup t key' :=
  lookup_eq_of_find? h.isAt h.isAt' (isWritten_of_draftPath h.isWritten) hfind

/-- Only entries of keys with the same digest may have changed. -/
theorem lookup_eq_of_ne (h : s.Cleared key p t t') (hne : entryFile key' ≠ entryFile key) :
    s.lookup t' key' = s.lookup t key' :=
  h.lookup_eq (h.find?_eq (draftFile_ne_entryFile s.process key key').symm hne)

theorem readFile_draft (h : s.Cleared key p t t') :
    t'.readFile (s.draftPath key) = .error .notFound := by
  have hlocate := locate_draftPath h.isAt' h.isWritten h.draft_le
  rw [h.draft_eq] at hlocate
  exact readFile_of_none hlocate

/-- The bytes are put at the place of the entry. -/
theorem replace_entry (h : s.Cleared key p t t')
    (hentry : ∀ inner, t'.find? (p ++ [entryFile key]) ≠ some (.directory inner))
    (bytes : Bytes) :
    s.Cleared key p t (t'.replace (some (.file bytes)) (p ++ [entryFile key])) ∧
      s.lookup (t'.replace (some (.file bytes)) (p ++ [entryFile key])) key = .ok (some bytes) := by
  obtain ⟨entries, hdir⟩ := h.directory
  have hstays := h.toStays.replace hentry (some (.file bytes))
  have hlocate := locate_entryPath hstays.isAt' (isWritten_of_draftPath h.isWritten) key
  rw [find?_replace hdir] at hlocate
  refine ⟨{
    toStays := hstays
    draft_eq := ?_
    find?_eq := fun hdraft hname => ?_ }, ?_⟩
  · rw [find?_replace_of_ne (draftFile_ne_entryFile s.process key key), h.draft_eq]
  · rw [find?_replace_of_ne hname, h.find?_eq hdraft hname]
  · unfold lookup
    rw [readFile_of_file hlocate]

end Cleared

/-- The draft of an insertion is made: nothing is in the way of it, and the system does not
    refuse it. -/
def MakesDraft (s : DiskStore) (t : FileTree) (key : String) (r : Refusals) : Prop :=
  ∃ t', t.writeFile (s.draftPath key) [] r.create? none = (t', .ok ()) ∧
    t'.readFile (s.draftPath key) = .ok []

theorem makesDraft_iff : s.MakesDraft t key r ↔ r.create? = none ∧ ∃ p, s.Free key p t := by
  constructor
  · rintro ⟨t', hwrite, hread⟩
    cases hplace : FileFault.unless r.create? (t.locateFile (s.draftPath key)) with
    | error why =>
      rw [writeFile_of_refused hplace] at hwrite
      exact nomatch (Prod.mk.inj hwrite).2
    | ok place =>
      obtain ⟨hcreate, hplace⟩ := FileFault.unless_eq_ok_iff.1 hplace
      refine ⟨hcreate, (free_or_top hplace).resolve_right ?_⟩
      rintro ⟨hsame, p, hlocate⟩
      -- Where there is no directory at all nothing was written, and nothing can be read.
      obtain rfl : t' = t := by
        rcases exists_of_writeFile hwrite with rfl | ⟨place', written, hplace', rfl⟩
        · rfl
        · obtain rfl := Except.ok.inj (hplace.symm.trans hplace')
          exact hsame _
      exact nomatch (readFile_of_none hlocate).symm.trans hread
  · rintro ⟨hcreate, p, hfree⟩
    exact ⟨_, hfree.writeFile_eq hcreate rfl, (hfree.drafted []).readFile_draft⟩

/-- Without a draft nothing changes. -/
theorem insert_of_not_makesDraft (h : ¬s.MakesDraft t key r) (bytes : Bytes) :
    ∃ why, s.insert t key bytes r = (t, .error why) := by
  cases hplace : FileFault.unless r.create? (t.locateFile (s.draftPath key)) with
  | error why => exact ⟨why, insert_of_not_written (writeFile_of_refused hplace bytes r.write?)⟩
  | ok place =>
    obtain ⟨hcreate, hplace⟩ := FileFault.unless_eq_ok_iff.1 hplace
    rcases free_or_top hplace with hfree | ⟨hsame, p, hlocate⟩
    · exact absurd (makesDraft_iff.2 ⟨hcreate, hfree⟩) h
    have hwritten {t' : FileTree} {result : Except FileFault Unit}
        (hwrite : t.writeFile (s.draftPath key) bytes r.create? r.write? = (t', result)) :
        t' = t := by
      rcases exists_of_writeFile hwrite with rfl | ⟨place', written, hplace', rfl⟩
      · rfl
      · obtain rfl := Except.ok.inj (hplace.symm.trans hplace')
        exact hsame _
    -- What was not written can be neither moved nor taken away.
    have hfails {α : Type} (refusal? : Option Refusal) {x : Except FileFault α}
        (hx : x = .error .notFound) : ∃ why, FileFault.unless refusal? x = .error why := by
      subst hx
      cases refusal? with
      | none => exact ⟨_, rfl⟩
      | some why => exact ⟨_, rfl⟩
    cases hwrite : t.writeFile (s.draftPath key) bytes r.create? r.write? with
    | mk t' result =>
      obtain rfl := hwritten hwrite
      cases result with
      | error why => exact ⟨why, insert_of_not_written hwrite⟩
      | ok =>
        obtain ⟨why, hmove⟩ := hfails r.move? (renameFile_of_none hlocate)
        obtain ⟨why', hclear⟩ := hfails r.clear? (removeFile_of_none hlocate)
        exact ⟨why, insert_of_stuck hwrite hmove hclear⟩

/-- What an insertion leaves of the files, and what it comes to. -/
inductive Comes (s : DiskStore) (t : FileTree) (key : String) (bytes : Bytes) (r : Refusals) :
    FileTree → Except FileFault Unit → Prop
  /-- No draft is made. -/
  | untouched {why : FileFault} : ¬s.MakesDraft t key r → Comes s t key bytes r t (.error why)
  /-- Writing stops before the end, and the draft stays. -/
  | cut {p : Path} {t' : FileTree} {c : Cutoff} : s.MakesDraft t key r →
    Cutoff.within? r.write? bytes = some c → s.Drafted key (bytes.take c.count) p t t' →
    Comes s t key bytes r t' (.error (.refused c.why))
  /-- The draft is moved to the place of the entry. -/
  | moved {p : Path} {t' : FileTree} : s.Cleared key p t t' →
    s.lookup t' key = .ok (some bytes) → Comes s t key bytes r t' (.ok ())
  /-- The draft cannot be moved, and is taken away. -/
  | cleared {p : Path} {t' : FileTree} {why : FileFault} : s.MakesDraft t key r →
    Cutoff.within? r.write? bytes = none → r.clear? = none → s.Cleared key p t t' →
    s.lookup t' key = s.lookup t key → Comes s t key bytes r t' (.error why)
  /-- The draft can be neither moved nor taken away. -/
  | stuck {p : Path} {t' : FileTree} {why : FileFault} {refusal : Refusal} :
    s.MakesDraft t key r → r.clear? = some refusal → s.Drafted key bytes p t t' →
    Comes s t key bytes r t' (.error why)

/-- A draft that is written is moved, or taken away, or stays. -/
theorem Drafted.comes {t₁ : FileTree} (h : s.Drafted key bytes p t t₁)
    (hmakes : s.MakesDraft t key r) (hall : Cutoff.within? r.write? bytes = none)
    (hwrite : t.writeFile (s.draftPath key) bytes r.create? r.write? = (t₁, .ok ())) :
    ∃ t' result, s.insert t key bytes r = (t', result) ∧ s.Comes t key bytes r t' result := by
  have hne := draftFile_ne_entryFile s.process key key
  have hkept := (find?_replace_of_ne hne.symm none t₁ p).trans (h.find?_eq hne.symm)
  cases hmove : FileFault.unless r.move? (t₁.renameFile (s.draftPath key) (s.entryPath key)) with
  | ok t₂ =>
    obtain ⟨-, hrename⟩ := FileFault.unless_eq_ok_iff.1 hmove
    -- A directory in the place of the entry would have stopped the move.
    have hentry (inner : List (String × FileTree)) :
        t.find? (p ++ [entryFile key]) ≠ some (.directory inner) := by
      intro hinner
      have htarget := h.locate_entry
      rw [hinner] at htarget
      exact nomatch (renameFile_of_directory h.locate_draft htarget).symm.trans hrename
    have hmoved := renameFile_of_locate h.locate_draft h.locate_entry hentry
    obtain rfl := Except.ok.inj (hrename.symm.trans hmoved)
    obtain ⟨hcleared, hlookup⟩ :=
      h.cleared.replace_entry (fun inner => hkept ▸ hentry inner) bytes
    exact ⟨_, _, insert_of_moved hwrite hmove, .moved hcleared hlookup⟩
  | error why =>
    cases hclear : r.clear? with
    | none =>
      have hremove : FileFault.unless r.clear? (t₁.removeFile (s.draftPath key)) =
          .ok (t₁.replace none (p ++ [draftFile s.process key])) := by
        rw [hclear]
        exact removeFile_of_file h.locate_draft
      exact ⟨_, _, insert_of_cleared hwrite hmove hremove,
        .cleared hmakes hall hclear h.cleared (h.cleared.lookup_eq hkept)⟩
    | some refusal =>
      have hremove : FileFault.unless r.clear? (t₁.removeFile (s.draftPath key)) =
          .error (.refused refusal) := by
        rw [hclear]
        rfl
      exact ⟨_, _, insert_of_stuck hwrite hmove hremove, .stuck hmakes hclear h⟩

/-- Every insertion goes one of these ways. -/
theorem comes_insert (s : DiskStore) (t : FileTree) (key : String) (bytes : Bytes)
    (r : Refusals) :
    ∃ t' result, s.insert t key bytes r = (t', result) ∧ s.Comes t key bytes r t' result := by
  by_cases hmakes : s.MakesDraft t key r
  · obtain ⟨hcreate, p, hfree⟩ := makesDraft_iff.1 hmakes
    cases hcut : Cutoff.within? r.write? bytes with
    | some c =>
      have hwrite := hfree.writeFile_of_within hcreate hcut
      exact ⟨_, _, insert_of_not_written hwrite, .cut hmakes hcut (hfree.drafted _)⟩
    | none =>
      have hwrite := hfree.writeFile_eq hcreate hcut
      exact (hfree.drafted bytes).comes hmakes hcut hwrite
  · obtain ⟨why, hinsert⟩ := insert_of_not_makesDraft hmakes bytes
    exact ⟨t, _, hinsert, .untouched hmakes⟩

theorem comes_of_insert {result : Except FileFault Unit}
    (h : s.insert t key bytes r = (t', result)) : s.Comes t key bytes r t' result := by
  obtain ⟨t₁, result', hinsert, hcomes⟩ := comes_insert s t key bytes r
  obtain ⟨rfl, rfl⟩ := Prod.mk.inj (hinsert.symm.trans h)
  exact hcomes

/-- An insertion that fails changes nothing that is looked up. -/
theorem lookup_of_insert_error {why : FileFault}
    (h : s.insert t key bytes r = (t', .error why)) (key' : String) :
    s.lookup t' key' = s.lookup t key' := by
  cases comes_of_insert h with
  | untouched => rfl
  | cut _ _ hdrafted => exact hdrafted.lookup_eq key'
  | stuck _ _ hdrafted => exact hdrafted.lookup_eq key'
  | cleared _ _ _ hcleared hsame =>
    by_cases heq : entryFile key' = entryFile key
    · -- The two keys have one entry, and so one answer.
      have hpath : s.entryPath key' = s.entryPath key := by
        rw [entryPath_eq, entryPath_eq, heq]
      unfold lookup at hsame ⊢
      rw [hpath]
      exact hsame
    · exact hcleared.lookup_eq_of_ne heq

/-- An insertion that goes well leaves the bytes, no draft, and all other entries. -/
theorem lookup_of_insert (h : s.insert t key bytes r = (t', .ok ())) :
    s.lookup t' key = .ok (some bytes) ∧
      t'.readFile (s.draftPath key) = .error .notFound ∧
      ∀ key', entryFile key' ≠ entryFile key → s.lookup t' key' = s.lookup t key' := by
  cases comes_of_insert h with
  | moved hcleared hlookup =>
    exact ⟨hlookup, hcleared.readFile_draft, fun key' => hcleared.lookup_eq_of_ne⟩

/-- An insertion under these refusals does not take its draft away: it cannot write it to the
    end, or it may not. -/
def Refusals.Strands (r : Refusals) (bytes : Bytes) : Prop :=
  (∃ c, r.write? = some c ∧ c.count < bytes.length) ∨ ∃ why, r.clear? = some why

/-- What becomes of the draft of an insertion that fails. -/
theorem readFile_draft_of_insert_error {why : FileFault} (hmakes : s.MakesDraft t key r)
    (h : s.insert t key bytes r = (t', .error why)) :
    r.Strands bytes ∧ (∃ left, t'.readFile (s.draftPath key) = .ok left) ∨
      ¬r.Strands bytes ∧ t'.readFile (s.draftPath key) = .error .notFound := by
  cases comes_of_insert h with
  | untouched hnot => exact absurd hmakes hnot
  | cut _ hcut hdrafted =>
    exact .inl ⟨.inl ⟨_, Cutoff.within?_eq_some_iff.1 hcut⟩, _, hdrafted.readFile_draft⟩
  | stuck _ hclear hdrafted => exact .inl ⟨.inr ⟨_, hclear⟩, _, hdrafted.readFile_draft⟩
  | cleared _ hall hclear hcleared =>
    refine .inr ⟨?_, hcleared.readFile_draft⟩
    rintro (⟨c, hcut⟩ | ⟨refusal, hrefusal⟩)
    · exact nomatch hall.symm.trans (Cutoff.within?_eq_some_iff.2 hcut)
    · exact nomatch hclear.symm.trans hrefusal

/-- If the system stops before the last byte the insertion fails, and what was written
    stays in the draft. -/
theorem insert_of_cutoff {c : Cutoff} (hmakes : s.MakesDraft t key r) (hc : r.write? = some c)
    (hlt : c.count < bytes.length) :
    ∃ t', s.insert t key bytes r = (t', .error (.refused c.why)) ∧
      t'.readFile (s.draftPath key) = .ok (bytes.take c.count) := by
  obtain ⟨hcreate, p, hfree⟩ := makesDraft_iff.1 hmakes
  have hwrite := hfree.writeFile_of_within hcreate (Cutoff.within?_eq_some_iff.2 ⟨hc, hlt⟩)
  exact ⟨_, insert_of_not_written hwrite, (hfree.drafted _).readFile_draft⟩

/-! ## What comes of a removal -/

/-- An entry that can be taken away is in the directory of the store. -/
theorem exists_of_removeEntry (h : t.removeFile (s.entryPath key) = .ok t') :
    ∃ p entries, IsAt t s.directory p ∧ Path.IsWritten (s.entryPath key) ∧
      t.find? p = some (.directory entries) ∧
      (∀ inner, t.find? (p ++ [entryFile key]) ≠ some (.directory inner)) ∧
      t' = t.replace none (p ++ [entryFile key]) := by
  obtain ⟨place, hplace, rfl⟩ := exists_of_removeFile h
  obtain ⟨hlocate, hfile⟩ := locateFile_eq_ok_iff.1 hplace
  rw [entryPath_eq] at hlocate ⊢
  obtain ⟨p, hat, rfl, -, hwritten⟩ := IsAt.of_locate (isPlain_entryFile key) hlocate
  rcases hat.directory_or_top with ⟨entries, hdir⟩ | ⟨rfl, file, rfl⟩
  · exact ⟨p, entries, hat, hwritten, hdir, hfile, rfl⟩
  · -- If all there is is one file nothing can be taken away.
    exact nomatch (removeFile_of_none hlocate).symm.trans h

/-- A removal that goes well leaves no entry, and all others. -/
theorem lookup_of_remove {refusal? : Option Refusal}
    (h : s.remove t key refusal? = (t', .ok ())) :
    s.lookup t' key = .ok none ∧
      ∀ key', entryFile key' ≠ entryFile key → s.lookup t' key' = s.lookup t key' := by
  unfold remove at h
  split at h
  · rename_i hremove
    obtain ⟨-, hremove⟩ := FileFault.unless_eq_ok_iff.1 hremove
    obtain ⟨rfl, -⟩ := Prod.mk.inj h
    obtain ⟨p, entries, hat, hwritten, hdir, hfile, rfl⟩ := exists_of_removeEntry hremove
    have hat' := hat.survives (Exchanged.exchange none .refl hfile).survives
    refine ⟨?_, fun key' hne =>
      lookup_eq_of_find? hat hat' hwritten (find?_replace_of_ne hne none t p)⟩
    have hgone := locate_entryPath hat' hwritten key
    rw [find?_replace hdir] at hgone
    exact lookup_eq_none_iff_readFile.2 (readFile_of_none hgone)
  · -- Nothing is found, and nothing changes.
    rename_i hremove
    have hmissing : t.removeFile (s.entryPath key) = .error .notFound := by
      cases refusal? with
      | none => exact hremove
      | some why => exact nomatch hremove
    obtain ⟨rfl, -⟩ := Prod.mk.inj h
    exact ⟨lookup_eq_none_iff_readFile.2 (removeFile_eq_notFound_iff.1 hmissing), fun _ _ => rfl⟩
  · exact nomatch (Prod.mk.inj h).2

/-- A removal that fails changes nothing. -/
theorem eq_of_remove_error {refusal? : Option Refusal} {why : FileFault}
    (h : s.remove t key refusal? = (t', .error why)) : t' = t := by
  unfold remove at h
  split at h
  · exact nomatch (Prod.mk.inj h).2
  · exact nomatch (Prod.mk.inj h).2
  · exact (Prod.mk.inj h).1.symm

/-! ## What is missing -/

/-- A lookup finds nothing exactly where something is missing, be it the entry, the
    directory or one above it. -/
theorem lookup_eq_none_iff (h : Path.IsAdmitted (s.entryPath key)) :
    s.lookup t key = .ok none ↔ t.IsMissing (s.entryPath key) := by
  rw [lookup_eq_none_iff_readFile]
  rw [entryPath_eq, path] at h ⊢
  exact readFile_eq_notFound_iff (isPlain_entryFile key) h

/-- To remove what is not found goes well and changes nothing. -/
theorem remove_of_lookup_eq_none (h : s.lookup t key = .ok none) :
    s.remove t key none = (t, .ok ()) := by
  rw [remove, FileFault.unless, removeFile_eq_notFound_iff.2 (lookup_eq_none_iff_readFile.1 h)]

/-! ## Whatever is in the way -/

/-- What comes of putting bytes under a key of a store and of taking them away, whatever the
    files are and whatever the system refuses. The other keys are of `keys`. -/
structure Withstands (keys : Set String) (s : DiskStore) (t : FileTree) (key : String)
    (bytes : Bytes) : Prop where
  lookup_of_error {r : Refusals} {t' : FileTree} {why : FileFault} :
    s.insert t key bytes r = (t', .error why) → ∀ key', s.lookup t' key' = s.lookup t key'
  /-- Without a draft nothing changes. -/
  eq_of_error {r : Refusals} {t' : FileTree} {why : FileFault} :
    s.insert t key bytes r = (t', .error why) → ¬s.MakesDraft t key r → t' = t
  /-- The draft stays exactly if it could not be written to the end, or taken away. -/
  draft_left_iff {r : Refusals} {t' : FileTree} {why : FileFault} :
    s.insert t key bytes r = (t', .error why) → s.MakesDraft t key r →
      ((∃ left, t'.readFile (s.draftPath key) = .ok left) ↔ r.Strands bytes)
  draft_gone_iff {r : Refusals} {t' : FileTree} {why : FileFault} :
    s.insert t key bytes r = (t', .error why) → s.MakesDraft t key r →
      (t'.readFile (s.draftPath key) = .error .notFound ↔ ¬r.Strands bytes)
  /-- If the system stops before the last byte, what was written stays in the draft. -/
  draft_of_cutoff {r : Refusals} {c : Cutoff} : s.MakesDraft t key r → r.write? = some c →
    c.count < bytes.length → ∃ t', s.insert t key bytes r = (t', .error (.refused c.why)) ∧
      t'.readFile (s.draftPath key) = .ok (bytes.take c.count)
  lookup_of_ok {r : Refusals} {t' : FileTree} : s.insert t key bytes r = (t', .ok ()) →
    s.lookup t' key = .ok (some bytes) ∧
      ∀ key' ∈ keys, key' ≠ key → s.lookup t' key' = s.lookup t key'
  draft_of_ok {r : Refusals} {t' : FileTree} : s.insert t key bytes r = (t', .ok ()) →
    t'.readFile (s.draftPath key) = .error .notFound
  eq_of_remove_error {refusal? : Option Refusal} {t' : FileTree} {why : FileFault} :
    s.remove t key refusal? = (t', .error why) → t' = t
  lookup_of_remove {refusal? : Option Refusal} {t' : FileTree} :
    s.remove t key refusal? = (t', .ok ()) → s.lookup t' key = .ok none ∧
      ∀ key' ∈ keys, key' ≠ key → s.lookup t' key' = s.lookup t key'
  lookup_eq_none_iff : Path.IsAdmitted (s.entryPath key) →
    (s.lookup t key = .ok none ↔ t.IsMissing (s.entryPath key))
  remove_of_isMissing : Path.IsAdmitted (s.entryPath key) → t.IsMissing (s.entryPath key) →
    s.remove t key none = (t, .ok ())
  /-- Where the path is too long nothing is looked at, be there an entry or not. -/
  fails_of_long : '\x00' ∉ s.directory.toList →
    Path.longest < (s.entryPath key).utf8ByteSize →
    s.lookup t key = .error .nameTooLong ∧ s.remove t key none = (t, .error .nameTooLong)

/-- Whatever the files are, wherever there are directories in the way or none where there
    should be one, and whatever the system refuses: an insertion that fails changes nothing
    that is looked up. If it has made a draft, that is taken away exactly if all of it was
    written and the system does not refuse to take it away; otherwise it stays, with as much
    as was written. An insertion that goes well leaves the bytes under the key, what is
    under all others, and no draft. A removal that fails changes nothing, and one that goes
    well leaves nothing under the key, and what is under all others. And where the entry or
    a directory above it is missing a lookup finds nothing, and only there, and a removal
    goes well, as long as the system does not refuse the path. If that is too long both
    fail. -/
theorem clears_or_strands {keys : Set String} (hkeys : Distinct keys) (s : DiskStore)
    (t : FileTree) {key : String} (hkey : key ∈ keys) (bytes : Bytes) :
    Withstands keys s t key bytes := by
  have hother {key' : String} (hkey' : key' ∈ keys) (hne : key' ≠ key) :
      entryFile key' ≠ entryFile key := (entryFile_eq_iff hkeys hkey' hkey).not.2 hne
  refine {
    lookup_of_error := lookup_of_insert_error
    eq_of_error := fun {r t' why} h hnot => ?_
    draft_left_iff := fun {r t' why} h hmakes => ?_
    draft_gone_iff := fun {r t' why} h hmakes => ?_
    draft_of_cutoff := insert_of_cutoff
    lookup_of_ok := fun {r t'} h => ?_
    draft_of_ok := fun h => (lookup_of_insert h).2.1
    eq_of_remove_error := DiskStore.eq_of_remove_error
    lookup_of_remove := fun {refusal? t'} h => ?_
    lookup_eq_none_iff := DiskStore.lookup_eq_none_iff
    remove_of_isMissing := fun h hmissing =>
      remove_of_lookup_eq_none ((DiskStore.lookup_eq_none_iff h).2 hmissing)
    fails_of_long := fun hzero hlong =>
      ⟨lookup_of_long hzero key hlong t, remove_of_long hzero key hlong t⟩ }
  · obtain ⟨why', hinsert⟩ := insert_of_not_makesDraft hnot bytes
    exact (Prod.mk.inj (h.symm.trans hinsert)).1
  · rcases readFile_draft_of_insert_error hmakes h with ⟨hstrands, hleft⟩ | ⟨hclears, hgone⟩
    · exact iff_of_true hleft hstrands
    · refine iff_of_false ?_ hclears
      rintro ⟨left, hleft⟩
      exact nomatch hgone.symm.trans hleft
  · rcases readFile_draft_of_insert_error hmakes h with ⟨hstrands, left, hleft⟩ | ⟨hclears, hgone⟩
    · exact iff_of_false (fun hgone => nomatch hgone.symm.trans hleft) (not_not_intro hstrands)
    · exact iff_of_true hgone hclears
  · obtain ⟨hlookup, -, hkept⟩ := lookup_of_insert h
    exact ⟨hlookup, fun key' hkey' hne => hkept key' (hother hkey' hne)⟩
  · obtain ⟨hnone, hkept⟩ := DiskStore.lookup_of_remove h
    exact ⟨hnone, fun key' hkey' hne => hkept key' (hother hkey' hne)⟩

/-- A store in a directory with a short name. -/
def inC : DiskStore := ⟨"c", 7⟩

theorem ofText_inC : Path.ofText inC.directory = ["c"] := by decide

theorem isWritten_inC (key : String) : Path.IsWritten (inC.draftPath key) := by
  refine ⟨zero_not_mem_draftPath (by decide) key, ?_⟩
  rw [utf8ByteSize_draftPath, utf8ByteSize_entryPath]
  decide

theorem isAdmitted_inC (key : String) : Path.IsAdmitted (inC.entryPath key) := by
  refine ⟨isWritten_of_draftPath (isWritten_inC key), fun name hname => ?_⟩
  rw [entryPath_eq, path, Path.ofText_joinText (isPlain_entryFile key), ofText_inC] at hname
  rcases List.mem_append.1 hname with hname | hname
  · rw [List.mem_singleton.1 hname]
    decide
  · rw [List.mem_singleton.1 hname, utf8ByteSize_entryFile]
    decide

/-- The directory is there and empty. -/
theorem makesDraft_inC (key : String) (hr : r.create? = none) :
    inC.MakesDraft (.directory [("c", .directory [])]) key r := by
  have hat : IsAt (.directory [("c", .directory [])]) inC.directory ["c"] := by
    rw [IsAt, ofText_inC]
    exact .enter (by decide) (by decide) (by decide) rfl (.nil _)
  refine makesDraft_iff.2 ⟨hr, ["c"], ⟨isWritten_inC key,
    utf8ByteSize_draftFile_le (by decide) key, hat, hat, [], rfl⟩, fun inner hinner => ?_⟩
  rw [find?_concat] at hinner
  cases hinner

/-- The directory is gone. -/
theorem isMissing_inC (key : String) : (FileTree.directory []).IsMissing (inC.entryPath key) := by
  have hnames : Path.ofText (inC.entryPath key) = [] ++ "c" :: [entryFile key] := by
    rw [entryPath_eq, path, Path.ofText_joinText (isPlain_entryFile key), ofText_inC]
    rfl
  exact ⟨[], "c", [entryFile key], [], hnames, .nil [], by decide, by decide, rfl⟩

/-- The device is full after one byte of a draft, and the directory of a store is gone. -/
theorem clears_or_strands_of_full_device :
    let there : FileTree := .directory [("c", .directory [])]
    let gone : FileTree := .directory []
    let full : Refusals := { write? := some ⟨1, .noSpace⟩ }
    (∃ t', inC.insert there "k" [1, 2, 3] full = (t', .error (.refused .noSpace)) ∧
      t'.readFile (inC.draftPath "k") = .ok [1] ∧
      ∀ key, inC.lookup t' key = inC.lookup there key) ∧
    gone.IsMissing (inC.entryPath "k") ∧ inC.lookup gone "k" = .ok none ∧
      inC.remove gone "k" none = (gone, .ok ()) := by
  intro there gone full
  have hkeys : Distinct {"k"} := Set.injOn_singleton _ _
  have hthere := clears_or_strands hkeys inC there rfl [1, 2, 3]
  have hgone := clears_or_strands hkeys inC gone rfl []
  obtain ⟨t', hinsert, hleft⟩ :=
    hthere.draft_of_cutoff (r := full) (makesDraft_inC "k" rfl) rfl (by decide)
  have hmissing := isMissing_inC "k"
  exact ⟨⟨t', hinsert, hleft, hthere.lookup_of_error hinsert⟩, hmissing,
    (hgone.lookup_eq_none_iff (isAdmitted_inC "k")).2 hmissing,
    hgone.remove_of_isMissing (isAdmitted_inC "k") hmissing⟩

end DiskStore

end Playpen
