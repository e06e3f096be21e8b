import Mathlib.Logic.Function.Basic
import Playpen.Proofs.Traffic

/-!
# Insertions at once

A store on disk inserts bytes at once (`DiskStore.insert`). Beside all that goes on in its
directory an insertion takes several steps (`Insertion.step`). With nothing done in between
the two come to the same, whatever the system refuses (`DiskStore.Shows.run_iff_insert`): an
insertion leaves one of four things to be read (`Insertion.Leaves`), and the system can bring
about each of them either way.
-/

namespace Playpen

open DiskStore

namespace Insertion

variable {process : Nat} {d d' : Folder} {key : String} {bytes : Bytes}
  {f g : String → Option Bytes} {stored : Bool} {moves : List Move}

/-- What an insertion leaves to be read where there was `f`, and whether its bytes are
    stored then. -/
inductive Leaves (process : Nat) (key : String) (bytes : Bytes) (f : String → Option Bytes) :
    (String → Option Bytes) → Bool → Prop
  /-- There is no draft. -/
  | untouched : Leaves process key bytes f f false
  /-- The draft stays, with so many of the bytes. -/
  | stranded (count : Nat) : Leaves process key bytes f
      (Function.update f (draftFile process key) (some (bytes.take count))) false
  /-- The draft was taken away. -/
  | cleared : Leaves process key bytes f (Function.update f (draftFile process key) none) false
  /-- The draft was moved to the place of the entry. -/
  | moved : Leaves process key bytes f
      (Function.update (Function.update f (draftFile process key) none) (entryFile key)
        (some bytes)) true

/-! ## Step by step -/

/-- The steps of an insertion with nothing done in between. -/
def run (process : Nat) (d : Folder) (a : Insertion) (moves : List Move) :
    Option (Folder × Insertion) :=
  moves.foldlM (fun x m => x.2.step process x.1 m) (d, a)

/-- What there is to be read when an insertion has come so far, where there was `f` when it
    began. -/
def Leads (process : Nat) (f : String → Option Bytes) (d : Folder) (a : Insertion) : Prop :=
  match a.stage with
  | .called => d.read? = f
  | .writing _ offset =>
    d.read? = Function.update f (draftFile process a.key) (some (a.bytes.take offset))
  | .moving | .clearing =>
    d.read? = Function.update f (draftFile process a.key) (some a.bytes)
  | .ended stored => Leaves process a.key a.bytes f d.read? stored

theorem Goes.leads {stage stage' : Stage} (h : Goes process d key bytes stage d' stage')
    (hs : Sound process d ⟨key, bytes, stage⟩) (hl : Leads process f d ⟨key, bytes, stage⟩) :
    Leads process f d' ⟨key, bytes, stage'⟩ := by
  cases h with
  | create =>
    obtain rfl : d.read? = f := hl
    exact Folder.read?_create d (draftFile process key)
  | write file offset count =>
    obtain ⟨hname, hcontents, hle⟩ := hs
    rw [Leads, Folder.read?_write hname, hcontents, Folder.splice_take bytes hle, hl,
      Function.update_idem]
  | close file =>
    rw [Leads] at hl ⊢
    rw [hl, List.take_length]
  | move hlocate =>
    have hname := Folder.locate?_eq_some_iff.1 hlocate
    rw [Leads, Folder.read?_rename hname, hs _ hname, hl, Function.update_idem]
    exact .moved
  | fail => exact hl
  | clear =>
    rw [Leads, Folder.read?_unlink, hl, Function.update_idem]
    exact .cleared
  | stop hopen =>
    have hdrafted (count : Nat)
        (h : d.read? = Function.update f (draftFile process key) (some (bytes.take count))) :
        Leaves process key bytes f d.read? false := by
      rw [h]
      exact .stranded count
    cases stage with
    | called =>
      obtain rfl : d.read? = f := hl
      exact .untouched
    | writing file offset => exact hdrafted offset hl
    | moving | clearing =>
      refine hdrafted bytes.length ?_
      rw [List.take_length]
      exact hl
    | ended stored => exact absurd rfl (hopen stored)

/-- What an insertion comes to in any steps. -/
theorem leaves_of_run (h : run process d ⟨key, bytes, .called⟩ moves =
    some (d', ⟨key, bytes, .ended stored⟩)) :
    Leaves process key bytes d.read? d'.read? stored := by
  have hinv := Runs.run_induction
    (P := fun x => x.2.Sound process x.1 ∧ x.2.Leads process d.read? x.1)
    (fun {x m y} _ hi hm => ?_) h ⟨trivial, rfl⟩
  · exact hinv.2
  · obtain ⟨hs, hl⟩ := hi
    obtain ⟨stage, hstage, hgoes⟩ := goes_of_step hm
    rw [hstage]
    exact ⟨hgoes.sound hs, hgoes.leads hs hl⟩

/-- All bytes are written to the draft, and it is closed. -/
theorem run_put (process : Nat) (d : Folder) (key : String) (bytes : Bytes) :
    run process d ⟨key, bytes, .called⟩ [.create, .write bytes.length, .close] =
      some (d.put (draftFile process key) bytes, ⟨key, bytes, .moving⟩) := by
  simp [run, step, Folder.put]

/-- An insertion can come to all this. -/
theorem exists_run_of_leaves (h : Leaves process key bytes d.read? g stored) :
    ∃ moves d', run process d ⟨key, bytes, .called⟩ moves =
      some (d', ⟨key, bytes, .ended stored⟩) ∧ d'.read? = g := by
  have hall := run_put process d key bytes
  cases h with
  | untouched => exact ⟨[.refuse], d, rfl, rfl⟩
  | stranded count =>
    exact ⟨[.create, .write count, .refuse], _, rfl, Folder.read?_put d _ (bytes.take count)⟩
  | cleared =>
    refine ⟨_ ++ [.refuse, .clear], _, (Runs.run_append hall _).trans rfl, ?_⟩
    rw [Folder.read?_unlink, Folder.read?_put, Function.update_idem]
  | moved =>
    obtain ⟨hname, hcontents⟩ := Folder.put_spec d (draftFile process key) bytes
    have hmove : step process (d.put (draftFile process key) bytes) ⟨key, bytes, .moving⟩ .move =
        some ((d.put (draftFile process key) bytes).rename (d.create (draftFile process key)).2
          (entryFile key), ⟨key, bytes, .ended true⟩) := by
      dsimp only [step]
      rw [Folder.move?_of_name? hname]
    refine ⟨_ ++ [.move], _, Runs.run_concat hall hmove, ?_⟩
    rw [Folder.read?_rename hname, hcontents, Folder.read?_put, Function.update_idem]

end Insertion

/-! ## At once -/

namespace DiskStore

/-- The directory of a store is at a place, and has in it the files that `f` tells, and
    nothing else. -/
structure Shows (s : DiskStore) (p : Path) (f : String → Option Bytes) (t : FileTree) : Prop where
  usable : Usable s
  zero_not_mem : '\x00' ∉ s.directory.toList
  isAt : t.IsAt s.directory p
  directory : ∃ entries, t.find? p = some (.directory entries)
  find? (name : String) : t.find? (p ++ [name]) = (f name).map .file

namespace Shows

variable {s : DiskStore} {p : Path} {f g : String → Option Bytes} {t t' : FileTree}
  {key : String} {bytes : Bytes} {r : Refusals} {stored : Bool}

/-- There is a folder for any directory of files. -/
theorem of_files (hs : Usable s) (hzero : '\x00' ∉ s.directory.toList)
    (hat : t.IsAt s.directory p) {files : List (String × Bytes)}
    (hdir : t.find? p = some (.directory (files.map fun e => (e.1, .file e.2)))) :
    s.Shows p (Folder.ofFiles files).read? t where
  usable := hs
  zero_not_mem := hzero
  isAt := hat
  directory := ⟨_, hdir⟩
  find? name := by
    rw [FileTree.find?_concat, hdir, Option.bind_some, FileTree.child?, Folder.read?_ofFiles]
    clear hdir
    induction files with
    | nil => rfl
    | cons e files ih =>
      rw [List.map_cons, List.lookup_cons, List.lookup_cons, ih]
      cases name == e.1 <;> rfl

theorem not_directory (h : s.Shows p f t) (name : String) (inner : List (String × FileTree)) :
    t.find? (p ++ [name]) ≠ some (.directory inner) := by
  rw [h.find? name]
  cases f name <;> simp

/-- A file of the directory is written or taken away. -/
theorem replace (h : s.Shows p f t) (name : String) (new? : Option Bytes) :
    s.Shows p (Function.update f name new?) (t.replace (new?.map .file) (p ++ [name])) where
  usable := h.usable
  zero_not_mem := h.zero_not_mem
  isAt := h.isAt.survives
    (FileTree.Exchanged.exchange (new?.map .file) .refl (h.not_directory name)).survives
  directory := by
    obtain ⟨entries, hdir⟩ := h.directory
    exact ⟨_, FileTree.find?_replace_above hdir (new?.map .file) name⟩
  find? name' := by
    obtain ⟨entries, hdir⟩ := h.directory
    rw [Function.update_apply]
    split
    · rename_i hname
      rw [hname, FileTree.find?_replace hdir]
    · rename_i hname
      rw [FileTree.find?_replace_of_ne hname, h.find?]

theorem locate_draft (h : s.Shows p f t) (key : String) :
    t.locate (s.draftPath key) =
      .ok ⟨p ++ [draftFile s.process key], (f (draftFile s.process key)).map .file⟩ := by
  rw [h.usable.locate_draft h.isAt h.zero_not_mem key, h.find?]

theorem locate_entry (h : s.Shows p f t) (key : String) :
    t.locate (s.entryPath key) = .ok ⟨p ++ [entryFile key], (f (entryFile key)).map .file⟩ := by
  rw [h.usable.locate_entry h.isAt h.zero_not_mem key, h.find?]

theorem file_ne (found? : Option Bytes) (inner : List (String × FileTree)) :
    found?.map FileTree.file ≠ some (.directory inner) := by
  cases found? <;> simp

/-- What a store looks up is what is to be read. -/
theorem lookup_eq (h : s.Shows p f t) (key : String) : s.lookup t key = .ok (f (entryFile key)) := by
  have hlocate := h.locate_entry key
  unfold lookup
  cases hread : f (entryFile key) with
  | none =>
    rw [hread] at hlocate
    rw [FileTree.readFile_of_none hlocate]
  | some bytes =>
    rw [hread] at hlocate
    rw [FileTree.readFile_of_file hlocate]

/-- What a store removes is not to be read then. -/
theorem remove_eq (h : s.Shows p f t) (key : String) :
    ∃ t', s.remove t key none = (t', .ok ()) ∧
      s.Shows p (Function.update f (entryFile key) none) t' := by
  have hlocate := h.locate_entry key
  unfold remove
  rw [FileFault.unless]
  cases hread : f (entryFile key) with
  | none =>
    rw [hread] at hlocate
    rw [FileTree.removeFile_of_none hlocate, ← hread, Function.update_eq_self]
    exact ⟨t, rfl, h⟩
  | some bytes =>
    rw [hread] at hlocate
    rw [FileTree.removeFile_of_file hlocate]
    exact ⟨_, rfl, h.replace (entryFile key) none⟩

/-! ## Insertions under refusals -/

/-- Writing the draft stops before the end, and it stays. -/
theorem insert_of_cut (h : s.Shows p f t) (key : String) {c : Cutoff} (hcreate : r.create? = none)
    (hcut : Cutoff.within? r.write? bytes = some c) :
    ∃ t', s.insert t key bytes r = (t', .error (.refused c.why)) ∧
      s.Shows p (Function.update f (draftFile s.process key) (some (bytes.take c.count))) t' := by
  have hwrite := FileTree.writeFile_of_within (h.locate_draft key) (file_ne _) hcreate hcut
  exact ⟨_, insert_of_not_written hwrite, h.replace _ (some (bytes.take c.count))⟩

/-- All bytes are written to the draft. -/
theorem exists_of_written (h : s.Shows p f t) (key : String) (hcreate : r.create? = none)
    (hall : Cutoff.within? r.write? bytes = none) :
    ∃ t₁, t.writeFile (s.draftPath key) bytes r.create? r.write? = (t₁, .ok ()) ∧
      s.Shows p (Function.update f (draftFile s.process key) (some bytes)) t₁ := by
  exact ⟨_, FileTree.writeFile_of_locate (h.locate_draft key) (file_ne _) hcreate hall,
    h.replace _ (some bytes)⟩

/-- The draft that was written is moved. -/
theorem insert_of_move (h : s.Shows p f t) (key : String) (bytes : Bytes)
    (hcreate : r.create? = none) (hall : Cutoff.within? r.write? bytes = none)
    (hmove : r.move? = none) :
    ∃ t', s.insert t key bytes r = (t', .ok ()) ∧
      s.Shows p (Function.update (Function.update f (draftFile s.process key) none)
        (entryFile key) (some bytes)) t' := by
  obtain ⟨t₁, hwrite, h₁⟩ := h.exists_of_written key hcreate hall
  have hsource := h₁.locate_draft key
  rw [Function.update_self] at hsource
  have hrename := FileTree.renameFile_of_locate hsource (h₁.locate_entry key) (file_ne _)
  have h₂ := (h₁.replace (draftFile s.process key) none).replace (entryFile key) (some bytes)
  rw [Function.update_idem] at h₂
  refine ⟨_, insert_of_moved hwrite ?_, h₂⟩
  rw [hmove]
  exact hrename

/-- The draft that was written is not moved, and is taken away or stays. -/
theorem insert_of_not_move (h : s.Shows p f t) (key : String) (bytes : Bytes)
    (hcreate : r.create? = none) (hall : Cutoff.within? r.write? bytes = none)
    {why : Refusal} (hmove : r.move? = some why) :
    ∃ t', s.insert t key bytes r = (t', .error (.refused why)) ∧
      s.Shows p (Function.update f (draftFile s.process key)
        (if r.clear? = none then none else some bytes)) t' := by
  obtain ⟨t₁, hwrite, h₁⟩ := h.exists_of_written key hcreate hall
  have hrename : FileFault.unless r.move? (t₁.renameFile (s.draftPath key) (s.entryPath key)) =
      .error (.refused why) := by
    rw [hmove]
    rfl
  cases hclear : r.clear? with
  | none =>
    have hlocate := h₁.locate_draft key
    rw [Function.update_self] at hlocate
    have h₂ := h₁.replace (draftFile s.process key) none
    rw [Function.update_idem] at h₂
    refine ⟨_, insert_of_cleared hwrite hrename ?_, h₂⟩
    rw [hclear]
    exact FileTree.removeFile_of_file hlocate
  | some refusal =>
    have hremove : FileFault.unless r.clear? (t₁.removeFile (s.draftPath key)) =
        .error (.refused refusal) := by
      rw [hclear]
      rfl
    exact ⟨t₁, insert_of_stuck hwrite hrename hremove, h₁⟩

/-- What comes of an insertion under any refusals. -/
theorem leaves_of_insert (h : s.Shows p f t) (key : String) (bytes : Bytes) (r : Refusals) :
    ∃ t' result g, s.insert t key bytes r = (t', result) ∧
      Insertion.Leaves s.process key bytes f g result.isOk ∧ s.Shows p g t' := by
  cases hcreate : r.create? with
  | some why =>
    have hopen : FileFault.unless r.create? (t.locateFile (s.draftPath key)) =
        .error (.refused why) := by
      rw [hcreate]
      rfl
    exact ⟨t, _, f, insert_of_not_written (FileTree.writeFile_of_refused hopen bytes r.write?),
      .untouched, h⟩
  | none =>
    cases hcut : Cutoff.within? r.write? bytes with
    | some c =>
      obtain ⟨t', hinsert, h'⟩ := h.insert_of_cut key hcreate hcut
      exact ⟨t', _, _, hinsert, .stranded c.count, h'⟩
    | none =>
      cases hmove : r.move? with
      | none =>
        obtain ⟨t', hinsert, h'⟩ := h.insert_of_move key bytes hcreate hcut hmove
        exact ⟨t', _, _, hinsert, .moved, h'⟩
      | some why =>
        obtain ⟨t', hinsert, h'⟩ := h.insert_of_not_move key bytes hcreate hcut hmove
        refine ⟨t', _, _, hinsert, ?_, h'⟩
        split
        · exact .cleared
        · have hleaves : Insertion.Leaves s.process key bytes f _ false := .stranded bytes.length
          rw [List.take_length] at hleaves
          exact hleaves

/-- Some refusals make all this come of an insertion. -/
theorem exists_insert_of_leaves (h : s.Shows p f t)
    (hleaves : Insertion.Leaves s.process key bytes f g stored) :
    ∃ r t' result, s.insert t key bytes r = (t', result) ∧ result.isOk = stored ∧
      s.Shows p g t' := by
  cases hleaves with
  | untouched => exact ⟨{ create? := some .denied }, t, _, rfl, rfl, h⟩
  | stranded count =>
    by_cases hlt : count < bytes.length
    · have hcut : Cutoff.within? (some ⟨count, .noSpace⟩) bytes = some ⟨count, .noSpace⟩ :=
        Cutoff.within?_eq_some_iff.2 ⟨rfl, hlt⟩
      obtain ⟨t', hinsert, h'⟩ :=
        h.insert_of_cut key (r := { write? := some ⟨count, .noSpace⟩ }) rfl hcut
      exact ⟨_, t', _, hinsert, rfl, h'⟩
    · -- All was written, so the draft stays if it can be neither moved nor taken away.
      rw [List.take_of_length_le (Nat.not_lt.1 hlt)]
      obtain ⟨t', hinsert, h'⟩ := h.insert_of_not_move key bytes
        (r := { move? := some .device, clear? := some .device }) rfl rfl rfl
      exact ⟨_, t', _, hinsert, rfl, h'⟩
  | cleared =>
    obtain ⟨t', hinsert, h'⟩ := h.insert_of_not_move key bytes
      (r := { move? := some .device }) rfl rfl rfl
    exact ⟨_, t', _, hinsert, rfl, h'⟩
  | moved =>
    obtain ⟨t', hinsert, h'⟩ := h.insert_of_move key bytes (r := .none) rfl rfl rfl
    exact ⟨_, t', _, hinsert, rfl, h'⟩

/-- There are no other files than those that are told. -/
theorem unique (hf : s.Shows p f t) (hg : s.Shows p g t) : f = g := by
  funext name
  have hfind := (hf.find? name).symm.trans (hg.find? name)
  exact Option.map_injective (fun _ _ => FileTree.file.inj) hfind

end Shows

end DiskStore

/-! ## The two agree -/

/-- An insertion that has come to its turns goes on as it would alone. -/
theorem Traffic.run_insertion {x : Traffic} {i : Nat} {a : Insertion}
    (ha : x.insertions[i]? = some a) (moves : List Insertion.Move) :
    x.run (moves.map (.insertion i)) = (a.run x.process x.folder moves).map fun r =>
      { x with folder := r.1, insertions := x.insertions.set i r.2 } := by
  induction moves generalizing x a with
  | nil =>
    obtain ⟨hi, rfl⟩ := List.getElem?_eq_some_iff.1 ha
    change some x = some { x with insertions := x.insertions.set i x.insertions[i] }
    rw [List.set_getElem_self]
  | cons m moves ih =>
    have hrun : a.run x.process x.folder (m :: moves) =
        (a.step x.process x.folder m).bind fun r => r.2.run x.process r.1 moves := rfl
    rw [List.map_cons, run_cons, step, ha, Option.bind_some, hrun]
    cases a.step x.process x.folder m with
    | none => rfl
    | some r =>
      have hi := (List.getElem?_eq_some_iff.1 ha).1
      rw [Option.map_some, Option.bind_some, Option.bind_some, ih (List.getElem?_set_self hi)]
      simp only [List.set_set]

/-- What a store may do at once under some refusals is what an insertion may come to in some
    steps with nothing done in between. -/
theorem DiskStore.Shows.run_iff_insert {s : DiskStore} {p : Path} {d : Folder} {t : FileTree}
    (h : s.Shows p d.read? t) (key : String) (bytes : Bytes) (g : String → Option Bytes)
    (stored : Bool) :
    (∃ (moves : List Insertion.Move) (d' : Folder), (Traffic.start s.process d).run
        (.insert key bytes :: moves.map (.insertion 0)) =
          some ⟨s.process, d', [⟨key, bytes, .ended stored⟩], []⟩ ∧ d'.read? = g) ↔
      ∃ r t' result, s.insert t key bytes r = (t', result) ∧ result.isOk = stored ∧
        s.Shows p g t' := by
  have hrun (moves : List Insertion.Move) :
      (Traffic.start s.process d).run (.insert key bytes :: moves.map (.insertion 0)) =
        (Insertion.run s.process d ⟨key, bytes, .called⟩ moves).map fun r =>
          ⟨s.process, r.1, [r.2], []⟩ := by
    rw [Traffic.run_cons]
    exact Traffic.run_insertion (x := ⟨s.process, d, [⟨key, bytes, .called⟩], []⟩) rfl moves
  constructor
  · rintro ⟨moves, d', hmoves, rfl⟩
    rw [hrun, Option.map_eq_some_iff] at hmoves
    obtain ⟨⟨d₁, a⟩, hmoves, heq⟩ := hmoves
    obtain ⟨-, rfl, heq, -⟩ := Traffic.mk.inj heq
    obtain rfl := (List.cons.inj heq).1
    exact h.exists_insert_of_leaves (Insertion.leaves_of_run hmoves)
  · rintro ⟨r, t', result, hinsert, rfl, h'⟩
    obtain ⟨t₁, result₁, g₁, hinsert₁, hleaves, h₁⟩ := h.leaves_of_insert key bytes r
    obtain ⟨rfl, rfl⟩ := Prod.mk.inj (hinsert.symm.trans hinsert₁)
    obtain rfl := h'.unique h₁
    obtain ⟨moves, d', hmoves, hread⟩ := Insertion.exists_run_of_leaves hleaves
    refine ⟨moves, d', ?_, hread⟩
    rw [hrun, hmoves]
    rfl

end Playpen
