import Playpen.Proofs.DiskStore
import Playpen.Proofs.Folder
import Playpen.Proofs.Runs
import Playpen.Store.Traffic

/-!
# What is found while entries are replaced

A search finds complete entries as long as no two insertions under one key are at work
at the same time (`Traffic.run_inv`): a file is written only under the name of a draft,
and gets the name of an entry when all was written. But the name of a draft is made of
the key and the process alone. Two insertions under one key write to one file, and the
first to be done makes it the entry, however much of it the other has written
(`Traffic.run_overlapping`).
-/

namespace Playpen

open DiskStore

/-! ## What holds of an insertion and of a search -/

section Sound

variable {process : Nat} {d d' : Folder} {key key' : String}

theorem draftFile_inj : draftFile process key = draftFile process key' ↔
    entryFile key = entryFile key' := by
  rw [entryFile_inj]
  exact file_inj.trans (and_iff_left rfl)

namespace Insertion

variable {a a' : Insertion} {m : Move}

/-- What is put under which key. -/
def content (a : Insertion) : String × Bytes := (a.key, a.bytes)

/-- An insertion finds its draft as it left it. -/
def Sound (process : Nat) (d : Folder) (a : Insertion) : Prop :=
  match a.stage with
  | .writing file offset =>
    d.name? file = some (draftFile process a.key) ∧ d.contents file = a.bytes.take offset ∧
      offset ≤ a.bytes.length
  | .moving => ∀ n, d.name? n = some (draftFile process a.key) → d.contents n = a.bytes
  | .called | .clearing | .ended _ => True

/-- An insertion that is not at work needs nothing. -/
theorem Sound.of_not_isAtWork (h : ¬a.isAtWork) : a.Sound process d := by
  obtain ⟨key, bytes, stage⟩ := a
  cases stage with
  | called | ended => trivial
  | writing | moving | clearing => exact absurd rfl h

/-- An insertion does not mind what is done to entries and to other drafts. -/
theorem Sound.of_touched {draft : String} (hs : a.Sound process d)
    (h : Folder.Touched draft (entryFile key) d d') (hdraft : draftFile process a.key ≠ draft) :
    a.Sound process d' := by
  obtain ⟨key', bytes, stage⟩ := a
  have hentry := draftFile_ne_entryFile process key' key
  cases stage with
  | called | ended | clearing => trivial
  | writing file offset =>
    obtain ⟨hname, hcontents, hle⟩ := hs
    exact ⟨(h.name?_iff hdraft hentry).2 hname, (h.contents_eq hdraft hname).trans hcontents, hle⟩
  | moving =>
    intro n hname
    have hbefore := (h.name?_iff hdraft hentry).1 hname
    exact (h.contents_eq hdraft hbefore).trans (hs n hbefore)

/-- What a step of an insertion does to the files, and the stage it leads to. -/
inductive Goes (process : Nat) (d : Folder) (key : String) (bytes : Bytes) :
    Stage → Folder → Stage → Prop
  | create : Goes process d key bytes .called (d.create (draftFile process key)).1
      (.writing (d.create (draftFile process key)).2 0)
  | write (file offset count : Nat) : Goes process d key bytes (.writing file offset)
      (d.write file offset ((bytes.drop offset).take count))
      (.writing file (offset + ((bytes.drop offset).take count).length))
  | close (file : Nat) : Goes process d key bytes (.writing file bytes.length) d .moving
  | move {file : Nat} : d.locate? (draftFile process key) = some file →
    Goes process d key bytes .moving (d.rename file (entryFile key)) (.ended true)
  | fail : Goes process d key bytes .moving d .clearing
  | clear : Goes process d key bytes .clearing (d.unlink (draftFile process key)) (.ended false)
  | stop {stage : Stage} : (∀ stored, stage ≠ .ended stored) →
    Goes process d key bytes stage d (.ended false)

theorem goes_of_step (h : a.step process d m = some (d', a')) :
    ∃ stage, a' = { a with stage } ∧ Goes process d a.key a.bytes a.stage d' stage := by
  obtain ⟨key, bytes, stage⟩ := a
  cases stage with
  | called =>
    cases m with
    | create =>
      cases h
      exact ⟨_, rfl, .create⟩
    | refuse =>
      cases h
      exact ⟨_, rfl, .stop nofun⟩
    | write | close | move | clear => cases h
  | writing file offset =>
    cases m with
    | write count =>
      cases h
      exact ⟨_, rfl, .write file offset count⟩
    | close =>
      obtain ⟨hall, h⟩ := Option.ite_none_right_eq_some.1 h
      obtain rfl : offset = bytes.length := hall
      cases h
      exact ⟨_, rfl, .close file⟩
    | refuse =>
      cases h
      exact ⟨_, rfl, .stop nofun⟩
    | create | move | clear => cases h
  | moving =>
    cases m with
    | move =>
      dsimp only [step, Folder.move?] at h
      cases hlocate : d.locate? (draftFile process key) with
      | some n =>
        rw [hlocate] at h
        cases h
        exact ⟨_, rfl, .move hlocate⟩
      | none =>
        rw [hlocate] at h
        cases h
        exact ⟨_, rfl, .fail⟩
    | refuse =>
      cases h
      exact ⟨_, rfl, .fail⟩
    | create | write | close | clear => cases h
  | clearing =>
    cases m with
    | clear =>
      cases h
      exact ⟨_, rfl, .clear⟩
    | refuse =>
      cases h
      exact ⟨_, rfl, .stop nofun⟩
    | create | write | close | move => cases h
  | ended stored => cases m <;> cases h

namespace Goes

variable {bytes : Bytes} {stage stage' : Stage}

/-- In a step an insertion touches no files but its own. -/
theorem touched (h : Goes process d key bytes stage d' stage')
    (hs : Sound process d ⟨key, bytes, stage⟩) :
    Folder.Touched (draftFile process key) (entryFile key) d d' := by
  cases h with
  | create => exact .create _ _ d
  | write file offset count => exact .write _ hs.1 _ _
  | move hlocate => exact .rename (Folder.locate?_eq_some_iff.1 hlocate)
  | clear => exact .unlink (.inl rfl)
  | close | fail | stop => exact .refl _ _ d

/-- After a step an insertion finds its draft as it left it. -/
theorem sound (h : Goes process d key bytes stage d' stage')
    (hs : Sound process d ⟨key, bytes, stage⟩) : Sound process d' ⟨key, bytes, stage'⟩ := by
  cases h with
  | create =>
    obtain ⟨hname, hcontents⟩ := Folder.create_spec d (draftFile process key)
    exact ⟨hname, hcontents, Nat.zero_le _⟩
  | write file offset count =>
    obtain ⟨hname, hcontents, hle⟩ := hs
    refine ⟨(Folder.name?_modify ..).trans hname, ?_, ?_⟩
    · rw [Folder.contents_write_self (Folder.lt_of_name? hname), hcontents,
        Folder.splice_take bytes hle]
    · rw [List.length_take, List.length_drop]
      have hle' : offset ≤ bytes.length := hle
      show _ ≤ bytes.length
      omega
  | close file =>
    obtain ⟨hname, hcontents, -⟩ := hs
    intro n hn
    rw [d.unique hn hname, hcontents, List.take_length]
  | move | clear | fail | stop => trivial

/-- What an insertion makes an entry is all its bytes. -/
theorem entry (h : Goes process d key bytes stage d' stage')
    (hs : Sound process d ⟨key, bytes, stage⟩) {n : Nat}
    (hn : d'.name? n = some (entryFile key')) (hnew : d.name? n ≠ some (entryFile key')) :
    entryFile key = entryFile key' ∧ d'.contents n = bytes := by
  have hne := draftFile_ne_entryFile process key key'
  cases h with
  | create =>
    rcases (Folder.Touched.create (draftFile process key) (draftFile process key) d).given hn with
      hold | hdraft | hdraft
    · exact absurd hold hnew
    · exact absurd hdraft.symm hne
    · exact absurd hdraft.symm hne
  | write file offset count => exact absurd ((Folder.name?_modify ..).symm.trans hn) hnew
  | move hlocate =>
    rw [Folder.name?_rename] at hn
    split at hn
    · rename_i hself
      rw [Folder.contents_rename, hself.1]
      exact ⟨Option.some.inj hn, hs _ (Folder.locate?_eq_some_iff.1 hlocate)⟩
    · exact absurd (Option.ite_none_left_eq_some.1 hn).2 hnew
  | clear =>
    rw [Folder.name?_unlink] at hn
    exact absurd (Option.ite_none_left_eq_some.1 hn).2 hnew
  | close | fail | stop => exact absurd hn hnew

/-- Only an insertion at work changes anything. -/
theorem eq_or_isAtWork (h : Goes process d key bytes stage d' stage') :
    d' = d ∨ isAtWork ⟨key, bytes, stage⟩ ∨ isAtWork ⟨key, bytes, stage'⟩ := by
  cases h with
  | create => exact .inr (.inr rfl)
  | write | move | clear => exact .inr (.inl rfl)
  | close | fail | stop => exact .inl rfl

end Goes

end Insertion

namespace Search

variable {l l' : Search} {m : Move} {P : Bytes → Prop}

/-- What a search has read are the first bytes of a file that is no draft and may be
    found, and so may what it has found. -/
def Sound (process : Nat) (d : Folder) (P : Bytes → Prop) (l : Search) : Prop :=
  match l.stage with
  | .reading file sofar =>
    file < d.files.length ∧ (∀ key, d.name? file ≠ some (draftFile process key)) ∧
      P (d.contents file) ∧ sofar <+: d.contents file
  | .ended (some bytes) => P bytes
  | .called | .ended none | .failed => True

theorem Sound.imp {Q : Bytes → Prop} (hs : l.Sound process d P) (h : ∀ bytes, P bytes → Q bytes) :
    l.Sound process d Q := by
  obtain ⟨key, stage⟩ := l
  cases stage with
  | called | failed => trivial
  | reading file sofar =>
    obtain ⟨hlt, hname, hp, hsofar⟩ := hs
    exact ⟨hlt, hname, h _ hp, hsofar⟩
  | ended found? =>
    cases found? with
    | none => trivial
    | some bytes => exact h _ hs

/-- A search does not mind what others do to drafts and entries. -/
theorem Sound.of_touched (hs : l.Sound process d P)
    (h : Folder.Touched (draftFile process key) (entryFile key) d d') : l.Sound process d' P := by
  obtain ⟨key', stage⟩ := l
  cases stage with
  | called | failed => trivial
  | reading file sofar =>
    obtain ⟨hlt, hname, hp, hsofar⟩ := hs
    have hcontents := h.contents hlt (hname key)
    refine ⟨hlt.trans_le h.length_le, fun key' hdraft => ?_, hcontents ▸ hp, hcontents ▸ hsofar⟩
    rcases h.kept hlt (hname key) with hkept | ⟨-, hlost⟩
    · exact hname key' (hkept.symm.trans hdraft)
    · cases hlost.symm.trans hdraft
  | ended found? =>
    cases found? with
    | none => trivial
    | some bytes => exact hs

/-- A search goes on in files that nobody writes to. -/
theorem Sound.step (hs : l.Sound process d P)
    (hentry : ∀ n, d.name? n = some (entryFile l.key) → P (d.contents n))
    (h : l.step d m = some l') : l'.key = l.key ∧ l'.Sound process d P := by
  obtain ⟨key, stage⟩ := l
  cases stage with
  | called =>
    cases m with
    | find =>
      dsimp only [Search.step] at h
      cases hlocate : d.locate? (entryFile key) with
      | some file =>
        rw [hlocate] at h
        cases h
        have hname := Folder.locate?_eq_some_iff.1 hlocate
        refine ⟨rfl, Folder.lt_of_name? hname, fun key' hdraft => ?_, hentry _ hname,
          List.nil_prefix⟩
        exact draftFile_ne_entryFile process key' key (Option.some.inj (hdraft.symm.trans hname))
      | none =>
        rw [hlocate] at h
        cases h
        exact ⟨rfl, trivial⟩
    | refuse =>
      cases h
      exact ⟨rfl, trivial⟩
    | read | finish => cases h
  | reading file sofar =>
    obtain ⟨hlt, hname, hp, hsofar⟩ := hs
    cases m with
    | read count =>
      cases h
      refine ⟨rfl, hlt, hname, hp, ?_⟩
      obtain ⟨rest, hrest⟩ := hsofar
      rw [← hrest, List.drop_left, List.prefix_append_right_inj]
      exact List.take_prefix _ _
    | finish =>
      obtain ⟨hall, h⟩ := Option.ite_none_right_eq_some.1 h
      cases h
      refine ⟨rfl, ?_⟩
      rw [hsofar.eq_of_length_le hall]
      exact hp
    | refuse =>
      cases h
      exact ⟨rfl, trivial⟩
    | find => cases h
  | ended | failed => cases m <;> cases h

end Search

end Sound

namespace Traffic

variable {process : Nat} {d₀ d : Folder} {x y : Traffic} {m : Move} {moves : List Move}
  {key : String} {bytes : Bytes} {i : Nat} {a a' : Insertion}

/-! ## Moves -/

/-- What was put under keys, and may have got there or not. -/
def inserted (x : Traffic) : List (String × Bytes) := x.insertions.map Insertion.content

/-- Of the insertions under keys that have one entry no two are at work. -/
def Apart (x : Traffic) : Prop :=
  ∀ (i j : Nat) (a b : Insertion), x.insertions[i]? = some a → x.insertions[j]? = some b → a.isAtWork → b.isAtWork →
    entryFile a.key = entryFile b.key → i = j

/-- Something is called for, an entry is taken away, or an insertion or a search goes
    on. -/
theorem step_cases (h : x.step m = some y) :
    (∃ key bytes, y = { x with insertions := x.insertions ++ [⟨key, bytes, .called⟩] }) ∨
    (∃ key, y = { x with searches := x.searches ++ [⟨key, .called⟩] }) ∨
    (∃ key, y = { x with folder := x.folder.unlink (entryFile key) }) ∨
    (∃ i a m d a', x.insertions[i]? = some a ∧ a.step x.process x.folder m = some (d, a') ∧
      y = { x with folder := d, insertions := x.insertions.set i a' }) ∨
    ∃ j l m l', x.searches[j]? = some l ∧ l.step x.folder m = some l' ∧
      y = { x with searches := x.searches.set j l' } := by
  cases m with
  | insert key bytes => exact .inl ⟨key, bytes, (Option.some.inj h).symm⟩
  | lookup key => exact .inr (.inl ⟨key, (Option.some.inj h).symm⟩)
  | remove key => exact .inr (.inr (.inl ⟨key, (Option.some.inj h).symm⟩))
  | insertion i m =>
    obtain ⟨a, ha, h⟩ := Option.bind_eq_some_iff.1 h
    obtain ⟨⟨d, a'⟩, hm, rfl⟩ := Option.map_eq_some_iff.1 h
    exact .inr (.inr (.inr (.inl ⟨i, a, m, d, a', ha, hm, rfl⟩)))
  | search j m =>
    obtain ⟨l, hl, h⟩ := Option.bind_eq_some_iff.1 h
    obtain ⟨l', hm, rfl⟩ := Option.map_eq_some_iff.1 h
    exact .inr (.inr (.inr (.inr ⟨j, l, m, l', hl, hm, rfl⟩)))

theorem map_content_set {as : List Insertion} (ha : as[i]? = some a)
    (hcontent : a'.content = a.content) :
    (as.set i a').map Insertion.content = as.map Insertion.content := by
  obtain ⟨hlt, rfl⟩ := List.getElem?_eq_some_iff.1 ha
  rw [List.map_set, hcontent, ← List.getElem_map Insertion.content]
  · exact List.set_getElem_self _
  · simpa using hlt

/-! ## The invariant -/

/-- Bytes that may be found under a key: those that were there, and all bytes that were
    put under a key with the same entry. -/
def Provided (d₀ : Folder) (inserted : List (String × Bytes)) (key : String) (bytes : Bytes) :
    Prop :=
  d₀.read? (entryFile key) = some bytes ∨
    ∃ key', entryFile key' = entryFile key ∧ (key', bytes) ∈ inserted

/-- Entries are complete, and so is all that searches find or will have found. -/
structure Inv (d₀ : Folder) (x : Traffic) : Prop where
  entry {n : Nat} {key : String} : x.folder.name? n = some (entryFile key) →
    Provided d₀ x.inserted key (x.folder.contents n)
  insertion {i : Nat} {a : Insertion} : x.insertions[i]? = some a → a.Sound x.process x.folder
  search {l : Search} : l ∈ x.searches →
    l.Sound x.process x.folder (Provided d₀ x.inserted l.key)

namespace Inv

theorem start (process : Nat) (d₀ : Folder) : Inv d₀ (start process d₀) where
  entry hn := .inl (Folder.read?_eq_some_iff.2 ⟨_, hn, rfl⟩)
  insertion := nofun
  search := nofun

/-- Someone puts bytes under a key. -/
theorem insert (hi : Inv d₀ x) (key : String) (bytes : Bytes) :
    Inv d₀ { x with insertions := x.insertions ++ [⟨key, bytes, .called⟩] } := by
  have hmore (key' : String) (bytes' : Bytes) (h : Provided d₀ x.inserted key' bytes') :
      Provided d₀ (x.inserted ++ [(key, bytes)]) key' bytes' := by
    rcases h with h | ⟨key'', hkey, hmem⟩
    · exact .inl h
    · exact .inr ⟨key'', hkey, List.mem_append_left _ hmem⟩
  have hinserted : (x.insertions ++ [(⟨key, bytes, .called⟩ : Insertion)]).map Insertion.content =
      x.inserted ++ [(key, bytes)] := List.map_append
  refine ⟨fun hn => ?_, fun {i a} ha => ?_, fun hl => ?_⟩
  · rw [inserted, hinserted]
    exact hmore _ _ (hi.entry hn)
  · rcases Runs.getElem?_concat_eq_some_iff.1 ha with ha | ⟨-, rfl⟩
    · exact hi.insertion ha
    · trivial
  · rw [inserted, hinserted]
    exact (hi.search hl).imp (hmore _)

/-- Files of a key are touched, but no entry is left incomplete. -/
theorem touch (hi : Inv d₀ x)
    (ht : Folder.Touched (draftFile x.process key) (entryFile key) x.folder d)
    (hentry : ∀ n key', d.name? n = some (entryFile key') →
      x.folder.name? n ≠ some (entryFile key') → Provided d₀ x.inserted key' (d.contents n))
    {later : List Insertion}
    (hinserted : later.map Insertion.content = x.inserted)
    (hlater : ∀ (i : Nat) (a : Insertion), later[i]? = some a → a.Sound x.process d) :
    Inv d₀ { x with folder := d, insertions := later } := by
  refine ⟨fun {n key'} hn => ?_, hlater _ _, fun hl => ?_⟩
  · rw [inserted, hinserted]
    by_cases hold : x.folder.name? n = some (entryFile key')
    · have hdraft := draftFile_ne_entryFile x.process key key'
      have hcontents := ht.contents_eq hdraft.symm hold
      exact hcontents ▸ hi.entry hold
    · exact hentry n key' hn hold
  · rw [inserted, hinserted]
    exact (hi.search hl).of_touched ht

theorem step (hi : Inv d₀ x) (hx : x.Apart) (hy : y.Apart) (h : x.step m = some y) :
    Inv d₀ y := by
  rcases step_cases h with ⟨key, bytes, rfl⟩ | ⟨key, rfl⟩ | ⟨key, rfl⟩ |
    ⟨i, a, m, d, a', ha, hm, rfl⟩ | ⟨j, l, m, l', hl, hm, rfl⟩
  · exact hi.insert key bytes
  · refine ⟨hi.entry, hi.insertion, fun {l} hl => ?_⟩
    rcases List.mem_append.1 hl with hl | hl
    · exact hi.search hl
    · obtain rfl := List.mem_singleton.1 hl
      trivial
  · -- Whoever has opened the entry keeps the file.
    have ht : Folder.Touched (draftFile x.process key) (entryFile key) x.folder
        (x.folder.unlink (entryFile key)) := .unlink (.inr rfl)
    refine hi.touch ht (fun n key' hn hnew => ?_) rfl fun i a ha => ?_
    · rw [Folder.name?_unlink] at hn
      exact absurd (Option.ite_none_left_eq_some.1 hn).2 hnew
    · have ht' : Folder.Touched (entryFile key) (entryFile key) x.folder
          (x.folder.unlink (entryFile key)) := .unlink (.inr rfl)
      exact (hi.insertion ha).of_touched ht' (draftFile_ne_entryFile x.process a.key key)
  · obtain ⟨stage, rfl, hgoes⟩ := Insertion.goes_of_step hm
    have hs := hi.insertion ha
    refine hi.touch (hgoes.touched hs) (fun n key' hn hnew => ?_) (map_content_set ha rfl)
      fun j b hb => ?_
    · obtain ⟨hentry, hcontents⟩ := hgoes.entry hs hn hnew
      rw [hcontents]
      exact .inr ⟨a.key, hentry, List.mem_map.2 ⟨a, List.mem_of_getElem? ha, rfl⟩⟩
    · rcases Runs.of_getElem?_set_eq_some hb with ⟨-, rfl⟩ | ⟨hij, hb⟩
      · exact hgoes.sound hs
      · have hsb := hi.insertion hb
        by_cases hb' : b.isAtWork
        · have hnext : (x.insertions.set i { a with stage })[i]? = some { a with stage } :=
            List.getElem?_set_self (List.getElem?_eq_some_iff.1 ha).1
          have hnextb : (x.insertions.set i { a with stage })[j]? = some b :=
            (List.getElem?_set_ne hij).trans hb
          have hdraft (hne : entryFile a.key ≠ entryFile b.key) :
              draftFile x.process b.key ≠ draftFile x.process a.key := fun heq =>
            hne (draftFile_inj.1 heq).symm
          rcases hgoes.eq_or_isAtWork with rfl | hwork | hwork
          · exact hsb
          · exact hsb.of_touched (hgoes.touched hs)
              (hdraft fun heq => hij (hx i j a b ha hb hwork hb' heq))
          · exact hsb.of_touched (hgoes.touched hs)
              (hdraft fun heq => hij (hy i j _ b hnext hnextb hwork hb' heq))
        · exact .of_not_isAtWork hb'
  · refine ⟨hi.entry, hi.insertion, fun {l''} hl'' => ?_⟩
    obtain ⟨hkey, hsound⟩ := (hi.search (List.mem_of_getElem? hl)).step (fun n => hi.entry) hm
    rcases List.mem_or_eq_of_mem_set hl'' with hold | rfl
    · exact hi.search hold
    · rw [hkey]
      exact hsound

end Inv

theorem run_cons (x : Traffic) (m : Move) (moves : List Move) :
    x.run (m :: moves) = (x.step m).bind (run · moves) := rfl

theorem run_inv (hi : Inv d₀ x) (h : x.run moves = some y)
    (hapart : ∀ before z, before <+: moves → x.run before = some z → z.Apart) : Inv d₀ y := by
  induction moves generalizing x with
  | nil =>
    obtain rfl := Option.some.inj h
    exact hi
  | cons m moves ih =>
    obtain ⟨z, hz, h⟩ := Runs.run_cons_eq_some_iff.1 h
    have hx : x.Apart := hapart [] x List.nil_prefix rfl
    have hz' : z.Apart := hapart [m] z (List.cons_prefix_cons.2 ⟨rfl, List.nil_prefix⟩)
      (Runs.run_cons_eq_some_iff.2 ⟨z, hz, rfl⟩)
    refine ih (hi.step hx hz' hz) h fun before w hbefore hw => ?_
    exact hapart (m :: before) w (List.cons_prefix_cons.2 ⟨rfl, hbefore⟩)
      (Runs.run_cons_eq_some_iff.2 ⟨z, hz, hw⟩)

/-- What a move calls for to be put under a key. -/
def Move.inserted? : Move → Option (String × Bytes)
  | .insert key bytes => some (key, bytes)
  | .lookup _ | .remove _ | .insertion .. | .search .. => none

theorem inserted_step (h : x.step m = some y) : y.inserted = x.inserted ++ m.inserted?.toList := by
  cases m with
  | insert key bytes =>
    obtain rfl := Option.some.inj h
    exact List.map_append
  | lookup | remove =>
    obtain rfl := Option.some.inj h
    exact (List.append_nil _).symm
  | insertion i m =>
    obtain ⟨a, ha, h⟩ := Option.bind_eq_some_iff.1 h
    obtain ⟨⟨d, a'⟩, hm, rfl⟩ := Option.map_eq_some_iff.1 h
    obtain ⟨stage, rfl, -⟩ := Insertion.goes_of_step hm
    have hcontent : Insertion.content { a with stage } = a.content := rfl
    exact (map_content_set ha hcontent).trans (List.append_nil _).symm
  | search j m =>
    obtain ⟨l, -, h⟩ := Option.bind_eq_some_iff.1 h
    obtain ⟨l', -, rfl⟩ := Option.map_eq_some_iff.1 h
    exact (List.append_nil _).symm

/-- What is put under keys is what was called for. -/
theorem inserted_run (h : x.run moves = some y) :
    y.inserted = x.inserted ++ moves.filterMap Move.inserted? := by
  induction moves generalizing x with
  | nil =>
    obtain rfl := Option.some.inj h
    exact (List.append_nil _).symm
  | cons m moves ih =>
    obtain ⟨z, hz, h⟩ := Runs.run_cons_eq_some_iff.1 h
    rw [ih h, inserted_step hz, List.append_assoc]
    cases hm : m.inserted? with
    | none => rw [List.filterMap_cons_none hm, Option.toList_none, List.nil_append]
    | some e => rw [List.filterMap_cons_some hm, Option.toList_some, List.singleton_append]

/-- Where only one insertion was called for, no two are at work. -/
theorem apart_of_length_le (h : x.inserted.length ≤ 1) : x.Apart := by
  intro i j a b ha hb _ _ _
  rw [inserted, List.length_map] at h
  have hi := (List.getElem?_eq_some_iff.1 ha).1
  have hj := (List.getElem?_eq_some_iff.1 hb).1
  omega

/-! ## Two insertions with one draft -/

/-- Two insertions of the same bytes begin. When the first has written all of them and
    closed its draft, the second opens it again and writes only some, and then the first
    moves it to the place of the entry. -/
def overlapping (key : String) (bytes : Bytes) (count : Nat) : List Move :=
  [.insert key bytes, .insert key bytes, .insertion 0 .create,
    .insertion 0 (.write bytes.length), .insertion 0 .close, .insertion 1 .create,
    .insertion 1 (.write count), .insertion 0 .move, .lookup key, .search 0 .find,
    .search 0 (.read bytes.length), .search 0 .finish]

theorem run_overlapping (process : Nat) (d : Folder) (key : String) (bytes : Bytes) (count : Nat) :
    ∃ x, (start process d).run (overlapping key bytes count) = some x ∧
      x.inserted = [(key, bytes), (key, bytes)] ∧
      x.searches = [⟨key, .ended (some (bytes.take count))⟩] ∧
      x.folder.read? (entryFile key) = some (bytes.take count) := by
  obtain ⟨hname, -⟩ := Folder.create_spec d (draftFile process key)
  have hagain := Folder.create_of_name?
    (d := (d.create (draftFile process key)).1.write (d.create (draftFile process key)).2 0 bytes)
    ((Folder.name?_modify ..).trans hname)
  simp only [overlapping, run_cons, start, step, List.nil_append, List.cons_append, Option.bind_some,
    List.getElem?_cons_zero, List.getElem?_cons_succ, Insertion.step, Option.map_some,
    List.set_cons_zero, List.set_cons_succ, List.drop_zero, List.take_length, Nat.zero_add, if_true,
    hagain]
  generalize (d.create (draftFile process key)).2 = file at *
  generalize (d.create (draftFile process key)).1 = d' at *
  generalize he : (((d'.write file 0 bytes).modify file fun _ => []).write file 0
    (bytes.take count)) = e
  -- The draft has its name still, and so much was written to it.
  have hdraft : e.name? file = some (draftFile process key) := by
    subst he
    simpa [Folder.write] using hname
  have hfile : file < e.files.length := Folder.lt_of_name? hdraft
  have hcontents : e.contents file = bytes.take count := by
    subst he
    simp only [Folder.write, Folder.length_modify] at hfile
    simp [Folder.write, Folder.contents_modify, hfile, Folder.splice_nil]
  have hmove := Folder.move?_of_name? hdraft (entryFile key)
  have hentry : (e.rename file (entryFile key)).locate? (entryFile key) = some file := by
    rw [Folder.locate?_eq_some_iff, Folder.name?_rename, if_pos ⟨rfl, hfile⟩]
  have hshort : (bytes.take count).take bytes.length = bytes.take count :=
    List.take_of_length_le (List.length_take_le' _ _)
  simp [hmove, Search.step, hentry, hcontents, hshort, run, inserted, Insertion.content,
    Folder.read?]

/-! ## One after another -/

/-- An insertion with nothing in between. -/
def alone (key : String) (bytes : Bytes) : List Move :=
  [.insert key bytes, .insertion 0 .create, .insertion 0 (.write bytes.length),
    .insertion 0 .close, .insertion 0 .move]

/-- An insertion with nothing in between makes its bytes the entry. -/
theorem run_alone (process : Nat) (d : Folder) (key : String) (bytes : Bytes) :
    ∃ d', (start process d).run (alone key bytes) =
        some ⟨process, d', [⟨key, bytes, .ended true⟩], []⟩ ∧
      d'.read? (entryFile key) = some bytes := by
  obtain ⟨hdraft, hall⟩ := Folder.put_spec d (draftFile process key) bytes
  have hmove := Folder.move?_of_name? hdraft (entryFile key)
  refine ⟨_, ?_, congrFun (Folder.read?_rename hdraft (entryFile key)) _ |>.trans ?_⟩
  · simp only [alone, run_cons, start, step, List.nil_append, Option.bind_some,
      List.getElem?_cons_zero, Insertion.step, Option.map_some, List.set_cons_zero,
      List.drop_zero, List.take_length, Nat.zero_add, if_true]
    rw [← Folder.put, hmove]
    rfl
  · rw [Function.update_self, hall]

/-! ## What searches find -/

/-- A search finds what was there before, or all bytes that were put under the key,
    whatever goes on at the same time and whatever the system refuses, as long as no two
    insertions under the key are at work at once. But when they are, it may find any first
    part of the bytes: all insertions under a key have one draft, and the one that has
    closed it makes it the entry while another writes to it. -/
theorem reads_whole_or_torn (process : Nat) (d : Folder) :
    (∀ moves x, (start process d).run moves = some x →
      (∀ before y, before <+: moves → (start process d).run before = some y → y.Apart) →
      ∀ key bytes, ⟨key, .ended (some bytes)⟩ ∈ x.searches → Provided d x.inserted key bytes) ∧
    ∀ key bytes count, ∃ moves x, (start process d).run moves = some x ∧
      x.inserted = [(key, bytes), (key, bytes)] ∧
      x.searches = [⟨key, .ended (some (bytes.take count))⟩] ∧
      x.folder.read? (entryFile key) = some (bytes.take count) := by
  constructor
  · intro moves x h hapart key bytes hfound
    exact (run_inv (.start process d) h hapart).search hfound
  · intro key bytes count
    exact ⟨_, run_overlapping process d key bytes count⟩

/-- In an empty directory an entry is made and found. -/
theorem reads_whole_or_torn_of_one : ∃ moves x, (start 7 .empty).run moves = some x ∧
    x.searches = [⟨"ruby", .ended (some [1, 2])⟩] ∧
    Provided .empty [("ruby", [1, 2])] "ruby" [1, 2] := by
  obtain ⟨d, hrun, hread⟩ := run_alone 7 .empty "ruby" [1, 2]
  obtain ⟨n, hn, hcontents⟩ := Folder.read?_eq_some_iff.1 hread
  have hlocate := Folder.locate?_eq_some_iff.2 hn
  have hall : (start 7 .empty).run
      (alone "ruby" [1, 2] ++ [.lookup "ruby", .search 0 .find, .search 0 (.read 5),
        .search 0 .finish]) =
      some ⟨7, d, [⟨"ruby", [1, 2], .ended true⟩], [⟨"ruby", .ended (some [1, 2])⟩]⟩ := by
    rw [run, List.foldlM_append, ← run, hrun]
    simp [step, Search.step, hlocate, hcontents]
  refine ⟨_, _, hall, rfl, ?_⟩
  refine (reads_whole_or_torn 7 .empty).1 _ _ hall (fun before y hbefore hy => ?_) _ _
    (List.mem_singleton_self _)
  refine apart_of_length_le ?_
  rw [inserted_run hy]
  exact (hbefore.filterMap Move.inserted?).length_le

end Traffic

end Playpen
