import Playpen.Proofs.DiskStore
import Playpen.Proofs.StoreMap

/-!
# Stores on disk and in memory agree

Stores below one directory are opened and used by any number of processes, one operation
after the other. A store on disk that began with an empty directory answers like one in
memory, whatever is done to its neighbours, and its directory holds a file for each key
that has anything, and nothing else (`DiskStore.agrees`). This is so if the system may be
asked for the paths of its files; a directory can be opened whose path leaves no room for
them (`DiskStore.opened_without_room`).
-/

namespace Playpen

open FileTree Store

namespace DiskStore

variable {t t' : FileTree} {root name key : String} {p : Path} {process : Nat} {s : DiskStore}
  {keys : Set String} {ops : List Operation} {op : Operation}

/-! ## One operation -/

theorem store_insert (s : DiskStore) (t : FileTree) (key : String) (bytes : Bytes) :
    Store.insert (⟨t, s⟩ : Volume) key bytes =
      (⟨(s.insert t key bytes .none).1, s⟩, hostResult (s.insert t key bytes .none).2) := rfl

theorem store_remove (s : DiskStore) (t : FileTree) (key : String) :
    Store.remove (⟨t, s⟩ : Volume) key =
      (⟨(s.remove t key none).1, s⟩, hostResult (s.remove t key none).2) := rfl

theorem on_lookup (s : DiskStore) (t : FileTree) (key : String) :
    (Operation.lookup key).on (⟨t, s⟩ : Volume) = (⟨t, s⟩, hostResult (s.lookup t key)) := rfl

theorem on_insert (s : DiskStore) (t : FileTree) (key : String) (bytes : Bytes) :
    (Operation.insert key bytes).on (⟨t, s⟩ : Volume) =
      (⟨(s.insert t key bytes .none).1, s⟩,
        (hostResult (s.insert t key bytes .none).2).map fun _ => none) := by
  rw [Operation.on, store_insert]

theorem on_remove (s : DiskStore) (t : FileTree) (key : String) :
    (Operation.remove key).on (⟨t, s⟩ : Volume) =
      (⟨(s.remove t key none).1, s⟩, (hostResult (s.remove t key none).2).map fun _ => none) := by
  rw [Operation.on, store_remove]

/-- An operation on a store on disk does what it does in memory. -/
theorem Holds.on {m : MemoryStore} (h : s.Holds p m.entries t) (hs : Usable s)
    (hkeys : Distinct keys) (hm : ∀ e ∈ m.entries, e.1 ∈ keys) (hkey : op.key ∈ keys) :
    ∃ t', op.on (⟨t, s⟩ : Volume) = (⟨t', s⟩, (op.on m).2) ∧
      t'.find? p = some (.directory ((op.on m).1.entries.map entry)) := by
  cases op with
  | lookup key =>
    have hlookup : s.lookup t key = .ok (m.get? key) := h.lookup_eq hs hkeys hm hkey
    refine ⟨t, ?_, h.find?⟩
    rw [on_lookup, hlookup]
    rfl
  | insert key bytes =>
    obtain ⟨t', ht', hfind⟩ := h.insert_eq hs hkeys hm key hkey bytes
    refine ⟨t', ?_, hfind⟩
    rw [on_insert, ht']
    rfl
  | remove key =>
    obtain ⟨t', ht', hfind⟩ := h.remove_eq hs hkeys hm key hkey
    refine ⟨t', ?_, hfind⟩
    rw [on_remove, ht']
    rfl

/-- An operation on a store exchanges files of its directory. -/
theorem exchanged_on (h : IsAt t root p) (hname : Path.IsPlain name) (process : Nat)
    (op : Operation) :
    Exchanged (p ++ [name]) t
      (op.on (⟨t, ⟨Path.joinText root name, process⟩⟩ : Volume)).1.files := by
  cases op with
  | lookup key => exact .refl
  | insert key bytes =>
    rw [on_insert]
    dsimp only
    exact exchanged_insert h hname process key bytes .none
  | remove key =>
    rw [on_remove]
    dsimp only
    exact exchanged_remove h hname process key none

/-- No operation goes well, and nothing changes, if the path of the entry is too long. -/
theorem on_of_long (hzero : '\x00' ∉ s.directory.toList)
    (hlong : Path.longest < (s.entryPath op.key).utf8ByteSize) (t : FileTree) :
    op.on (⟨t, s⟩ : Volume) = (⟨t, s⟩, .error (.file FileFault.nameTooLong.message)) := by
  cases op with
  | lookup key => rw [on_lookup, lookup_of_long hzero key hlong]; rfl
  | insert key bytes => rw [on_insert, insert_of_long hzero key hlong]; rfl
  | remove key => rw [on_remove, remove_of_long hzero key hlong]; rfl

/-! ## Opening a store -/

theorem makeDirectories_of_ok {path : String} (h : t.makeDirectory path = .ok t') :
    t.makeDirectories path = (t', .ok ()) := by
  rw [makeDirectories, makeDirectoriesUp, ensureDirectory, h]

/-- Unless something above is missing, a directory that cannot be made changes nothing. -/
theorem makeDirectories_of_error {path : String} {why : FileFault}
    (h : t.makeDirectory path = .error why) (hwhy : why ≠ .notFound) :
    t.makeDirectories path = (t, if t.isDirectory path then .ok () else .error why) := by
  rw [makeDirectories, makeDirectoriesUp, ensureDirectory, h]
  cases why with
  | notFound => exact absurd rfl hwhy
  | alreadyExists | notDirectory | isDirectory | nameTooLong | invalidName | refused => rfl

/-- Opening a store whose directory is there changes nothing. -/
theorem openAt_eq {es : List (String × FileTree)}
    (h : t.locate (Path.joinText root name) = .ok ⟨p, some (.directory es)⟩) (process : Nat) :
    openAt t process root name = (t, .ok ⟨Path.joinText root name, process⟩) := by
  have hmake : t.makeDirectory (Path.joinText root name) = .error .alreadyExists := by
    rw [makeDirectory, h]
    rfl
  have hthere : t.isDirectory (Path.joinText root name) = true := by
    rw [isDirectory, h]
  unfold openAt
  dsimp only
  rw [makeDirectories_of_error hmake nofun, hthere]
  rfl

theorem openAt_fst (t : FileTree) (process : Nat) (root name : String) :
    (openAt t process root name).1 = (t.makeDirectories (Path.joinText root name)).1 := by
  unfold openAt
  dsimp only
  split
  · rename_i hmake
    rw [hmake]
  · rename_i hmake
    rw [hmake]

/-- A store that was opened is in the directory that it was opened for. -/
theorem eq_of_openAt (h : openAt t process root name = (t', .ok s)) :
    s = ⟨Path.joinText root name, process⟩ := by
  unfold openAt at h
  dsimp only at h
  split at h
  · exact (Except.ok.inj (Prod.mk.inj h).2).symm
  · exact nomatch (Prod.mk.inj h).2

/-- Opening a store in a directory makes one there if its name is free, and changes
    nothing else. -/
theorem openAt_cases (h : IsAt t root p) (hname : Path.IsPlain name) (process : Nat) :
    (openAt t process root name).1 = t ∨
      t.find? (p ++ [name]) = none ∧
        (openAt t process root name).1 = t.replace (some .empty) (p ++ [name]) := by
  rw [openAt_fst]
  have herror (why : FileFault) (hmake : t.makeDirectory (Path.joinText root name) = .error why)
      (hwhy : why ≠ .notFound) : (t.makeDirectories (Path.joinText root name)).1 = t := by
    rw [makeDirectories_of_error hmake hwhy]
  rcases h.locate_cases hname with hlocate | hlocate | hlocate
  · cases hfind : t.find? (p ++ [name]) with
    | none =>
      have hmake : t.makeDirectory (Path.joinText root name) =
          .ok (t.replace (some .empty) (p ++ [name])) := by
        rw [makeDirectory, hlocate, hfind]
        rfl
      exact .inr ⟨rfl, by rw [makeDirectories_of_ok hmake]⟩
    | some there =>
      refine .inl (herror .alreadyExists ?_ nofun)
      rw [makeDirectory, hlocate, hfind]
      rfl
  · refine .inl (herror .invalidName ?_ nofun)
    rw [makeDirectory, hlocate]
    rfl
  · refine .inl (herror .nameTooLong ?_ nofun)
    rw [makeDirectory, hlocate]
    rfl

/-- Opening a store leaves every other name in the directory what it was. -/
theorem openAt_beside {name' : String} (h : IsAt t root p) (hname' : Path.IsPlain name')
    (hne : name ≠ name') (process : Nat) :
    Survives t (openAt t process root name').1 ∧
      (openAt t process root name').1.find? (p ++ [name]) = t.find? (p ++ [name]) := by
  rcases openAt_cases h hname' process with hsame | ⟨hfree, hmade⟩
  · rw [hsame]
    exact ⟨.refl t, rfl⟩
  · rw [hmade]
    refine ⟨?_, find?_replace_of_ne hne _ t p⟩
    have hfile : ∀ inner, t.find? (p ++ [name']) ≠ some (.directory inner) := by
      rw [hfree]
      exact nofun
    exact (Exchanged.exchange (some .empty) .refl hfile).survives

end DiskStore

/-! ## Many operations on many stores -/

/-- Something done with one of the stores below a directory. -/
structure Use where
  process : Nat
  /-- The name of the store. -/
  name : String
  /-- An operation of the store, or none if it is opened. -/
  operation? : Option Store.Operation

namespace Use

/-- What is used. -/
def store (root : String) (u : Use) : DiskStore := ⟨Path.joinText root u.name, u.process⟩

/-- What becomes of the files. -/
def files (root : String) (t : FileTree) (u : Use) : FileTree :=
  match u.operation? with
  | none => (DiskStore.openAt t u.process root u.name).1
  | some op => (op.on (⟨t, u.store root⟩ : Volume)).1.files

/-- The operation on the store of this name, if it is one. -/
def operationOn? (name : String) (u : Use) : Option Operation :=
  if u.name = name then u.operation? else none

/-- The use of a store with a plain name. The system may be asked for the paths of the
    files of the store of interest, and its keys are among those that have digests of
    their own. -/
structure Proper (root name : String) (keys : Set String) (u : Use) : Prop where
  isPlain : Path.IsPlain u.name
  usable : u.name = name → (u.store root).Usable
  key_mem : u.name = name → ∀ op, u.operation? = some op → op.key ∈ keys

end Use

/-- The operations on the store of this name. -/
def operationsOn (name : String) (uses : List Use) : List Operation :=
  uses.filterMap (·.operationOn? name)

/-- What becomes of the files. -/
def filesAfter (root : String) (files : FileTree) (uses : List Use) : FileTree :=
  uses.foldl (Use.files root) files

variable {files t : FileTree} {root name : String} {p : Path} {keys : Set String}
  {ops : List Operation} {uses : List Use} {u : Use}

theorem operationsOn_concat (name : String) (uses : List Use) (u : Use) :
    operationsOn name (uses ++ [u]) = operationsOn name uses ++ (u.operationOn? name).toList := by
  rw [operationsOn, List.filterMap_append]
  cases h : u.operationOn? name with
  | none => rw [List.filterMap_cons_none h]; rfl
  | some op => rw [List.filterMap_cons_some h]; rfl

theorem key_of_mem_operationsOn (h : ∀ u ∈ uses, u.Proper root name keys) :
    ∀ op ∈ operationsOn name uses, op.key ∈ keys := by
  intro op hop
  obtain ⟨u, hu, hop⟩ := List.mem_filterMap.1 hop
  obtain ⟨hown, hop⟩ := Option.ite_none_right_eq_some.1 hop
  exact (h u hu).key_mem hown op hop

/-- The directory of the store of interest holds what was left in it. -/
structure Stands (root name : String) (p : Path) (ops : List Operation) (t : FileTree) : Prop where
  isAt : IsAt t root p
  find? : t.find? (p ++ [name]) =
    some (.directory ((MemoryStore.after ops).entries.map DiskStore.entry))

/-- The system may be asked for the path of the directory of a store. -/
structure Site (root name : String) : Prop where
  isPlain : Path.IsPlain name
  short : name.utf8ByteSize ≤ Path.longestName
  isWritten : Path.IsWritten (Path.joinText root name)

namespace Stands

theorem locate (h : Stands root name p ops t) (hsite : Site root name) :
    t.locate (Path.joinText root name) = .ok ⟨p ++ [name],
      some (.directory ((MemoryStore.after ops).entries.map DiskStore.entry))⟩ := by
  rw [h.isAt.locate hsite.isPlain hsite.short hsite.isWritten, h.find?]

theorem holds (h : Stands root name p ops t) (hsite : Site root name) (process : Nat) :
    DiskStore.Holds ⟨Path.joinText root name, process⟩ (p ++ [name])
      (MemoryStore.after ops).entries t :=
  ⟨hsite.isWritten.zero_not_mem, h.isAt.join hsite.isPlain hsite.short h.find?, h.find?⟩

/-- One operation on the store of interest. -/
theorem on {s : DiskStore} {op : Operation} (h : Stands root name p ops t)
    (hsite : Site root name) (hs : s.Usable) (hdirectory : s.directory = Path.joinText root name)
    (hkeys : DiskStore.Distinct keys) (hops : ∀ op ∈ ops, op.key ∈ keys) (hkey : op.key ∈ keys) :
    ∃ t', op.on (⟨t, s⟩ : Volume) = (⟨t', s⟩, .ok (op.answer ops)) ∧
      Stands root name p (ops ++ [op]) t' := by
  obtain ⟨directory, process⟩ := s
  obtain rfl : directory = Path.joinText root name := hdirectory
  obtain ⟨t', hon, hfind⟩ := (h.holds hsite process).on hs hkeys
    (MemoryStore.key_of_mem_after hops) hkey
  have hexchanged := DiskStore.exchanged_on h.isAt hsite.isPlain process op
  rw [hon] at hexchanged
  refine ⟨t', by rw [hon, MemoryStore.on_after], h.isAt.survives hexchanged.survives, ?_⟩
  rw [hfind, MemoryStore.after_concat]

/-- Whatever is done to another store leaves the directory of this one alone. -/
theorem aside (h : Stands root name p ops t) (hu : Path.IsPlain u.name) (hne : name ≠ u.name) :
    Stands root name p ops (u.files root t) := by
  rw [Use.files]
  cases u.operation? with
  | none =>
    obtain ⟨hsurvives, hfind⟩ := DiskStore.openAt_beside h.isAt hu hne u.process
    exact ⟨h.isAt.survives hsurvives, hfind.trans h.find?⟩
  | some op =>
    have hexchanged := DiskStore.exchanged_on h.isAt hu u.process op
    exact ⟨h.isAt.survives hexchanged.survives, (hexchanged.find?_beside hne []).trans h.find?⟩

theorem use (h : Stands root name p ops t) (hsite : Site root name)
    (hkeys : DiskStore.Distinct keys) (hops : ∀ op ∈ ops, op.key ∈ keys)
    (hu : u.Proper root name keys) :
    Stands root name p (ops ++ (u.operationOn? name).toList) (u.files root t) := by
  by_cases hown : u.name = name
  · rw [Use.operationOn?, if_pos hown, Use.files]
    cases hop : u.operation? with
    | none =>
      dsimp only
      rw [hown, DiskStore.openAt_eq (h.locate hsite), Option.toList_none, List.append_nil]
      exact h
    | some op =>
      have hdirectory : (u.store root).directory = Path.joinText root name :=
        congrArg (Path.joinText root) hown
      obtain ⟨t', hon, hstands⟩ := h.on hsite (hu.usable hown) hdirectory hkeys hops
        (hu.key_mem hown op hop)
      dsimp only
      rw [hon]
      exact hstands
  · rw [Use.operationOn?, if_neg hown, Option.toList_none, List.append_nil]
    exact h.aside hu.isPlain (Ne.symm hown)

/-- The directory stands after any number of uses. -/
theorem filesAfter (h : Stands root name p [] files) (hsite : Site root name)
    (hkeys : DiskStore.Distinct keys) (huses : ∀ u ∈ uses, u.Proper root name keys) :
    Stands root name p (operationsOn name uses) (filesAfter root files uses) := by
  -- On the last use, as the directory stands before it whatever comes after.
  induction uses using List.reverseRecOn with
  | nil => exact h
  | append_singleton uses u ih =>
    rw [List.forall_mem_append, List.forall_mem_singleton] at huses
    rw [operationsOn_concat, Playpen.filesAfter, List.foldl_append]
    exact (ih huses.1).use hsite hkeys (key_of_mem_operationsOn huses.1) huses.2

end Stands

/-- An opened store whose directory is empty stands. -/
theorem DiskStore.stands_of_openAt {s : DiskStore} {process : Nat} {path : Path}
    (hname : Path.IsPlain name) (hopen : openAt t process root name = (files, .ok s))
    (hempty : files.locate s.directory = .ok ⟨path, some (.directory [])⟩) :
    s.directory = Path.joinText root name ∧ Site root name ∧
      ∃ p, path = p ++ [name] ∧ Stands root name p [] files := by
  obtain rfl := eq_of_openAt hopen
  obtain ⟨p, hat, hplace, hshort, hwritten⟩ := IsAt.of_locate hname hempty
  obtain ⟨hpath, hfind⟩ := Place.mk.inj hplace
  exact ⟨rfl, ⟨hname, hshort, hwritten⟩, p, hpath, hat, hfind.symm⟩

/-- The entries that are left in a directory, one for each key that has anything. -/
theorem mem_map_entry_iff {file : String × FileTree} :
    file ∈ (MemoryStore.after ops).entries.map DiskStore.entry ↔
      ∃ key bytes, Operation.held? ops key = some bytes ∧
        file = (DiskStore.entryName key ++ ".bin", .file bytes) := by
  have hnodup := MemoryStore.nodup_after ops
  rw [List.mem_map]
  constructor
  · rintro ⟨⟨key, bytes⟩, he, rfl⟩
    have hheld := (MemoryStore.mem_entries_iff hnodup).1 he
    rw [MemoryStore.get?_after] at hheld
    exact ⟨key, bytes, hheld, rfl⟩
  · rintro ⟨key, bytes, hheld, rfl⟩
    refine ⟨(key, bytes), (MemoryStore.mem_entries_iff hnodup).2 ?_, rfl⟩
    rw [MemoryStore.get?_after, hheld]

/-- No two entries that are left have the same name. -/
theorem nodup_map_entry (hkeys : DiskStore.Distinct keys) (hops : ∀ op ∈ ops, op.key ∈ keys) :
    (((MemoryStore.after ops).entries.map DiskStore.entry).map Prod.fst).Nodup := by
  have hnames : ((MemoryStore.after ops).entries.map DiskStore.entry).map Prod.fst =
      ((MemoryStore.after ops).entries.map Prod.fst).map DiskStore.entryFile := by
    rw [List.map_map, List.map_map]
    rfl
  rw [hnames]
  refine List.Nodup.map_on ?_ (MemoryStore.nodup_after ops)
  have hmem := MemoryStore.key_of_mem_after hops
  intro key hkey key' hkey' heq
  obtain ⟨e, he, rfl⟩ := List.mem_map.1 hkey
  obtain ⟨e', he', rfl⟩ := List.mem_map.1 hkey'
  exact (DiskStore.entryFile_eq_iff hkeys (hmem e he) (hmem e' he')).1 heq

/-- The store `s`, called `name` below `root`, and a store in memory agree on what these
    operations have left. The directory of `s` is at `path`, and `now` are all files. -/
structure DiskStore.Agrees (keys : Set String) (root name : String) (path : Path) (s : DiskStore)
    (ops : List Operation) (now : FileTree) : Prop where
  openAt_eq (process : Nat) : openAt now process root name = (now, .ok ⟨s.directory, process⟩)
  onDisk (op : Operation) (process : Nat) : op.key ∈ keys → Usable ⟨s.directory, process⟩ →
    (op.on (⟨now, ⟨s.directory, process⟩⟩ : Volume)).2 = .ok (op.answer ops)
  inMemory (op : Operation) : (op.on (MemoryStore.after ops)).2 = .ok (op.answer ops)
  size_eq : (MemoryStore.after ops).size = {key | (Operation.held? ops key).isSome}.ncard
  contains_eq (key : String) :
    (MemoryStore.after ops).contains key = (Operation.held? ops key).isSome
  name_spec (key : String) : (entryName key).toList.length = 64 ∧
    ∀ c ∈ (entryName key).toList, c ∈ "0123456789abcdef".toList
  /-- There is one file for each key that has anything. -/
  files : ∃ entries, now.locate s.directory = .ok ⟨path, some (.directory entries)⟩ ∧
    (entries.map Prod.fst).Nodup ∧ entries.length = (MemoryStore.after ops).size ∧
    ∀ file, file ∈ entries ↔ ∃ key bytes, Operation.held? ops key = some bytes ∧
      file = (entryName key ++ ".bin", .file bytes)

/-- A store on disk whose directory was empty when it was opened, and a store in memory,
    after the same operations, with other stores below the same directory used in between.
    The next operation on either goes well and answers what the operations have left, and
    so does opening the store once more. The directory holds one file for each key that
    has anything. -/
theorem DiskStore.agrees {s : DiskStore} {process : Nat} {path : Path}
    (hname : Path.IsPlain name) (hopen : openAt t process root name = (files, .ok s))
    (hempty : files.locate s.directory = .ok ⟨path, some (.directory [])⟩)
    (hkeys : Distinct keys) (huses : ∀ u ∈ uses, u.Proper root name keys) :
    Agrees keys root name path s (operationsOn name uses) (filesAfter root files uses) := by
  obtain ⟨hdirectory, hsite, p, rfl, hstart⟩ := stands_of_openAt hname hopen hempty
  have hops : ∀ op ∈ operationsOn name uses, op.key ∈ keys := key_of_mem_operationsOn huses
  have hnow := hstart.filesAfter hsite hkeys huses
  have hlocate := hnow.locate hsite
  refine {
    openAt_eq := fun process => ?_
    onDisk := fun op process hkey hs => ?_
    inMemory := MemoryStore.on_after _
    size_eq := MemoryStore.size_after _
    contains_eq := fun key => ?_
    name_spec := fun key => ?_
    files := ?_ }
  · rw [hdirectory]
    exact DiskStore.openAt_eq hlocate process
  · rw [hdirectory] at hs ⊢
    obtain ⟨t', hon, -⟩ := hnow.on hsite hs rfl hkeys hops hkey
    rw [hon]
  · rw [← MemoryStore.get?_after]
    rfl
  · rw [entryName, String.toList_ofList]
    exact ⟨Sha256.length_hexDigest _, fun c hc => Sha256.mem_lowerHex_of_mem_hexDigest hc⟩
  · rw [hdirectory]
    exact ⟨_, hlocate, nodup_map_entry hkeys hops, List.length_map _, fun file => mem_map_entry_iff⟩

/-- A store is opened, used by two processes and beside another store, and has one key left. -/
theorem DiskStore.agrees_beside_neighbour :
    let uses : List Use :=
      [⟨7, "c", some (.insert "k" [0x76])⟩, ⟨8, "d", none⟩, ⟨8, "d", some (.insert "k" [0x77])⟩,
        ⟨9, "c", none⟩, ⟨9, "c", some (.insert "l" [0x78])⟩, ⟨7, "c", some (.remove "k")⟩]
    let now := filesAfter "" (.directory [("c", .empty)]) uses
    openAt .empty 7 "" "c" = (.directory [("c", .empty)], .ok ⟨"c", 7⟩) ∧
      ((Operation.lookup "k").on (⟨now, ⟨"c", 9⟩⟩ : Volume)).2 = .ok none ∧
      ((Operation.lookup "l").on (⟨now, ⟨"c", 9⟩⟩ : Volume)).2 = .ok (some [0x78]) ∧
      ∃ entries, now.locate "c" = .ok ⟨["c"], some (.directory entries)⟩ ∧ entries.length = 1 := by
  intro uses now
  have hopen : openAt .empty 7 "" "c" = (.directory [("c", .empty)], .ok ⟨"c", 7⟩) := rfl
  have hkeys : Distinct {"k", "l"} := by
    have hne : Sha256.digest (Utf8.encode "k".toList) ≠ Sha256.digest (Utf8.encode "l".toList) := by
      decide +kernel
    exact (Set.injOn_pair).2 fun heq => absurd heq hne
  have husable {process : Nat} (h : process < 10) : Usable ⟨"c", process⟩ := by
    refine ⟨h.trans (by decide), fun key => ?_⟩
    have hdigit : (toString process).length ≤ 1 := (Nat.length_repr_le_iff (by decide)).2 h
    have hlead : (Path.leading "c").utf8ByteSize = 2 := by decide +kernel
    rw [utf8ByteSize_draftPath, utf8ByteSize_entryPath, String.length_toList, hlead, Path.longest]
    exact (Nat.add_le_add_left hdigit 70).trans (by decide)
  have huses : ∀ u ∈ uses, u.Proper "" "c" {"k", "l"} := by
    have hplain : ∀ u ∈ uses, Path.IsPlain u.name := by decide
    have hprocess : ∀ u ∈ uses, u.process < 10 := by decide
    have hkey : ∀ u ∈ uses, ∀ op ∈ u.operation?, op.key = "k" ∨ op.key = "l" := by decide
    intro u hu
    refine ⟨hplain u hu, fun hname => ?_, fun _ op hop => hkey u hu op hop⟩
    rw [Use.store, hname]
    exact husable (hprocess u hu)
  have hagrees := agrees (by decide) hopen rfl hkeys huses
  obtain ⟨entries, hlocate, -, hlength, -⟩ := hagrees.files
  exact ⟨hopen, hagrees.onDisk (.lookup "k") 9 (.inl rfl) (husable (by decide)),
    hagrees.onDisk (.lookup "l") 9 (.inr rfl) (husable (by decide)), entries, hlocate, hlength⟩

/-- A path of many slashes leads to the top. A directory with a short name can be opened
    there although the paths of its files are too long, and then no operation goes well. -/
theorem DiskStore.without_room {slashes : Nat} {es : List (String × FileTree)}
    (hlong : 4026 ≤ slashes) (hshort : slashes < 4095)
    (hfind : t.find? ["c"] = some (.directory es)) (process : Nat) (op : Operation) :
    let root := String.ofList (List.replicate slashes '/')
    let s : DiskStore := ⟨Path.joinText root "c", process⟩
    t.locate s.directory = .ok ⟨["c"], some (.directory es)⟩ ∧
      openAt t process root "c" = (t, .ok s) ∧
      op.on (⟨t, s⟩ : Volume) = (⟨t, s⟩, .error (.file FileFault.nameTooLong.message)) := by
  intro root s
  have hname : Path.IsPlain "c" := by decide
  have hchars : s.directory.toList = List.replicate slashes '/' ++ ['c'] :=
    Path.toList_joinText_slashes hname slashes
  have hmem : ∀ c ∈ s.directory.toList, c = '/' ∨ c = 'c' := by
    rw [hchars]
    intro c hc
    exact (List.mem_append.1 hc).imp List.eq_of_mem_replicate List.mem_singleton.1
  have hzero : '\x00' ∉ s.directory.toList := fun hmem' => absurd (hmem _ hmem') (by decide)
  have hsize : s.directory.utf8ByteSize = slashes + 1 := by
    rw [utf8ByteSize_of_ascii, hchars, List.length_append, List.length_replicate,
      List.length_singleton]
    intro c hc
    rcases hmem c hc with rfl | rfl
    · decide
    · decide
  have hlead : Path.leading s.directory = s.directory ++ "/" := by
    rw [Path.leading, if_neg]
    rintro (hempty | hlast)
    · rw [hempty, String.utf8ByteSize_empty] at hsize
      omega
    · rw [hchars, List.getLast?_concat] at hlast
      exact absurd (Option.some.inj hlast) (by decide)
  -- The slashes make the path long, but there is no name among them.
  have hat : IsAt t root [] := by
    rw [IsAt, Path.ofText_slashes]
    exact .nil []
  have hlocate := hat.locate hname (by decide) ⟨hzero, hsize.trans_le hshort⟩
  rw [List.nil_append, hfind] at hlocate
  refine ⟨hlocate, openAt_eq hlocate process, on_of_long hzero ?_ t⟩
  rw [utf8ByteSize_entryPath, hlead, String.utf8ByteSize_append, hsize, Path.longest]
  have hslash : "/".utf8ByteSize = 1 := by decide
  omega

/-- Opening a store with an empty directory may promise too much. -/
theorem DiskStore.opened_without_room :
    let root := String.ofList (List.replicate 4094 '/')
    let files : FileTree := .directory [("c", .directory [])]
    let s : DiskStore := ⟨Path.joinText root "c", 7⟩
    Path.IsPlain "c" ∧ openAt files 7 root "c" = (files, .ok s) ∧
      files.locate s.directory = .ok ⟨["c"], some (.directory [])⟩ ∧
      ((Operation.insert "k" [0x76]).on (⟨files, s⟩ : Volume)).2 =
        .error (.file "File name too long (os error 36)") ∧
      ((Operation.lookup "k").on (⟨files, s⟩ : Volume)).2 =
        .error (.file "File name too long (os error 36)") := by
  intro root files s
  have hroom := without_room (t := files) (by decide : 4026 ≤ 4094) (by decide) rfl 7
  obtain ⟨hlocate, hopen, hinsert⟩ := hroom (.insert "k" [0x76])
  obtain ⟨-, -, hlookup⟩ := hroom (.lookup "k")
  exact ⟨by decide, hopen, hlocate, congrArg Prod.snd hinsert, congrArg Prod.snd hlookup⟩

end Playpen
