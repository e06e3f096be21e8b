import Playpen.Bytes.Sha256
import Playpen.FileTree
import Playpen.Settings
import Playpen.Store

/-!
# Stores on disk

A store in a directory of its own. The entry of a key is a file named by the
digest of the key, so that any key makes a good name. An entry is written to
another file first and then moved to its place, so that whoever reads it finds
all of it or nothing; what was written is taken away again if the move fails, but
not if writing stops before the end. What an operation comes to depends on the files
and on what the system refuses besides (`DiskStore.Refusals`).
-/

namespace Playpen

/-- A store in a directory. -/
structure DiskStore where
  /-- The written path of the directory. -/
  directory : String
  /-- The number of the process, which tells apart the files being written. -/
  process : Nat
deriving DecidableEq, Repr

namespace DiskStore

/-- The name of a key's entry, without its ending. -/
def entryName (key : String) : String :=
  String.ofList (Sha256.hexDigest (Utf8.encode key.toList))

/-- The name of a key's entry. -/
def entryFile (key : String) : String := entryName key ++ ".bin"

/-- The name of what a process writes first. -/
def draftFile (process : Nat) (key : String) : String :=
  entryName key ++ (".tmp" ++ toString process)

/-- The written path of a file in the directory. -/
def path (s : DiskStore) (name : String) : String := Path.joinText s.directory name

/-- The file of a key's entry. -/
def entryPath (s : DiskStore) (key : String) : String := s.path (entryName key ++ ".bin")

/-- The file that a key's entry is written to first. -/
def draftPath (s : DiskStore) (key : String) : String :=
  s.path (entryName key ++ ".tmp" ++ toString s.process)

/-- Opens the store `name` below the directory `root`, making its directory if
    there is none. -/
def openAt (t : FileTree) (process : Nat) (root name : String) :
    FileTree × Except HostError DiskStore :=
  let directory := Path.joinText root name
  match t.makeDirectories directory with
  | (t, .ok ()) => (t, .ok ⟨directory, process⟩)
  | (t, .error why) =>
    (t, .error (.cacheUnavailable ("cannot create " ++ directory ++ ": " ++ why.message)))

/-- The directory for stores below the platform's own directory for caches. -/
def platformRoot (caches : String) : String := Path.joinText caches "ruby-wasm-runner"

/-- Opens the store that the settings describe, if downloads are kept at all. -/
def ofSettings (t : FileTree) (process : Nat) (caches : String) (s : Settings) :
    FileTree × Except HostError (Option DiskStore) :=
  if s.cacheEnabled then
    let root := s.cacheDir?.getD (platformRoot caches)
    let r := openAt t process root s.cacheName
    (r.1, r.2.map some)
  else (t, .ok none)

/-- The bytes under a key. -/
def lookup (s : DiskStore) (t : FileTree) (key : String) : Except FileFault (Option Bytes) :=
  match t.readFile (s.entryPath key) with
  | .ok bytes => .ok (some bytes)
  | .error .notFound => .ok none
  | .error why => .error why

/-- What the system refuses of the steps of an insertion. -/
structure Refusals where
  /-- Why the draft is not opened. -/
  create? : Option Refusal := none
  /-- Where writing the draft stops. -/
  write? : Option Cutoff := none
  /-- Why the draft is not moved to the place of the entry. -/
  move? : Option Refusal := none
  /-- Why the draft is not taken away. -/
  clear? : Option Refusal := none
deriving DecidableEq, Repr

/-- Nothing is refused. -/
def Refusals.none : Refusals := { }

/-- Puts bytes under a key. -/
def insert (s : DiskStore) (t : FileTree) (key : String) (bytes : Bytes) (r : Refusals) :
    FileTree × Except FileFault Unit :=
  match t.writeFile (s.draftPath key) bytes r.create? r.write? with
  | (t, .error why) => (t, .error why)
  | (t, .ok ()) =>
    match FileFault.unless r.move? (t.renameFile (s.draftPath key) (s.entryPath key)) with
    | .ok t => (t, .ok ())
    | .error why =>
      -- Whether the draft can be taken away makes no difference to the answer.
      match FileFault.unless r.clear? (t.removeFile (s.draftPath key)) with
      | .ok t => (t, .error why)
      | .error _ => (t, .error why)

/-- Takes away what is under a key, unless the system refuses it. -/
def remove (s : DiskStore) (t : FileTree) (key : String) (refusal? : Option Refusal) :
    FileTree × Except FileFault Unit :=
  match FileFault.unless refusal? (t.removeFile (s.entryPath key)) with
  | .ok t => (t, .ok ())
  | .error .notFound => (t, .ok ())
  | .error why => (t, .error why)

/-- A failed operation on files as an error of the host. -/
def hostResult {α : Type} (r : Except FileFault α) : Except HostError α :=
  r.mapError fun why => .file why.message

end DiskStore

/-- A store on disk together with the files. The system refuses nothing that the files
    allow. -/
structure Volume where
  files : FileTree
  store : DiskStore

instance : Store Volume where
  lookup v key := DiskStore.hostResult (v.store.lookup v.files key)
  insert v key bytes :=
    let r := v.store.insert v.files key bytes .none
    ({ v with files := r.1 }, DiskStore.hostResult r.2)
  remove v key :=
    let r := v.store.remove v.files key none
    ({ v with files := r.1 }, DiskStore.hostResult r.2)

end Playpen
