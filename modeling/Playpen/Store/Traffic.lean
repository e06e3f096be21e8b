import Playpen.Store.Disk
import Playpen.Store.Folder

/-!
# Stores on disk, step by step

To put bytes under a key takes several steps on files, and so does looking a key up. In
one process any number of both are under way at the same time, and their steps are taken
in any order (`Traffic.run`). The system may refuse any of them.

The draft of an entry is named by the key and the process, so all insertions under one
key have one draft.
-/

namespace Playpen

/-! ## Insertions -/

/-- How far an insertion has come. -/
inductive Insertion.Stage where
  | called
  /-- Its draft is open, and so many bytes were written. -/
  | writing (file offset : Nat)
  /-- The draft is closed, to be moved to the place of the entry. -/
  | moving
  /-- The draft could not be moved, and is to be taken away. -/
  | clearing
  | ended (stored : Bool)
deriving DecidableEq, Repr

/-- Bytes being put under a key. -/
structure Insertion where
  key : String
  bytes : Bytes
  stage : Insertion.Stage
deriving DecidableEq, Repr

namespace Insertion

/-- A step of an insertion. -/
inductive Move where
  /-- The draft is made, or what was in it is dropped. -/
  | create
  /-- So many of the bytes that are left are written, or all of them. -/
  | write (count : Nat)
  | close
  | move
  | clear
  /-- The system refuses the step that is due. -/
  | refuse
deriving DecidableEq, Repr

/-- The draft of an insertion may be there. -/
def isAtWork (a : Insertion) : Bool :=
  match a.stage with
  | .called | .ended _ => false
  | .writing .. | .moving | .clearing => true

/-- What a step does to the files and to the insertion, if it can be taken. -/
def step (process : Nat) (d : Folder) (a : Insertion) (m : Move) : Option (Folder × Insertion) :=
  let draft := DiskStore.draftFile process a.key
  match a.stage, m with
  | .called, .create =>
    let r := d.create draft
    some (r.1, { a with stage := .writing r.2 0 })
  | .called, .refuse => some (d, { a with stage := .ended false })
  | .writing file offset, .write count =>
    let bs := (a.bytes.drop offset).take count
    some (d.write file offset bs, { a with stage := .writing file (offset + bs.length) })
  | .writing _ offset, .close =>
    if offset = a.bytes.length then some (d, { a with stage := .moving }) else none
  | .writing .., .refuse => some (d, { a with stage := .ended false })
  | .moving, .move =>
    match d.move? draft (DiskStore.entryFile a.key) with
    | some d => some (d, { a with stage := .ended true })
    | none => some (d, { a with stage := .clearing })
  | .moving, .refuse => some (d, { a with stage := .clearing })
  | .clearing, .clear => some (d.unlink draft, { a with stage := .ended false })
  | .clearing, .refuse => some (d, { a with stage := .ended false })
  | _, _ => none

end Insertion

/-! ## Searches -/

/-- How far a search has come. -/
inductive Search.Stage where
  | called
  /-- An entry is open, and this was read of it. -/
  | reading (file : Nat) (sofar : Bytes)
  | ended (found? : Option Bytes)
  /-- The system has refused a step. -/
  | failed
deriving DecidableEq, Repr

/-- A key being looked up. -/
structure Search where
  key : String
  stage : Search.Stage
deriving DecidableEq, Repr

namespace Search

/-- A step of a search. -/
inductive Move where
  /-- The entry is opened, if there is one. -/
  | find
  /-- So many bytes are read, or all that are left. -/
  | read (count : Nat)
  /-- There is nothing more to read. -/
  | finish
  | refuse
deriving DecidableEq, Repr

/-- What becomes of a search in a step, if it can be taken. -/
def step (d : Folder) (l : Search) (m : Move) : Option Search :=
  match l.stage, m with
  | .called, .find =>
    match d.locate? (DiskStore.entryFile l.key) with
    | some file => some { l with stage := .reading file [] }
    | none => some { l with stage := .ended none }
  | .reading file sofar, .read count =>
    let more := ((d.contents file).drop sofar.length).take count
    some { l with stage := .reading file (sofar ++ more) }
  | .reading file sofar, .finish =>
    if (d.contents file).length ≤ sofar.length then some { l with stage := .ended (some sofar) }
    else none
  | .called, .refuse | .reading .., .refuse => some { l with stage := .failed }
  | _, _ => none

end Search

/-! ## All that goes on -/

/-- The directory of a store with all that a process does in it. -/
structure Traffic where
  process : Nat
  folder : Folder
  /-- All insertions, in the order in which they were called for. -/
  insertions : List Insertion
  /-- All searches, in the order in which they were called for. -/
  searches : List Search

namespace Traffic

/-- Something that happens. -/
inductive Move where
  /-- Someone puts bytes under a key. -/
  | insert (key : String) (bytes : Bytes)
  /-- Someone looks a key up. -/
  | lookup (key : String)
  /-- The entry of a key is taken away. -/
  | remove (key : String)
  /-- An insertion goes on. -/
  | insertion (i : Nat) (m : Insertion.Move)
  /-- A search goes on. -/
  | search (j : Nat) (m : Search.Move)
deriving DecidableEq, Repr

/-- A directory in which nothing goes on. -/
def start (process : Nat) (d : Folder) : Traffic := ⟨process, d, [], []⟩

/-- What happens in a move, if it can be made. -/
def step (x : Traffic) : Move → Option Traffic
  | .insert key bytes => some { x with insertions := x.insertions ++ [⟨key, bytes, .called⟩] }
  | .lookup key => some { x with searches := x.searches ++ [⟨key, .called⟩] }
  | .remove key => some { x with folder := x.folder.unlink (DiskStore.entryFile key) }
  | .insertion i m =>
    x.insertions[i]?.bind fun a => (a.step x.process x.folder m).map fun r =>
      { x with folder := r.1, insertions := x.insertions.set i r.2 }
  | .search j m =>
    x.searches[j]?.bind fun l => (l.step x.folder m).map fun l =>
      { x with searches := x.searches.set j l }

/-- What happens in moves, one after another. -/
def run (x : Traffic) (moves : List Move) : Option Traffic := moves.foldlM step x

end Traffic

end Playpen
