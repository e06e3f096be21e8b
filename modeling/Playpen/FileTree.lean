import Playpen.Bytes.Utf8
import Playpen.Text.Split

/-!
# File trees

Directories and files, as the operations that a store needs see them. A written
path is walked from the top, name by name; a name may be `.` for the directory
itself or `..` for the one above it, and every name but the last has to be that
of a directory. The names that are left after the walk are the place that the
path leads to (`FileTree.locate`), whether there is something at that place or
not.

What is at a place is read by `FileTree.find?` and changed by
`FileTree.replace`; `find?_replace` says that the change is seen where it was
made.
-/

namespace Playpen

/-- The names from the top down. -/
abbrev Path := List String

namespace Path

/-- The names in a written path. -/
def ofText (text : String) : Path :=
  ((Text.split '/' text.toList).filter fun name => !name.isEmpty).map String.ofList

/-- One written path after another. The second stands alone if it starts at the
    top. -/
def joinText (base rest : String) : String :=
  if rest.toList.head? = some '/' then rest
  else if base = "" ∨ base.toList.getLast? = some '/' then base ++ rest
  else base ++ "/" ++ rest

/-- The written paths of the directories above, those further down first.
    `names` are the pieces of the path between its slashes, the last one first. -/
def aboveNames : List (List Char) → List String
  | [] => []
  | name :: names =>
    let above := aboveNames names
    -- An empty name comes from a second slash, and neither it nor `.` leads on.
    if name.isEmpty ∨ name = ['.'] then above
    else String.ofList (Text.join '/' (name :: names).reverse) :: above

/-- The written paths of the directories above the one that a written path leads
    to, those further down first. -/
def above (text : String) : List String :=
  (aboveNames (Text.split '/' text.toList).reverse).drop 1

/-- The number of bytes that a written path may have. -/
def longest : Nat := 4095

/-- The number of bytes that a name may have. -/
def longestName : Nat := 255

end Path

/-- Why the system refuses what nothing among the files is in the way of. -/
inductive Refusal where
  /-- The device has no room left. -/
  | noSpace
  /-- The user has no room left. -/
  | overQuota
  /-- A file may not be that large. -/
  | tooLarge
  /-- The device fails. -/
  | device
  /-- The user may not do it. -/
  | denied
  /-- Nobody may change anything. -/
  | readOnly
deriving DecidableEq, Repr

/-- The refusal in words. -/
def Refusal.message : Refusal → String
  | .noSpace => "No space left on device (os error 28)"
  | .overQuota => "Disk quota exceeded (os error 122)"
  | .tooLarge => "File too large (os error 27)"
  | .device => "Input/output error (os error 5)"
  | .denied => "Permission denied (os error 13)"
  | .readOnly => "Read-only file system (os error 30)"

/-- Why an operation on files fails. -/
inductive FileFault where
  /-- There is nothing, or no directory above it. -/
  | notFound
  /-- There is something already. -/
  | alreadyExists
  /-- What should be a directory is a file. -/
  | notDirectory
  /-- What should be a file is a directory. -/
  | isDirectory
  /-- A name or a path has too many bytes. -/
  | nameTooLong
  /-- A name has a zero character in it. -/
  | invalidName
  /-- The system refuses it. -/
  | refused (why : Refusal)
deriving DecidableEq, Repr

/-- The fault in words. -/
def FileFault.message : FileFault → String
  | .notFound => "No such file or directory (os error 2)"
  | .alreadyExists => "File exists (os error 17)"
  | .notDirectory => "Not a directory (os error 20)"
  | .isDirectory => "Is a directory (os error 21)"
  | .nameTooLong => "File name too long (os error 36)"
  | .invalidName => "file name contained an unexpected NUL byte"
  | .refused why => why.message

/-- What an operation comes to that the system may refuse. -/
def FileFault.unless {α : Type} (refusal? : Option Refusal) (r : Except FileFault α) :
    Except FileFault α :=
  match refusal? with
  | none => r
  | some why => .error (.refused why)

/-- The system writes so many bytes to a file, and refuses to write more. -/
structure Cutoff where
  count : Nat
  why : Refusal
deriving DecidableEq, Repr

/-- Where the system stops before all of these bytes are written, if it does. -/
def Cutoff.within? (cutoff? : Option Cutoff) (bytes : Bytes) : Option Cutoff :=
  cutoff?.filter fun c => c.count < bytes.length

/-- A file, or a directory of trees with names. -/
inductive FileTree where
  | file (bytes : Bytes)
  | directory (entries : List (String × FileTree))

/-- What a path leads to. -/
structure Place where
  /-- The names from the top down. -/
  path : Path
  /-- What is there, if anything. -/
  found? : Option FileTree

namespace FileTree

/-- Nothing below the top. -/
def empty : FileTree := .directory []

/-- What has the name in a directory. -/
def child? (t : FileTree) (name : String) : Option FileTree :=
  match t with
  | .file _ => none
  | .directory entries => entries.lookup name

/-- A directory in which the name stands for `new?`, whatever it stood for
    before. -/
def setChild (t : FileTree) (name : String) (new? : Option FileTree) : FileTree :=
  match t with
  | .file bytes => .file bytes
  | .directory entries =>
    .directory ((new?.map fun new => (name, new)).toList ++ entries.filter fun e => e.1 != name)

/-- What there is at a place. -/
def find? (t : FileTree) : Path → Option FileTree
  | [] => some t
  | name :: names => (t.child? name).bind fun below => below.find? names

/-- Puts `new?` at a place below the top, instead of what was there. If the
    directory above is missing nothing changes. -/
def replace (new? : Option FileTree) (t : FileTree) : Path → FileTree
  | [] => t
  | [name] => t.setChild name new?
  | name :: names =>
    match t.child? name with
    | none => t
    | some below => t.setChild name (some (below.replace new? names))

/-- Walks on from the directory that was entered last. Those that were entered
    and not left again are in `entered`, with their names. -/
def walk (t : FileTree) (entered : List (String × FileTree)) :
    List String → Except FileFault Place
  | [] => .ok ⟨(entered.map Prod.fst).reverse, some ((entered.head?.map Prod.snd).getD t)⟩
  | name :: names =>
    if name = "." then walk t entered names
    else if name = ".." then walk t (entered.drop 1) names
    else if Path.longestName < name.utf8ByteSize then .error .nameTooLong
    else
      let found? := ((entered.head?.map Prod.snd).getD t).child? name
      -- Whether there is anything at the end of the path does not matter here.
      if names.isEmpty then .ok ⟨(name :: entered.map Prod.fst).reverse, found?⟩
      else match found? with
        | none => .error .notFound
        | some (.file _) => .error .notDirectory
        | some (.directory entries) => walk t ((name, .directory entries) :: entered) names

/-- The place that a written path leads to. -/
def locate (t : FileTree) (path : String) : Except FileFault Place :=
  if path.toList.contains '\x00' then .error .invalidName
  else if Path.longest < path.utf8ByteSize then .error .nameTooLong
  else t.walk [] (Path.ofText path)

/-- There is a directory. -/
def isDirectory (t : FileTree) (path : String) : Bool :=
  match t.locate path with
  | .ok ⟨_, some (.directory _)⟩ => true
  | _ => false

/-- The bytes of a file. -/
def readFile (t : FileTree) (path : String) : Except FileFault Bytes := do
  match (← t.locate path).found? with
  | none => .error .notFound
  | some (.directory _) => .error .isDirectory
  | some (.file bytes) => .ok bytes

/-- The place of a file that is, or can be made, where a path leads to. -/
def locateFile (t : FileTree) (path : String) : Except FileFault Place := do
  let place ← t.locate path
  match place.found? with
  | some (.directory _) => .error .isDirectory
  | _ => .ok place

/-- Makes a file, or drops what is in the file there is, and then writes these bytes to
    it. The system may refuse to open the file, or stop before the last byte; then the file
    stays with what was written. -/
def writeFile (t : FileTree) (path : String) (bytes : Bytes) (refusal? : Option Refusal)
    (cutoff? : Option Cutoff) : FileTree × Except FileFault Unit :=
  match FileFault.unless refusal? (t.locateFile path) with
  | .error why => (t, .error why)
  | .ok place =>
    match Cutoff.within? cutoff? bytes with
    | some c => (t.replace (some (.file (bytes.take c.count))) place.path, .error (.refused c.why))
    | none => (t.replace (some (.file bytes)) place.path, .ok ())

/-- Takes a file away. -/
def removeFile (t : FileTree) (path : String) : Except FileFault FileTree := do
  let place ← t.locateFile path
  match place.found? with
  | none => .error .notFound
  | some _ => .ok (t.replace none place.path)

/-- Moves a file to where another path leads to, over the file there is. -/
def renameFile (t : FileTree) (source target : String) : Except FileFault FileTree := do
  let bytes ← t.readFile source
  let source ← t.locateFile source
  let target ← t.locateFile target
  .ok ((t.replace none source.path).replace (some (.file bytes)) target.path)

/-- Makes a directory where there is nothing. -/
def makeDirectory (t : FileTree) (path : String) : Except FileFault FileTree := do
  let place ← t.locate path
  match place.found? with
  | none => .ok (t.replace (some empty) place.path)
  | some _ => .error .alreadyExists

/-- Makes a directory unless there is one. If the directory above is missing,
    `above` makes it first. -/
def ensureDirectory (t : FileTree) (path : String)
    (above : FileTree → FileTree × Except FileFault Unit) : FileTree × Except FileFault Unit :=
  match t.makeDirectory path with
  | .ok t => (t, .ok ())
  | .error .notFound =>
    match above t with
    | (t, .error why) => (t, .error why)
    | (t, .ok ()) =>
      -- Making those above may have made this one, as with `a/b/..`.
      match t.makeDirectory path with
      | .ok t => (t, .ok ())
      | .error why => (t, if t.isDirectory path then .ok () else .error why)
  | .error why => (t, if t.isDirectory path then .ok () else .error why)

/-- Makes the first of these directories unless there is one, and as many of
    the others, each above the one before it, as it takes to do so. -/
def makeDirectoriesUp (t : FileTree) : List String → FileTree × Except FileFault Unit
  | [] => (t, .ok ())
  | path :: above => t.ensureDirectory path fun t => makeDirectoriesUp t above

/-- Makes a directory and those above it, as far as there are none. -/
def makeDirectories (t : FileTree) (path : String) : FileTree × Except FileFault Unit :=
  t.makeDirectoriesUp (path :: Path.above path)

/-- Everything below a directory with these entries, as written paths that begin
    with `lead`. Those of directories end with a slash. -/
def pathsBelow (lead : String) : List (String × FileTree) → List String
  | [] => []
  | (name, .file _) :: entries => (lead ++ name) :: pathsBelow lead entries
  | (name, .directory inner) :: entries =>
    let lead' := lead ++ name ++ "/"
    lead' :: pathsBelow lead' inner ++ pathsBelow lead entries

/-- Everything below the top, as written paths in order. Those of directories
    end with a slash. -/
def listing : FileTree → List String
  | .file _ => []
  | .directory entries => (pathsBelow "" entries).mergeSort fun a b => decide (a ≤ b)

theorem lookup_filter_ne {β : Type} {name name' : String} (h : name' ≠ name)
    (entries : List (String × β)) :
    (entries.filter fun e => e.1 != name).lookup name' = entries.lookup name' := by
  induction entries with
  | nil => rfl
  | cons e entries ih =>
    obtain ⟨key, b⟩ := e
    by_cases hk : key = name
    · subst hk
      have hb : (name' == key) = false := by simpa using h
      simp [List.lookup_cons, hb, ih]
    · by_cases hn : name' = key
      · subst hn
        simp [hk]
      · simp [List.lookup_cons, hk, ih]

theorem lookup_filter_self {β : Type} (name : String) (entries : List (String × β)) :
    (entries.filter fun e => e.1 != name).lookup name = none := by
  induction entries with
  | nil => rfl
  | cons e entries ih =>
    obtain ⟨key, b⟩ := e
    by_cases hk : key = name
    · simpa [hk] using ih
    · have hb : (name == key) = false := by simpa using Ne.symm hk
      simp [hk, List.lookup_cons, hb, ih]

/-- In a directory a name stands for what it was last made to stand for. -/
theorem child?_setChild_self (entries : List (String × FileTree)) (name : String)
    (new? : Option FileTree) : ((directory entries).setChild name new?).child? name = new? := by
  cases new? <;> simp [setChild, child?, lookup_filter_self]

/-- The other names of a directory keep their meaning. -/
theorem child?_setChild_of_ne {name name' : String} (h : name' ≠ name) (t : FileTree)
    (new? : Option FileTree) : (t.setChild name new?).child? name' = t.child? name' := by
  cases t with
  | file bytes => rfl
  | directory entries =>
    cases new? with
    | none => simp [setChild, child?, lookup_filter_ne h]
    | some new =>
      have hb : (name' == name) = false := by simpa using h
      simp [setChild, child?, List.lookup_cons, hb, lookup_filter_ne h]

/-- What is put at a place in a directory is found there. -/
theorem find?_replace {t : FileTree} {above : Path} {entries : List (String × FileTree)}
    (h : t.find? above = some (.directory entries)) (name : String) (new? : Option FileTree) :
    (t.replace new? (above ++ [name])).find? (above ++ [name]) = new? := by
  induction above generalizing t with
  | nil =>
    obtain rfl : t = .directory entries := by simpa [find?] using h
    simp [replace, find?, child?_setChild_self]
  | cons first above ih =>
    obtain ⟨below, hbelow, hentry⟩ := Option.bind_eq_some_iff.1 h
    obtain ⟨es, rfl⟩ : ∃ es, t = .directory es := by
      cases t with
      | file bytes => simp [child?] at hbelow
      | directory es => exact ⟨es, rfl⟩
    obtain ⟨n, ns, hns⟩ : ∃ n ns, above ++ [name] = n :: ns := by
      cases above <;> simp
    have hih := ih hentry
    rw [List.cons_append, hns, replace, hbelow]
    · rw [hns] at hih
      simpa [find?, child?_setChild_self] using hih
    · simp

end FileTree

end Playpen
