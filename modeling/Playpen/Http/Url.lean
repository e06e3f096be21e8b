import Playpen.Http.Host
import Playpen.Http.Segments

/-!
# Addresses

Reading absolute addresses and writing them in their normal form: the scheme in
lower case, the host as it is asked for, no port that the scheme has anyway, a
path without dots, and what may not stand in an address as the numbers of its
bytes. A text without a scheme is no address, nor is one of the web without a
host.
-/

namespace Playpen.Http

/-- Who is asked, where, and by whom. -/
structure Authority where
  /-- Who asks, as it is written. -/
  user : List Char
  /-- The word that goes with the user, as it is written. -/
  password : List Char
  host : Host
  port? : Option Nat
deriving DecidableEq, Repr

/-- An address in its parts. -/
structure Url where
  scheme : List Char
  authority? : Option Authority
  /-- As it is written. -/
  path : List Char
  /-- As it is written, with the question mark. -/
  query : List Char
  /-- As it is written, with the hash. -/
  fragment : List Char
deriving DecidableEq, Repr

namespace Authority

/-- The authority of a file that is not somewhere else. -/
def empty : Authority := ⟨[], [], .absent, none⟩

/-- The characters that are written as numbers in names of users and in
    passwords. -/
def escaped : List Char := Segments.escaped ++ "/:;=@[\\]^|".toList

/-- Cuts the host off at the colon before the port. Colons in brackets are part of
    the host. -/
def cutPort (inBrackets : Bool) : List Char → List Char × List Char
  | [] => ([], [])
  | c :: rest =>
    if c = ':' ∧ !inBrackets then ([], c :: rest)
    else
      let r := cutPort (if c = '[' then true else if c = ']' then false else inBrackets) rest
      (c :: r.1, r.2)

/-- Reads a port, which may be empty, and what follows it. A port that goes
    without saying is left out. -/
def readPort? (standard? : Option Nat) (cs : List Char) : Option (Option Nat × List Char) :=
  let digits := cs.takeWhile Char.isDigit
  let rest := cs.dropWhile Char.isDigit
  let value := digits.foldl (fun n c => n * 10 + (c.toNat - '0'.toNat)) 0
  if 65535 < value ∨ !(rest.isEmpty || rest.head? = some '\\') then none
  else if digits.isEmpty ∨ standard? = some value then some (none, rest)
  else some (some value, rest)

/-- Reads an authority. What stands before the last `@` is the user's. A
    backslash after the port starts the path, so what follows it is left. -/
def ofText? (isWeb : Bool) (standard? : Option Nat) (cs : List Char) :
    Option (Authority × List Char) := do
  let asked := Text.takeEndWhile (· != '@') cs
  let asking := (cs.take (cs.length - asked.length)).dropLast
  let user := Percent.encode escaped (asking.takeWhile (· != ':'))
  let password := Percent.encode escaped ((asking.dropWhile (· != ':')).drop 1)
  let (name, port) := cutPort false asked
  let host ← if isWeb then Host.ofWeb? name else Host.ofOther? name
  if host = .absent ∧ (!port.isEmpty ∨ !user.isEmpty ∨ !password.isEmpty) then none
  else
    let (number?, rest) ← readPort? standard? (port.drop 1)
    some (⟨user, password, host, number?⟩, rest)

/-- The authority as it is written. -/
def text (a : Authority) : List Char :=
  let password := if a.password.isEmpty then [] else ':' :: a.password
  let asking := a.user ++ password
  let port := match a.port? with
    | none => []
    | some n => ':' :: Nat.toDigits 10 n
  (if asking.isEmpty then [] else asking ++ ['@']) ++ a.host.text ++ port

end Authority

namespace Url

/-- The schemes of the web. -/
def isWebScheme (scheme : List Char) : Bool :=
  ["http", "https", "ws", "wss", "ftp"].any fun s => s.toList == scheme

/-- The port that goes without saying. -/
def standardPort? (scheme : List Char) : Option Nat :=
  [("http", 80), ("ws", 80), ("https", 443), ("wss", 443), ("ftp", 21)].findSome? fun (s, port) =>
    if s.toList = scheme then some port else none

/-- The scheme of files. -/
def fileScheme : List Char := "file".toList

/-- A letter of ASCII in lower case. -/
def lower (c : Char) : Char :=
  if 'A' ≤ c ∧ c ≤ 'Z' then Char.ofNat (c.toNat + 32) else c

/-- The scheme before the first colon, in lower case, and what follows the
    colon. -/
def scheme? (cs : List Char) : Option (List Char × List Char) :=
  let isSchemeChar := fun (c : Char) => c.isAlphanum || c == '+' || c == '-' || c == '.'
  match cs.takeWhile isSchemeChar, cs.dropWhile isSchemeChar with
  | c :: name, ':' :: rest => if c.isAlpha then some ((c :: name).map lower, rest) else none
  | _, _ => none

/-- The text with slashes for backslashes, which are the same on the web and for
    files. -/
def slashes (cs : List Char) : List Char := cs.map fun c => if c = '\\' then '/' else c

/-- Reads the authority and the path of an address of the web. However many
    slashes there are in front, none of them counts. -/
def webParts? (scheme cs : List Char) : Option (Option Authority × List Char) := do
  let cs := (slashes cs).dropWhile (· == '/')
  let (a, _) ← Authority.ofText? true (standardPort? scheme) (cs.takeWhile (· != '/'))
  some (some a, Segments.text (Segments.ofText (cs.dropWhile (· != '/'))))

/-- Reads the authority and the path of an address of a file: after two slashes
    may stand a host, but not one that names a drive or this machine. -/
def fileParts? (cs : List Char) : Option (Option Authority × List Char) := do
  let cs := slashes cs
  let (host, rest) ← match Text.after? ['/', '/'] cs with
    | none => some (Host.absent, cs)
    | some rest =>
      let name := rest.takeWhile (· != '/')
      if name.isEmpty ∨ Segments.isDrive name then some (Host.absent, rest)
      else do
        let host ← Host.ofWeb? name
        let isHere := host = .name "localhost".toList
        some (if isHere then Host.absent else host, rest.drop name.length)
  let segments := (Segments.ofText rest).dropWhile List.isEmpty
  some (some { Authority.empty with host }, Segments.text segments)

/-- Reads the authority and the path of any other address, whose end they are if
    `isEnd`. A path that does not start with a slash is not looked into. -/
def otherParts? (isEnd : Bool) (cs : List Char) : Option (Option Authority × List Char) :=
  match Text.after? ['/', '/'] cs with
  | some rest => do
    let (a, left) ← Authority.ofText? false none (rest.takeWhile (· != '/'))
    let path := left ++ rest.dropWhile (· != '/')
    -- An `@` asks for a host unless nothing at all follows it.
    if rest.takeWhile (· != '/') = ['@'] ∧ !(isEnd && path.isEmpty) then none
    else some (some a, if path.isEmpty then [] else Segments.text (Segments.ofText path))
  | none =>
    if cs.head? = some '/' then
      let path := Segments.text (Segments.ofText cs)
      -- The path must not read as an authority.
      some (none, if ['/', '/'].isPrefixOf path then '/' :: '.' :: path else path)
    else some (none, Percent.encode [] cs)

/-- Reads an absolute address. -/
def ofText? (text : String) : Option Url := do
  let isEdge := fun (c : Char) => c.toNat ≤ 0x20
  let cs := (Text.dropEndWhile isEdge (text.toList.dropWhile isEdge)).filter
    fun c => !(c = '\t' || c = '\n' || c = '\r')
  let (scheme, rest) ← scheme? cs
  let isWeb := isWebScheme scheme
  let isFile := scheme = fileScheme
  let fragment := rest.dropWhile (· != '#')
  let rest := rest.takeWhile (· != '#')
  let query := rest.dropWhile (· != '?')
  let rest := rest.takeWhile (· != '?')
  let (authority?, path) ←
    if isWeb then webParts? scheme rest
    else if isFile then fileParts? rest
    else otherParts? (query.isEmpty && fragment.isEmpty) rest
  let quotes := if isWeb ∨ isFile then ['"', '\''] else ['"']
  some { scheme, authority?, path,
         query := Percent.encode (quotes ++ " #<>".toList) query,
         fragment := Percent.encode " \"<>`".toList fragment }

/-- The address in its normal form. -/
def text (u : Url) : List Char :=
  let authority := match u.authority? with
    | some a => '/' :: '/' :: a.text
    | none => []
  u.scheme ++ ':' :: authority ++ u.path ++ u.query ++ u.fragment

/-- The address without who asks. One whose name, or word, is not a text is left
    as it is. -/
def withoutUser (u : Url) : Url :=
  match u.authority? with
  | none => u
  | some a =>
    let isText := fun (cs : List Char) => (Utf8.decodeStrict? (Percent.decode cs)).isSome
    if isText a.user ∧ (!a.user.isEmpty ∨ (!a.password.isEmpty ∧ isText a.password)) then
      { u with authority? := some { a with user := [], password := [] } }
    else u

/-- The length that an address in a request may have. -/
def longest : Nat := 65534

/-- Documents can be asked for at this address. -/
def isRequestable (u : Url) : Bool :=
  let isPlain := fun (a : Authority) => !a.host.text.any fun c => "\"`\x7b\x7d".toList.contains c
  (u.scheme = "http".toList || u.scheme = "https".toList)
    && (u.authority?.map isPlain).getD false && u.text.length ≤ longest

end Url

end Playpen.Http
