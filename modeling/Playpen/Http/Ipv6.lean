import Playpen.Text.Numeral
import Playpen.Text.Split

/-!
# Addresses of 128 bits

Eight pieces of 16 bits are written in hexadecimal with colons between them. Two
colons stand for as many pieces of zero as are missing, and the last two pieces
may be written as four bytes in decimal with dots between them.
-/

namespace Playpen.Http.Ipv6

/-- The number of a piece: one digit or more, and no more than four. -/
def piece? (cs : List Char) : Option Nat :=
  if cs.isEmpty ∨ 4 < cs.length then none else Numeral.hex? cs

/-- The number of a byte in decimal, without zeros in front. -/
def byte? (cs : List Char) : Option Nat :=
  if 1 < cs.length ∧ cs.head? = some '0' then none
  else (Numeral.readMagnitude 255 .tooLarge cs).toOption

/-- The pieces that stand at the end of an address: one, or two written as four
    bytes. -/
def lastPieces? (cs : List Char) : Option (List Nat) :=
  if cs.contains '.' then do
    match ← (Text.split '.' cs).mapM byte? with
    | [a, b, c, d] => some [256 * a + b, 256 * c + d]
    | _ => none
  else (piece? cs).map ([·])

/-- The pieces between single colons. The last one may be written as bytes if
    `atEnd`. -/
def pieces? (atEnd : Bool) (cs : List Char) : Option (List Nat) :=
  if cs.isEmpty then some []
  else do
    let groups := Text.split ':' cs
    let first ← groups.dropLast.mapM piece?
    let last ← if atEnd then lastPieces? (groups.getLastD [])
      else (piece? (groups.getLastD [])).map ([·])
    some (first ++ last)

/-- What stands before and after the first two colons in a row. -/
def cut? : List Char → Option (List Char × List Char)
  | ':' :: ':' :: rest => some ([], rest)
  | c :: rest => (cut? rest).map fun r => (c :: r.1, r.2)
  | [] => none

/-- Reads the pieces of an address. -/
def ofText? (cs : List Char) : Option (List Nat) :=
  match cut? cs with
  | none => (pieces? true cs).filter (·.length == 8)
  | some (before, after) => do
    let before ← pieces? false before
    let after ← pieces? true after
    let missing := 8 - (before.length + after.length)
    if missing = 0 then none else some (before ++ List.replicate missing 0 ++ after)

/-- The number of zeros in front. -/
def leadingZeros (pieces : List Nat) : Nat := (pieces.takeWhile (· == 0)).length

/-- Where the longest row of zeros starts, the first one of those as long. -/
def longestZeros (pieces : List Nat) : Nat :=
  (List.range pieces.length).foldl (fun best i =>
    if leadingZeros (pieces.drop best) < leadingZeros (pieces.drop i) then i else best) 0

/-- The address in its shortest form: two colons stand for the longest row of
    zeros, if there is more than one in it. -/
def text (pieces : List Nat) : List Char :=
  let joined := fun (ps : List Nat) => Text.join ':' (ps.map (Nat.toDigits 16))
  let start := longestZeros pieces
  let count := leadingZeros (pieces.drop start)
  if count < 2 then joined pieces
  else joined (pieces.take start) ++ [':', ':'] ++ joined (pieces.drop (start + count))

end Playpen.Http.Ipv6
