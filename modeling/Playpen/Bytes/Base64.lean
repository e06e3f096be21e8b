import Playpen.Bytes.Utf8

/-!
# Base64

The encoding of bytes in 64 characters, padded with `=` to a multiple of four.
Three bytes are four characters; one or two bytes at the end are two or three
characters and padding. Each byte string has exactly one encoding: `decode`
takes neither missing padding nor a last character with bits that no byte
uses.

A text that is no encoding is looked at again to say what is wrong with it
(`fault`). The last up to eight bytes are where padding may stand, and a wrong
byte before them is found first.
-/

namespace Playpen.Base64

/-- Why a text is no encoding. Offsets count bytes of UTF-8. -/
inductive Fault where
  /-- The byte is not in the alphabet, or it is padding in the wrong place. -/
  | invalidByte (byte : UInt8) (offset : Nat)
  /-- A single character is left over. -/
  | strayCharacter
  /-- The last character has bits that no byte uses. -/
  | lastSymbol (byte : UInt8) (offset : Nat)
  /-- There is too little padding. -/
  | padding
deriving DecidableEq, Repr

/-- The fault in words. -/
def Fault.message : Fault → String
  | .invalidByte b i => s!"Invalid byte {b.toNat}, offset {i}."
  | .strayCharacter => "Encoded text cannot have a 6-bit remainder."
  | .lastSymbol b i => s!"Invalid last symbol {b.toNat}, offset {i}."
  | .padding => "Invalid padding"

/-- The character that stands for a number below 64. -/
def symbol (n : Nat) : Char :=
  if n < 26 then Char.ofNat ('A'.toNat + n)
  else if n < 52 then Char.ofNat ('a'.toNat + (n - 26))
  else if n < 62 then Char.ofNat ('0'.toNat + (n - 52))
  else if n = 62 then '+'
  else '/'

/-- The number that a character of the alphabet stands for. -/
def value? (c : Char) : Option Nat :=
  if 'A' ≤ c ∧ c ≤ 'Z' then some (c.toNat - 'A'.toNat)
  else if 'a' ≤ c ∧ c ≤ 'z' then some (c.toNat - 'a'.toNat + 26)
  else if '0' ≤ c ∧ c ≤ '9' then some (c.toNat - '0'.toNat + 52)
  else if c = '+' then some 62
  else if c = '/' then some 63
  else none

/-- The encoding of bytes. -/
def encode : Bytes → List Char
  | [] => []
  | [a] =>
    let n := a.toNat * 16
    [symbol (n / 64), symbol (n % 64), '=', '=']
  | [a, b] =>
    let n := (a.toNat * 256 + b.toNat) * 4
    [symbol (n / 4096), symbol (n / 64 % 64), symbol (n % 64), '=']
  | a :: b :: c :: rest =>
    let n := (a.toNat * 256 + b.toNat) * 256 + c.toNat
    symbol (n / 262144) :: symbol (n / 4096 % 64) :: symbol (n / 64 % 64) :: symbol (n % 64)
      :: encode rest

/-- The byte in two characters, if the second uses no other bits. -/
def oneByte? (a b : Nat) : Option Bytes :=
  let n := a * 64 + b
  if n % 16 = 0 then some [UInt8.ofNat (n / 16)] else none

/-- The bytes in three characters, if the third uses no other bits. -/
def twoBytes? (a b c : Nat) : Option Bytes :=
  let n := (a * 64 + b) * 64 + c
  if n % 4 = 0 then some [UInt8.ofNat (n / 1024), UInt8.ofNat (n / 4 % 256)] else none

/-- The bytes in four characters. -/
def threeBytes (a b c d : Nat) : Bytes :=
  let n := ((a * 64 + b) * 64 + c) * 64 + d
  [UInt8.ofNat (n / 65536), UInt8.ofNat (n / 256 % 256), UInt8.ofNat (n % 256)]

/-- The bytes whose encoding this is. -/
def decode? : List Char → Option Bytes
  | [] => some []
  | a :: b :: c :: d :: rest =>
    match value? a, value? b, value? c, value? d with
    | some a, some b, some c, some d => (decode? rest).map (threeBytes a b c d ++ ·)
    | some a, some b, some c, none => if d = '=' ∧ rest = [] then twoBytes? a b c else none
    | some a, some b, none, none =>
      if c = '=' ∧ d = '=' ∧ rest = [] then oneByte? a b else none
    | _, _, _, _ => none
  | _ => none

/-- The padding byte. -/
def pad : UInt8 := 61

/-- The byte is in the alphabet. -/
def isSymbol (b : UInt8) : Bool := (value? (Char.ofNat b.toNat)).isSome

/-- The first byte that is not in the alphabet. `offset` counts the bytes
    before these. -/
def firstForeign (offset : Nat) : Bytes → Option Fault
  | [] => none
  | b :: bs => if isSymbol b then firstForeign (offset + 1) bs else some (.invalidByte b offset)

/-- The first fault among the last bytes, which begin at `start`: `i` of them
    came before, and the first padding among those stood at `padding?`. -/
def tailFault (start : Nat) (padding? : Option Nat) (i : Nat) : Bytes → Option Fault
  | [] => none
  | b :: bs =>
    if b = pad then
      let first := padding?.getD i
      if i % 4 < 2 then some (.invalidByte pad (start + first))
      else tailFault start (some first) (i + 1) bs
    else match padding? with
      | some first => some (.invalidByte pad (start + first))
      | none =>
        if isSymbol b then tailFault start none (i + 1) bs
        else some (.invalidByte b (start + i))

/-- What is wrong with bytes that are no encoding. -/
def fault (bs : Bytes) : Fault :=
  let size := bs.length
  if size % 4 = 1 then
    let last := bs.getLastD pad
    if last = pad ∨ isSymbol last then .strayCharacter else .invalidByte last (size - 1)
  else
    -- Padding may only stand among the last bytes, which begin at a group.
    let start := size - (if size % 8 = 0 then 8 else size % 8)
    let tail := bs.drop start
    match (firstForeign 0 (bs.take start)).or (tailFault start none 0 tail) with
    | some f => f
    | none =>
      if size % 4 ≠ 0 then .padding
      else
        let symbols := tail.filter (· ≠ pad)
        .lastSymbol (symbols.getLastD pad) (start + symbols.length - 1)

/-- The bytes whose encoding this is, or why it is none. -/
def decode (cs : List Char) : Except Fault Bytes :=
  match decode? cs with
  | some bs => .ok bs
  | none => .error (fault (Utf8.encode cs))

end Playpen.Base64
