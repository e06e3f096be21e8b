/-!
# UTF-8

Writing characters as bytes, and reading bytes that may not be UTF-8 at all.
Reading never fails: each longest start of a sequence that breaks off, and each
byte that starts none, becomes one replacement character (`decode`).

A sequence is read byte by byte. A byte that starts a sequence says how many
bytes follow and in which range the next one is; the ranges after the first
byte leave out the sequences that are longer than needed, the surrogates and
the numbers above `U+10FFFF`, so what is completed is a character.
-/

namespace Playpen

/-- Bytes, in order. -/
abbrev Bytes := List UInt8

namespace Utf8

/-- The characters' encodings, one after the other. -/
def encode (cs : List Char) : Bytes := cs.flatMap String.utf8EncodeChar

/-- Stands for bytes that are no character. -/
def replacement : Char := '\ufffd'

/-- A sequence that has begun: the bits read so far, how many bytes are
    missing, and the range of the next one. -/
structure Partial where
  bits : Nat
  missing : Nat
  low : UInt8
  high : UInt8
deriving DecidableEq, Repr

/-- What a byte starts. -/
inductive Lead where
  /-- A character of its own. -/
  | single (c : Char)
  /-- A longer sequence. -/
  | opens (p : Partial)
  /-- Nothing. -/
  | none

/-- What the byte starts. -/
def lead (b : UInt8) : Lead :=
  let n := b.toNat
  if n < 0x80 then .single (Char.ofNat n)
  else if n < 0xC2 then .none
  else if n < 0xE0 then .opens ⟨n - 0xC0, 1, 0x80, 0xBF⟩
  else if n < 0xF0 then
    .opens ⟨n - 0xE0, 2, if n = 0xE0 then 0xA0 else 0x80, if n = 0xED then 0x9F else 0xBF⟩
  else if n < 0xF5 then
    .opens ⟨n - 0xF0, 3, if n = 0xF0 then 0x90 else 0x80, if n = 0xF4 then 0x8F else 0xBF⟩
  else .none

/-- The byte may follow. -/
def Partial.accepts (p : Partial) (b : UInt8) : Bool := p.low ≤ b && b ≤ p.high

/-- The sequence with one more byte. -/
def Partial.extend (p : Partial) (b : UInt8) : Partial :=
  ⟨p.bits * 64 + (b.toNat - 0x80), p.missing - 1, 0x80, 0xBF⟩

/-- Reads bytes while the sequence `unfinished?` is unfinished. -/
def decodeFrom (unfinished? : Option Partial) : Bytes → List Char
  | [] => if unfinished?.isSome then [replacement] else []
  | b :: bs =>
    match unfinished?.filter (·.accepts b) with
    | some p =>
      let p := p.extend b
      if p.missing = 0 then Char.ofNat p.bits :: decodeFrom none bs
      else decodeFrom (some p) bs
    | none =>
      -- A byte that does not fit ends the sequence and is read anew, so that
      -- no more is replaced than what cannot be read.
      (if unfinished?.isSome then [replacement] else []) ++
        match lead b with
        | .single c => c :: decodeFrom none bs
        | .opens p => decodeFrom (some p) bs
        | .none => replacement :: decodeFrom none bs

/-- The text of bytes of which any may be wrong. -/
def decode (bs : Bytes) : List Char := decodeFrom none bs

/-- The text of bytes that are UTF-8 throughout. -/
def decodeStrict? (bs : Bytes) : Option (List Char) :=
  if encode (decode bs) = bs then some (decode bs) else none

end Utf8

end Playpen
