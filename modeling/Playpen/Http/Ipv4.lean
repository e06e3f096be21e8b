import Playpen.Text.Numeral
import Playpen.Text.Split

/-!
# Addresses of 32 bits

A number of 32 bits is written in up to four parts with dots between them. All
but the last one are bytes, and the last one stands for all the bytes that are
left. A part is written in decimal, in octal after a zero, or in hexadecimal
after `0x`.
-/

namespace Playpen.Http.Ipv4

/-- The number that a part of an address stands for. -/
def part? (cs : List Char) : Option Nat :=
  let (base, digits) := match cs with
    | '0' :: 'x' :: ds | '0' :: 'X' :: ds => (16, ds)
    | '0' :: d :: ds => (8, d :: ds)
    | cs => (10, cs)
  if cs.isEmpty then none
  else digits.foldlM (fun n c => do
    let d ← Numeral.hexDigit? c
    if d < base then some (base * n + d) else none) 0

/-- The parts of a text between its dots. A dot at the end ends the last part. -/
def parts (cs : List Char) : List (List Char) :=
  let pieces := Text.split '.' cs
  if pieces.length ≠ 1 ∧ pieces.getLast? = some [] then pieces.dropLast else pieces

/-- The text is meant to be an address, as its last part is a number or would be
    one in decimal. -/
def isMeant (cs : List Char) : Bool :=
  match (parts cs).getLast? with
  | none => false
  | some last => (!last.isEmpty && last.all Char.isDigit) || (part? last).isSome

/-- The number whose bytes, as many as `width`, the parts stand for. -/
def valueOf : Nat → List Nat → Option Nat
  | 0, _ | _, [] => none
  | width + 1, [last] => if last < 1 <<< (8 * (width + 1)) then some last else none
  | width + 1, byte :: parts =>
    if 255 < byte then none else (valueOf width parts).map (byte <<< (8 * width) + ·)

/-- Reads an address. -/
def ofText? (cs : List Char) : Option Nat := do valueOf 4 (← (parts cs).mapM part?)

/-- The four bytes of an address in decimal. -/
def text (value : Nat) : List Char :=
  Text.join '.' ([3, 2, 1, 0].map fun i => Nat.toDigits 10 (value >>> (8 * i) % 256))

end Playpen.Http.Ipv4
