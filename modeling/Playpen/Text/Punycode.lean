/-!
# Punycode

Writing any text with the letters, digits and dashes of ASCII. The characters of
ASCII come first, then a dash, and then, in the order of their numbers, where the
other characters go: each as the number of steps that it is away from the one
before it, a step being one place further on, or on to the next number after the
last place. These numbers are written in a system of 36 digits in which the
weight of a digit, and which digit is the last one, depend on the numbers so far
(`threshold`, `adapt`).
-/

namespace Playpen.Text.Punycode

/-- The number before those of the characters that are not of ASCII. -/
def firstNumber : Nat := 0x80

/-- The bias before there are any numbers. -/
def firstBias : Nat := 72

/-- The digit of that value. -/
def digit (n : Nat) : Char := Char.ofNat (if n < 26 then 'a'.toNat + n else '0'.toNat + (n - 26))

/-- The value of a digit. -/
def digit? (c : Char) : Option Nat :=
  if 'a' ≤ c ∧ c ≤ 'z' then some (c.toNat - 'a'.toNat)
  else if 'A' ≤ c ∧ c ≤ 'Z' then some (c.toNat - 'A'.toNat)
  else if '0' ≤ c ∧ c ≤ '9' then some (c.toNat - '0'.toNat + 26)
  else none

/-- The least value of a digit at that position, counted from 1, after which the
    number goes on. -/
def threshold (bias position : Nat) : Nat := max 1 (min 26 (36 * position - bias))

theorem one_le_threshold (bias position : Nat) : 1 ≤ threshold bias position := by
  rw [threshold]
  omega

/-- The bias that goes with a distance of that size. -/
def biasOf (distance : Nat) : Nat :=
  if 455 < distance then 36 + biasOf (distance / 35) else 36 * distance / (distance + 38)
termination_by distance
decreasing_by omega

/-- The bias after a number of steps, with that many characters written. -/
def adapt (isFirst : Bool) (steps count : Nat) : Nat :=
  let distance := if isFirst then steps / 700 else steps / 2
  biasOf (distance + distance / count)

/-- The digits of a number from that position on. -/
def digits (bias position n : Nat) : List Char :=
  let t := threshold bias position
  if n < t then [digit n]
  else digit (t + (n - t) % (36 - t)) :: digits bias (position + 1) ((n - t) / (36 - t))
termination_by n
decreasing_by
  have := one_le_threshold bias position
  exact Nat.lt_of_le_of_lt (Nat.div_le_self _ _) (by omega)

/-- What is written so far, and how many steps were made since. -/
structure Encoder where
  written : List Char
  count : Nat
  steps : Nat
  bias : Nat
  isFirst : Bool

/-- Goes over the text once and writes each character of the number `n`. Those of
    lower numbers are there already, so passing them is a step. -/
def Encoder.pass (e : Encoder) (n : Nat) (cs : List Char) : Encoder :=
  cs.foldl (fun e c =>
    if c.toNat < n then { e with steps := e.steps + 1 }
    else if c.toNat = n then
      { written := e.written ++ digits e.bias 1 e.steps
        count := e.count + 1
        steps := 0
        bias := adapt e.isFirst e.steps (e.count + 1)
        isFirst := false }
    else e) e

/-- Writes the characters of the numbers in `ns`, which are in order and start at
    `next` or above. -/
def Encoder.passes (cs : List Char) (e : Encoder) (next : Nat) : List Nat → Encoder
  | [] => e
  | n :: ns =>
    let e := { e with steps := e.steps + (n - next) * (e.count + 1) }.pass n cs
    passes cs { e with steps := e.steps + 1 } (n + 1) ns

/-- The character is of ASCII. -/
def isBasic (c : Char) : Bool := c.toNat < firstNumber

/-- The text with the letters, digits and dashes of ASCII. -/
def encode (cs : List Char) : List Char :=
  let basic := cs.filter isBasic
  let others := (((cs.filter fun c => !isBasic c).map Char.toNat).mergeSort (· ≤ ·)).eraseDups
  let e : Encoder := ⟨[], basic.length, 0, firstBias, true⟩
  basic ++ (if basic.isEmpty then [] else ['-']) ++ (e.passes cs firstNumber others).written

/-- What is read so far: the text, the number of the last character and the place
    after it, and the number being read. -/
structure Decoder where
  text : List Char
  last : Nat
  place : Nat
  steps : Nat
  bias : Nat
  isFirst : Bool
  position : Nat
  weight : Nat

/-- Reads one digit. After the last one of a number a character is put where the
    steps lead to. -/
def Decoder.read (d : Decoder) (c : Char) : Option Decoder := do
  let value ← digit? c
  let t := threshold d.bias d.position
  let steps := d.steps + value * d.weight
  if t ≤ value then
    some { d with steps, position := d.position + 1, weight := d.weight * (36 - t) }
  else
    let count := d.text.length + 1
    let last := d.last + (d.place + steps) / count
    let place := (d.place + steps) % count
    if last.isValidChar then
      some {
        text := d.text.insertIdx place (Char.ofNat last)
        last
        place := place + 1
        steps := 0
        bias := adapt d.isFirst steps count
        isFirst := false
        position := 1
        weight := 1 }
    else none

/-- Reads a text that is written with ASCII. -/
def decode? (cs : List Char) : Option (List Char) := do
  let numbers := (cs.reverse.takeWhile (· != '-')).reverse
  let before := cs.take (cs.length - numbers.length)
  -- A dash with nothing before it is no end of what comes first.
  let (basic, numbers) := if before.length ≤ 1 then ([], cs) else (before.dropLast, numbers)
  if !basic.all isBasic then none
  else
    let d ← numbers.foldlM Decoder.read ⟨basic, firstNumber, 0, 0, firstBias, true, 1, 1⟩
    if d.position = 1 then some d.text else none

end Playpen.Text.Punycode
