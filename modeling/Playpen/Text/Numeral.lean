/-!
# Decimal numerals

Reading whole numbers written in decimal, with a limit on their size. An
optional sign is followed by at least one of the digits `0` to `9` and nothing
else; the first character from the left that breaks this, or that takes the
number over the limit, decides which fault is reported.
-/

namespace Playpen

/-- Why a text is not the numeral that was asked for. -/
inductive Numeral.Fault where
  /-- There is no text. -/
  | empty
  /-- A character is no digit, or a sign stands alone. -/
  | invalidDigit
  /-- The number is above the largest one allowed. -/
  | tooLarge
  /-- The number is below the smallest one allowed. -/
  | tooSmall
deriving DecidableEq, Repr

namespace Numeral

/-- The fault in words. -/
def Fault.message : Fault → String
  | .empty => "cannot parse integer from empty string"
  | .invalidDigit => "invalid digit found in string"
  | .tooLarge => "number too large to fit in target type"
  | .tooSmall => "number too small to fit in target type"

/-- The value of one of the digits `0` to `9`. -/
def digit? (c : Char) : Option Nat :=
  if '0' ≤ c ∧ c ≤ '9' then some (c.toNat - '0'.toNat) else none

/-- The value of a hexadecimal digit. -/
def hexDigit? (c : Char) : Option Nat :=
  if '0' ≤ c ∧ c ≤ '9' then some (c.toNat - '0'.toNat)
  else if 'a' ≤ c ∧ c ≤ 'f' then some (c.toNat - 'a'.toNat + 10)
  else if 'A' ≤ c ∧ c ≤ 'F' then some (c.toNat - 'A'.toNat + 10)
  else none

/-- The value of hexadecimal digits. -/
def hex? (cs : List Char) : Option Nat :=
  cs.foldlM (fun n c => (hexDigit? c).map (16 * n + ·)) 0

/-- Reads the digits that follow a number `n` already read. A number above
    `limit` is the fault `excess`. -/
def readDigits (limit : Nat) (excess : Fault) (n : Nat) : List Char → Except Fault Nat
  | [] => .ok n
  | c :: cs =>
    match digit? c with
    | none => .error .invalidDigit
    | some d =>
      if limit < 10 * n + d then .error excess else readDigits limit excess (10 * n + d) cs

/-- Reads one digit or more. -/
def readMagnitude (limit : Nat) (excess : Fault) : List Char → Except Fault Nat
  | [] => .error .invalidDigit
  | cs => readDigits limit excess 0 cs

/-- Reads a number from 0 to `limit`, which a plus sign may precede. -/
def readNat (limit : Nat) : List Char → Except Fault Nat
  | [] => .error .empty
  | '+' :: cs => readMagnitude limit .tooLarge cs
  | cs => readMagnitude limit .tooLarge cs

/-- Reads a number of 32 bits with sign. -/
def readInt32 : List Char → Except Fault Int32
  | [] => .error .empty
  | '-' :: cs => (readMagnitude 0x80000000 .tooSmall cs).map fun n => Int32.ofInt (-n)
  | '+' :: cs => (readMagnitude 0x7FFFFFFF .tooLarge cs).map fun n => Int32.ofInt n
  | cs => (readMagnitude 0x7FFFFFFF .tooLarge cs).map fun n => Int32.ofInt n

end Numeral

end Playpen
