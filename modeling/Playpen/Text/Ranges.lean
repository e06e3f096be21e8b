import Playpen.Text.Numeral
import Playpen.Text.Split

/-!
# Ranges of characters

Many classes of characters are no more than lists of ranges. A range is its first
and its last number; the longer lists are kept as text, in hexadecimal, and read
by `Ranges.ofText`.
-/

namespace Playpen.Text

/-- Ranges of numbers of characters. -/
abbrev Ranges := List (Nat × Nat)

/-- The number that hexadecimal digits stand for. -/
def hex (cs : List Char) : Nat := (Numeral.hex? cs).getD 0

/-- The words of a text, between spaces and ends of lines. -/
def words (text : String) : List (List Char) :=
  (split ' ' (text.toList.map fun c => if c = '\n' then ' ' else c)).filter fun w => !w.isEmpty

namespace Ranges

/-- Some range holds the number. -/
def has (ranges : Ranges) (n : Nat) : Bool := ranges.any fun r => r.1 ≤ n && n ≤ r.2

/-- One range: two numbers with a dash between them, or one that stands alone. -/
def range (cs : List Char) : Nat × Nat :=
  match split '-' cs with
  | [first, last] => (hex first, hex last)
  | _ => (hex cs, hex cs)

/-- Ranges with spaces between them. -/
def ofText (text : String) : Ranges := (words text).map range

theorem has_eq_true_iff {ranges : Ranges} {n : Nat} :
    ranges.has n = true ↔ ∃ r ∈ ranges, r.1 ≤ n ∧ n ≤ r.2 := by
  simp [has]

end Ranges

end Playpen.Text
