/-!
# Blank space

Unicode's `White_Space` characters, and cutting them off the ends of a text. A
text is cut at both ends by `trim`; it is blank (`isBlank`) if it has nothing
else.
-/

namespace Playpen.Text

/-- The characters with Unicode's `White_Space` property. -/
def isSpace (c : Char) : Bool :=
  let n := c.toNat
  (0x9 ≤ n && n ≤ 0xD) || n == 0x20 || n == 0x85 || n == 0xA0 || n == 0x1680
    || (0x2000 ≤ n && n ≤ 0x200A) || n == 0x2028 || n == 0x2029 || n == 0x202F
    || n == 0x205F || n == 0x3000

/-- What is left of a list once its longest end satisfying `p` is cut off. -/
def dropEndWhile {α : Type} (p : α → Bool) (l : List α) : List α :=
  (l.reverse.dropWhile p).reverse

/-- The longest end of a list that satisfies `p`. -/
def takeEndWhile {α : Type} (p : α → Bool) (l : List α) : List α :=
  (l.reverse.takeWhile p).reverse

/-- Cuts the spaces at the start. -/
def trimStart (cs : List Char) : List Char := cs.dropWhile isSpace

/-- Cuts the spaces at both ends. -/
def trim (cs : List Char) : List Char := dropEndWhile isSpace (trimStart cs)

/-- Nothing but spaces. -/
def isBlank (cs : List Char) : Bool := cs.all isSpace

/-- Cutting an end off a list loses nothing but that end. -/
theorem dropEndWhile_append_takeEndWhile {α : Type} (p : α → Bool) (l : List α) :
    dropEndWhile p l ++ takeEndWhile p l = l := by
  rw [dropEndWhile, takeEndWhile, ← List.reverse_append, List.takeWhile_append_dropWhile,
    List.reverse_reverse]

end Playpen.Text
