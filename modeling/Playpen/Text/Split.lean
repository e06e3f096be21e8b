import Playpen.Text.Space

/-!
# Splitting texts

A text is a list of characters here. `split` cuts it at every occurrence of a
separator and keeps the pieces in between, the empty ones included; putting the
separator back between the pieces gives the text again (`join_split`).
-/

namespace Playpen.Text

/-- The pieces between the occurrences of `sep`: one more than there are
    occurrences, so never none. -/
def split {α : Type} [DecidableEq α] (sep : α) : List α → List (List α)
  | [] => [[]]
  | a :: l =>
    if a = sep then [] :: split sep l
    else match split sep l with
      | [] => [[a]]
      | piece :: pieces => (a :: piece) :: pieces

/-- The pieces with `sep` between each two of them. -/
def join {α : Type} (sep : α) : List (List α) → List α
  | [] => []
  | [piece] => piece
  | piece :: pieces => piece ++ sep :: join sep pieces

/-- Cuts one carriage return at the end, if there is one. -/
def dropReturn (line : List Char) : List Char :=
  if line.getLast? = some '\r' then line.dropLast else line

/-- The lines of a text: each ends with a newline, which a carriage return may
    precede, or with the text. A newline at the end of the text starts no
    further line. -/
def lines (cs : List Char) : List (List Char) :=
  let pieces := split '\n' cs
  let closed := pieces.dropLast.map dropReturn
  match pieces.getLast? with
  | none | some [] => closed
  | some rest => closed ++ [rest]

/-- What follows `lead` in a text that starts with it. -/
def after? (lead cs : List Char) : Option (List Char) :=
  if lead.isPrefixOf cs then some (cs.drop lead.length) else none

theorem split_ne_nil {α : Type} [DecidableEq α] (sep : α) (l : List α) : split sep l ≠ [] := by
  cases l with
  | nil => simp [split]
  | cons a l =>
    rw [split]
    split
    · simp
    · split <;> simp

/-- Splitting loses nothing but the separators. -/
theorem join_split {α : Type} [DecidableEq α] (sep : α) (l : List α) :
    join sep (split sep l) = l := by
  induction l with
  | nil => rfl
  | cons a l ih =>
    rw [split]
    cases h : split sep l with
    | nil => exact absurd h (split_ne_nil sep l)
    | cons piece pieces =>
      rw [h] at ih
      split
      · rename_i ha
        rw [join, ih, ha]
        · rfl
        · simp
      · cases pieces with
        | nil => simpa [join] using ih
        | cons q qs => simpa [join] using ih

theorem after?_eq_some_iff {lead cs rest : List Char} :
    after? lead cs = some rest ↔ cs = lead ++ rest := by
  rw [after?]
  constructor
  · intro h
    split at h
    · rename_i hp
      obtain ⟨r, rfl⟩ := List.isPrefixOf_iff_prefix.1 hp
      simp at h
      rw [h]
    · simp at h
  · rintro rfl
    rw [if_pos (List.isPrefixOf_iff_prefix.2 ⟨rest, rfl⟩)]
    simp

end Playpen.Text
