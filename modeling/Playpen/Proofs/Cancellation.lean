import Playpen.Cancellation

/-!
# Flags and their copies

A new flag is not set, and a copy says of its flag what all other copies say. To
make flags and copies changes nothing for the copies there are, and to set a flag
is seen through its own copies only.
-/

namespace Playpen.FlagPool

variable {p : FlagPool} {c d f g : Nat}

/-- A copy says what its flag says. -/
theorem isCancelled_of_copies (h : p.copies[c]? = some f) :
    p.isCancelled c = p.flags.getD f false := by
  rw [isCancelled, h]

/-! ## New flags and copies -/

theorem copies_fresh (h : p.copies[c]? = some f) : p.fresh.copies[c]? = some f := by
  rw [fresh, List.getElem?_append_left (List.getElem?_eq_some_iff.1 h).1, h]

theorem copies_fresh_self (p : FlagPool) :
    p.fresh.copies[p.copies.length]? = some p.flags.length := List.getElem?_concat_length

theorem copies_share (h : p.copies[c]? = some f) : (p.share d).copies[c]? = some f := by
  rw [share]
  split
  · exact (List.getElem?_append_left (List.getElem?_eq_some_iff.1 h).1).trans h
  · exact h

/-- The new copy is of the same flag. -/
theorem copies_share_self (h : p.copies[c]? = some f) :
    (p.share c).copies[p.copies.length]? = some f := by
  rw [share, h]
  exact List.getElem?_concat_length

theorem flags_share : (p.share c).flags = p.flags := by
  rw [share]
  split <;> rfl

/-- A new flag is not set, and so is a flag that there is not. -/
theorem getD_fresh (p : FlagPool) (f : Nat) : p.fresh.flags.getD f false = p.flags.getD f false := by
  rw [fresh, List.getD_eq_getElem?_getD, List.getD_eq_getElem?_getD, List.getElem?_append]
  split
  · rfl
  · rename_i hf
    rw [List.getElem?_eq_none (Nat.le_of_not_lt hf), List.getElem?_singleton]
    split <;> rfl

/-! ## Setting a flag -/

theorem copies_cancel : (p.cancel c).copies = p.copies := by
  rw [cancel]
  split <;> rfl

theorem length_flags_cancel : (p.cancel c).flags.length = p.flags.length := by
  rw [cancel]
  split
  · exact List.length_set
  · rfl

theorem getD_cancel_self (h : p.copies[c]? = some f) (hf : f < p.flags.length) :
    (p.cancel c).flags.getD f false = true := by
  rw [cancel, h, List.getD_eq_getElem?_getD, List.getElem?_set_self hf]
  rfl

/-- The others stay as they are. -/
theorem getD_cancel_of_ne (h : p.copies[c]? = some f) (hne : f ≠ g) :
    (p.cancel c).flags.getD g false = p.flags.getD g false := by
  rw [cancel, h, List.getD_eq_getElem?_getD, List.getElem?_set_ne hne,
    List.getD_eq_getElem?_getD]

end Playpen.FlagPool
