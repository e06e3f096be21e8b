/-!
# Runs of moves

A system that can make a move or not is run through a list of moves, and the run comes to
nothing if one of them cannot be made. A run through more moves goes on from what it has
come to (`run_append`), and what every move preserves holds after every run
(`run_induction`).

Many systems number those that take part in them by their places in a list. A move adds one
or changes one, and the others stay what they were.
-/

namespace Playpen.Runs

variable {σ μ : Type} {step : σ → μ → Option σ} {x y : σ} {moves : List μ}

theorem run_cons_eq_some_iff {m : μ} :
    (m :: moves).foldlM step x = some y ↔ ∃ z, step x m = some z ∧ moves.foldlM step z = some y := by
  rw [List.foldlM_cons]
  exact Option.bind_eq_some_iff

theorem run_append (h : moves.foldlM step x = some y) (later : List μ) :
    (moves ++ later).foldlM step x = later.foldlM step y := by
  rw [List.foldlM_append, h]
  rfl

theorem run_concat {z : σ} {m : μ} (h : moves.foldlM step x = some y) (hm : step y m = some z) :
    (moves ++ [m]).foldlM step x = some z := by
  rw [run_append h, run_cons_eq_some_iff]
  exact ⟨z, hm, rfl⟩

theorem run_induction {P : σ → Prop} (hstep : ∀ {x m y}, m ∈ moves → P x → step x m = some y → P y)
    (h : moves.foldlM step x = some y) (hx : P x) : P y := by
  induction moves generalizing x with
  | nil => exact Option.some.inj h ▸ hx
  | cons m moves ih =>
    obtain ⟨z, hm, h⟩ := run_cons_eq_some_iff.1 h
    exact ih (fun hmem => hstep (List.mem_cons_of_mem m hmem)) h (hstep List.mem_cons_self hx hm)

/-! ## Those that take part -/

/-- At a place of a list with one more element is what was there, or the new one. -/
theorem getElem?_concat_eq_some_iff {α : Type} {l : List α} {a b : α} {i : Nat} :
    (l ++ [a])[i]? = some b ↔ l[i]? = some b ∨ i = l.length ∧ a = b := by
  rw [List.getElem?_append]
  split
  · rename_i hi
    simp [Nat.ne_of_lt hi]
  · rename_i hi
    rw [List.getElem?_singleton, List.getElem?_eq_none (Nat.le_of_not_lt hi)]
    simp
    omega

/-- At a place of a list is what one of its elements was changed to, or what was there. -/
theorem of_getElem?_set_eq_some {α : Type} {l : List α} {a b : α} {i j : Nat}
    (h : (l.set i a)[j]? = some b) : i = j ∧ a = b ∨ i ≠ j ∧ l[j]? = some b := by
  by_cases hij : i = j
  · subst hij
    have hi : i < l.length := by simpa using (List.getElem?_eq_some_iff.1 h).1
    rw [List.getElem?_set_self hi] at h
    exact .inl ⟨rfl, Option.some.inj h⟩
  · rw [List.getElem?_set_ne hij] at h
    exact .inr ⟨hij, h⟩

end Playpen.Runs
