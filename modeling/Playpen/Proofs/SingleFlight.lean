import Playpen.Proofs.Concurrent

/-!
# One attempt at a time

However calls interleave, an attempt is started only when the slot is vacant, and
all calls that depend on one attempt get the same from it. So there are no more
attempts than resets and failures called for (`single_flight`).
-/

namespace Playpen.Concurrent

open State

variable {s s' : State}

/-- A call is given the outcome of its attempt, and nothing before. -/
theorem Inv.received?_eq (hi : Inv s) {i g : Nat} (h : s.attempt? i = some g) :
    g ∈ s.attempts ∧ s.received? i = s.result? g := by
  obtain ⟨k, hk, hg⟩ := Option.bind_eq_some_iff.1 h
  have hserved := hi.served (List.mem_of_getElem? hk)
  rw [received?, hk, Option.bind_some]
  generalize k.progress = p at hg hserved
  match p with
  | .asked caller attempt =>
    obtain rfl := Option.some.inj hg
    exact ⟨hserved.2.1, hserved.2.2.2⟩
  | .obtained attempt outcome =>
    obtain rfl := Option.some.inj hg
    exact ⟨mem_attempts_of_result? hserved, hserved.symm⟩

/-- While the slot is not vacant no move starts an attempt. -/
theorem State.step_of_not_vacant {m : Move} (h : s.step m = some s')
    (hv : s.lifecycle.slot ≠ .vacant) :
    s'.lifecycle.starts = s.lifecycle.starts ∧ s'.attempts.Perm s.attempts := by
  rcases step_cases h with ⟨c, rfl⟩ | ⟨i, k, -, hsection⟩ | ⟨g, outcome, hg, rfl⟩
  · exact ⟨rfl, .refl _⟩
  · cases hsection with
    | pass | take | clear => exact ⟨rfl, .refl _⟩
    | ask =>
      obtain ⟨-, hstarts, hin⟩ := Lifecycle.acquire_of_not_vacant hv
      refine ⟨hstarts, ?_⟩
      rw [ask, attempts, hin]
      exact .refl _
  · exact ⟨by rw [State.complete, Lifecycle.complete_eq], Inv.perm_complete hg outcome⟩

/-- A call that finds an interpreter, or an attempt at one, starts none. All calls
    that depend on an attempt get its outcome. And the attempts, as many as were
    counted, are at most one more than the resets and the failures that the slot
    was told of. -/
theorem single_flight {settings : Settings} {moves : List Move}
    (h : (initial settings).run moves = some s) :
    (∀ m s', s.step m = some s' → s.lifecycle.slot ≠ .vacant →
      s'.lifecycle.starts = s.lifecycle.starts ∧ s'.attempts.Perm s.attempts) ∧
    (∀ i g, s.attempt? i = some g → g ∈ s.attempts ∧ s.received? i = s.result? g) ∧
    (∀ i j g, s.attempt? i = some g → s.attempt? j = some g → s.received? i = s.received? j) ∧
    s.attempts.length = s.lifecycle.starts ∧
    s.lifecycle.starts ≤ 1 + s.clears + s.failures := by
  have hi := run_inv h
  refine ⟨fun m s' hm hv => step_of_not_vacant hm hv, fun i g hg => hi.received?_eq hg,
    fun i j g hg hg' => ?_, hi.length_attempts, Nat.le_trans (Nat.le_add_right _ _) hi.starts_le⟩
  rw [(hi.received?_eq hg).2, (hi.received?_eq hg').2]

/-- Two calls share an attempt that fails, and a third starts another. -/
theorem single_flight_after_failure : ∃ s,
    (initial .default).run
      [.call .start, .call .reset, .proceed 1, .proceed 0, .proceed 1, .call .start,
        .complete 1 (.error Runner.zeroTimeout), .proceed 0, .proceed 2] = some s ∧
    s.received? 0 = s.received? 1 ∧ s.received? 0 = some (.error Runner.zeroTimeout) ∧
    s.attempts.length = 2 ∧ 2 ≤ 1 + s.clears + s.failures := by
  refine ⟨_, rfl, ?_⟩
  obtain ⟨-, hreceived, hsame, hlength, hle⟩ := @single_flight _ .default
    [.call .start, .call .reset, .proceed 1, .proceed 0, .proceed 1, .call .start,
      .complete 1 (.error Runner.zeroTimeout), .proceed 0, .proceed 2] rfl
  exact ⟨hsame 0 1 1 rfl rfl, (hreceived 0 1 rfl).2, hlength, hle⟩

end Playpen.Concurrent
