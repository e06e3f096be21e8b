import Mathlib.Tactic.Common
import Playpen.Lifecycle

/-!
# What one step does to a life cycle

To ask, to empty the slot and to complete an attempt are all that changes a life
cycle. What each of them does to the slot, to those who wait and to what they
get is said here once.
-/

namespace Playpen

namespace Slot

variable {η ε : Type}

theorem awaits_iff {s : Slot η} {attempt : Nat} :
    s.awaits attempt ↔ s = .starting attempt := by
  cases s <;> simp [awaits]

/-- An attempt that completes leaves the slot with a value or with nothing. -/
theorem ofOutcome_ne_starting {outcome : Except ε η} {attempt : Nat} :
    ofOutcome outcome ≠ .starting attempt := by
  cases outcome <;> exact nofun

theorem ofOutcome_eq_ready {outcome : Except ε η} {value : η} :
    ofOutcome outcome = .ready value ↔ outcome = .ok value := by
  cases outcome <;> simp [ofOutcome]

end Slot

namespace Lifecycle

variable {η ε : Type} {l : Lifecycle η ε}

/-! ## Asking -/

theorem acquire_of_ready {value : η} (h : l.slot = .ready value) :
    l.acquire =
      { l with callers := l.callers + 1, outcomes := (l.callers, .ok value) :: l.outcomes } := by
  rw [acquire, h]

theorem acquire_of_starting {attempt : Nat} (h : l.slot = .starting attempt) :
    l.acquire =
      { l with callers := l.callers + 1, waiting := (l.callers, attempt) :: l.waiting } := by
  rw [acquire, h]

theorem acquire_of_vacant (h : l.slot = .vacant) :
    l.acquire =
      { l with
        slot := .starting (l.starts + 1)
        starts := l.starts + 1
        inFlight := (l.starts + 1) :: l.inFlight
        waiting := (l.callers, l.starts + 1) :: l.waiting
        callers := l.callers + 1 } := by
  rw [acquire, h]

/-- Whoever asks is numbered. -/
theorem callers_acquire : l.acquire.callers = l.callers + 1 := by
  rw [acquire]
  split <;> rfl

/-- No attempt is started for someone who finds a value or an attempt. -/
theorem acquire_of_not_vacant (h : l.slot ≠ .vacant) :
    l.acquire.slot = l.slot ∧ l.acquire.starts = l.starts ∧
      l.acquire.inFlight = l.inFlight := by
  cases hs : l.slot with
  | vacant => exact absurd hs h
  | starting attempt => rw [acquire_of_starting hs]; exact ⟨hs, rfl, rfl⟩
  | ready value => rw [acquire_of_ready hs]; exact ⟨hs, rfl, rfl⟩

/-- An attempt that was started before is in flight if it was. -/
theorem mem_inFlight_acquire {attempt : Nat} (h : attempt ≤ l.starts) :
    attempt ∈ l.acquire.inFlight ↔ attempt ∈ l.inFlight := by
  by_cases hs : l.slot = .vacant
  · rw [acquire_of_vacant hs, List.mem_cons, or_iff_right (Nat.ne_of_lt (Nat.lt_succ_of_le h))]
  · rw [(acquire_of_not_vacant hs).2.2]

/-- Whoever asks gets the value that is there. -/
theorem outcome?_acquire_self (h : l.outcome? l.callers = none) :
    l.acquire.outcome? l.callers = l.acquire.slot.value?.map .ok := by
  cases hs : l.slot with
  | vacant => rw [acquire_of_vacant hs]; exact h
  | starting attempt => rw [acquire_of_starting hs, hs]; exact h
  | ready value => rw [acquire_of_ready hs, hs, outcome?, List.lookup_cons, beq_self_eq_true]; rfl

/-- Whoever asks waits for the attempt that the slot waits for. -/
theorem mem_waiting_acquire_self {attempt : Nat} (h : ∀ a, (l.callers, a) ∉ l.waiting) :
    (l.callers, attempt) ∈ l.acquire.waiting ↔ l.acquire.slot = .starting attempt := by
  have hcons {a : Nat} : (l.callers, attempt) ∈ (l.callers, a) :: l.waiting ↔
      (Slot.starting a : Slot η) = .starting attempt := by
    rw [List.mem_cons, or_iff_left (h attempt), Prod.mk.injEq, Slot.starting.injEq]
    exact ⟨fun he => he.2.symm, fun he => ⟨rfl, he.symm⟩⟩
  cases hs : l.slot with
  | vacant => rw [acquire_of_vacant hs]; exact hcons
  | starting a => rw [acquire_of_starting hs, hs]; exact hcons
  | ready value => rw [acquire_of_ready hs, hs]; exact iff_of_false (h attempt) nofun

/-- What the others get does not change when someone asks. -/
theorem outcome?_acquire {caller : Nat} (h : caller ≠ l.callers) :
    l.acquire.outcome? caller = l.outcome? caller := by
  have hbeq : (caller == l.callers) = false := beq_false_of_ne h
  cases hs : l.slot with
  | vacant => rw [acquire_of_vacant hs, outcome?, outcome?]
  | starting attempt => rw [acquire_of_starting hs, outcome?, outcome?]
  | ready value => rw [acquire_of_ready hs, outcome?, outcome?, List.lookup_cons, hbeq]

/-- The others wait for what they waited for when someone asks. -/
theorem mem_waiting_acquire {caller attempt : Nat} (h : caller ≠ l.callers) :
    (caller, attempt) ∈ l.acquire.waiting ↔ (caller, attempt) ∈ l.waiting := by
  have hne {a : Nat} : (caller, attempt) ≠ (l.callers, a) := fun he => h (congrArg Prod.fst he)
  cases hs : l.slot with
  | vacant => rw [acquire_of_vacant hs, List.mem_cons, or_iff_right hne]
  | starting a => rw [acquire_of_starting hs, List.mem_cons, or_iff_right hne]
  | ready value => rw [acquire_of_ready hs]

/-! ## Completing -/

theorem complete_eq {attempt : Nat} {outcome : Except ε η} :
    l.complete attempt outcome =
      { l with
        slot := if l.slot.awaits attempt then .ofOutcome outcome else l.slot
        inFlight := l.inFlight.erase attempt
        waiting := l.waiting.filter fun w => !(w.2 == attempt)
        outcomes :=
          (l.waiting.filter fun w => w.2 == attempt).map (fun w => (w.1, outcome)) ++
            l.outcomes } := by
  rw [complete, List.partition_eq_filter_filter]
  rfl

/-- An attempt for which the slot does not wait leaves it as it is. -/
theorem slot_complete_of_ne {attempt : Nat} {outcome : Except ε η}
    (h : l.slot ≠ .starting attempt) : (l.complete attempt outcome).slot = l.slot := by
  rw [complete_eq]
  exact if_neg (mt Slot.awaits_iff.1 h)

theorem slot_complete_of_eq {attempt : Nat} {outcome : Except ε η}
    (h : l.slot = .starting attempt) :
    (l.complete attempt outcome).slot = .ofOutcome outcome := by
  rw [complete_eq]
  exact if_pos (Slot.awaits_iff.2 h)

theorem slot_complete_eq_starting {a attempt : Nat} {outcome : Except ε η} :
    (l.complete attempt outcome).slot = .starting a ↔ l.slot = .starting a ∧ a ≠ attempt := by
  by_cases hs : l.slot = .starting attempt
  · rw [slot_complete_of_eq hs, hs]
    refine iff_of_false Slot.ofOutcome_ne_starting ?_
    rintro ⟨ha, hne⟩
    exact hne (Slot.starting.inj ha).symm
  · rw [slot_complete_of_ne hs]
    refine ⟨fun ha => ⟨ha, ?_⟩, And.left⟩
    rintro rfl
    exact hs ha

/-- A value is in the slot after an attempt that has made it, or because it was
    there before. -/
theorem slot_complete_eq_ready {attempt : Nat} {outcome : Except ε η} {value : η} :
    (l.complete attempt outcome).slot = .ready value ↔
      l.slot = .starting attempt ∧ outcome = .ok value ∨ l.slot = .ready value := by
  by_cases hs : l.slot = .starting attempt
  · rw [slot_complete_of_eq hs, Slot.ofOutcome_eq_ready, hs]
    exact ⟨fun h => .inl ⟨rfl, h⟩, fun h => h.elim And.right nofun⟩
  · rw [slot_complete_of_ne hs]
    exact ⟨.inr, fun h => h.resolve_left fun h => hs h.1⟩

theorem mem_waiting_complete {caller a attempt : Nat} {outcome : Except ε η} :
    (caller, a) ∈ (l.complete attempt outcome).waiting ↔
      (caller, a) ∈ l.waiting ∧ a ≠ attempt := by
  rw [complete_eq, List.mem_filter, Bool.not_eq_true', beq_eq_false_iff_ne]

/-- An outcome is handed to those who waited for the attempt. -/
theorem lookup_served (caller attempt : Nat) (outcome : Except ε η) (ws : List (Nat × Nat)) :
    ((ws.filter fun w => w.2 == attempt).map fun w => (w.1, outcome)).lookup caller =
      if (caller, attempt) ∈ ws then some outcome else none := by
  induction ws with
  | nil => rfl
  | cons w ws ih => grind

/-- Those who waited for the attempt get its outcome, and all others get what
    they got. -/
theorem outcome?_complete {caller attempt : Nat} {outcome : Except ε η} :
    (l.complete attempt outcome).outcome? caller =
      if (caller, attempt) ∈ l.waiting then some outcome else l.outcome? caller := by
  rw [complete_eq, outcome?, List.lookup_append, lookup_served, outcome?]
  split <;> rfl

end Lifecycle

end Playpen
