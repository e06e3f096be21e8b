import Mathlib.Tactic.Common
import Playpen.Proofs.Engine

/-!
# Flags are shared by families

What makes copies of one flag is how they were made: with a flag comes its first copy, and
any other copy is made from one that there was before. So every copy descends from one
first copy (`FlagPool.Founds`), and those that descend from the same are a family. A copy
says that its flag is set if and only if one of its family was used to set it
(`FlagPool.cancels_family`), whether the copy was made before that or afterwards. On an
interpreter, whoever waits and the evaluation that is waited for have copies of one family,
and share it with nobody else (`Engine.own_family`).
-/

namespace Playpen

namespace FlagPool

variable {p q : FlagPool} {moves later : List Move} {c d f r s : Nat}

/-! ## Families -/

/-- The moves in which copies are made, in order: copy `c` is made in the one at
    place `c`. -/
def makers (moves : List Move) : List Move :=
  moves.filter fun
    | .fresh | .share _ => true
    | .cancel _ => false

/-- Copy `r` was made with a flag, and copy `c` descends from it: it is `r`, or was made
    from a copy that does. -/
inductive Founds (moves : List Move) (r : Nat) : Nat → Prop
  | self : (makers moves)[r]? = some .fresh → Founds moves r r
  | share {c d : Nat} :
      Founds moves r c → (makers moves)[d]? = some (.share c) → Founds moves r d

/-- Two copies descend from the same. -/
def Related (moves : List Move) (c d : Nat) : Prop := ∃ r, Founds moves r c ∧ Founds moves r d

theorem makers_append (moves later : List Move) :
    makers (moves ++ later) = makers moves ++ makers later := List.filter_append ..

theorem makers_concat {m : Move} (h : ∀ c, .cancel c ≠ m) :
    makers (moves ++ [m]) = makers moves ++ [m] := by
  cases m with
  | fresh | share => exact makers_append ..
  | cancel c => exact absurd rfl (h c)

theorem makers_concat_cancel : makers (moves ++ [.cancel c]) = makers moves := by
  rw [makers_append]
  exact List.append_nil _

theorem getElem?_makers_append {m : Move} (h : (makers moves)[c]? = some m) :
    (makers (moves ++ later))[c]? = some m := by
  rw [makers_append, List.getElem?_append_left (List.getElem?_eq_some_iff.1 h).1, h]

/-- Whatever happens later, families stay together. -/
theorem Founds.append (h : Founds moves r c) (later : List Move) :
    Founds (moves ++ later) r c := by
  induction h with
  | self hr => exact .self (getElem?_makers_append hr)
  | share _ hd ih => exact .share ih (getElem?_makers_append hd)

theorem Related.append (h : Related moves c d) (later : List Move) :
    Related (moves ++ later) c d := by
  obtain ⟨r, hc, hd⟩ := h
  exact ⟨r, hc.append later, hd.append later⟩

theorem Founds.fresh (h : Founds moves r c) : (makers moves)[r]? = some .fresh := by
  induction h with
  | self hr => exact hr
  | share _ _ ih => exact ih

/-! ## A family has one flag -/

/-- How copies stand that were made in these moves. -/
structure Kin (made : List Move) (p : FlagPool) : Prop where
  length : p.copies.length = made.length
  /-- A copy is of a flag that there is. -/
  valid : ∀ {c f : Nat}, p.copies[c]? = some f → f < p.flags.length
  /-- A copy is of the flag of the copy that it was made from. -/
  shared : ∀ {c d : Nat}, made[d]? = some (.share c) →
    c < d ∧ ∀ {f : Nat}, p.copies[c]? = some f → p.copies[d]? = some f
  /-- No two copies were made with the same flag. -/
  apart : ∀ {r s f : Nat}, made[r]? = some .fresh → made[s]? = some .fresh →
    p.copies[r]? = some f → p.copies[s]? = some f → r = s

namespace Kin

variable {made : List Move}

theorem empty : Kin [] FlagPool.empty where
  length := rfl
  valid h := nomatch h
  shared h := nomatch h
  apart h := nomatch h

theorem lt_of_made (hk : Kin made p) {m : Move} (h : made[c]? = some m) : c < p.copies.length :=
  hk.length ▸ (List.getElem?_eq_some_iff.1 h).1

/-- One more copy is made: the first of a new flag, or one of the flag of the copy that it
    is made from. -/
theorem make (hk : Kin made p) {m : Move} (hcopies : q.copies = p.copies ++ [f])
    (hflags : p.flags.length ≤ q.flags.length) (hf : f < q.flags.length)
    (hfresh : m = .fresh → p.flags.length ≤ f)
    (hshare : ∀ c, m = .share c → p.copies[c]? = some f) : Kin (made ++ [m]) q := by
  have hold {c : Nat} (hc : c < p.copies.length) : q.copies[c]? = p.copies[c]? := by
    rw [hcopies, List.getElem?_append_left hc]
  have hnew : q.copies[made.length]? = some f := by
    rw [hcopies, ← hk.length, List.getElem?_concat_length]
  refine ⟨?_, fun {c g} hc => ?_, fun {c d} hd => ?_, fun {r s g} hr hs hrf hsf => ?_⟩
  · rw [hcopies, List.length_append, List.length_append, hk.length]
    rfl
  · rw [hcopies] at hc
    rcases Runs.getElem?_concat_eq_some_iff.1 hc with hc | ⟨-, rfl⟩
    · exact Nat.lt_of_lt_of_le (hk.valid hc) hflags
    · exact hf
  · rcases Runs.getElem?_concat_eq_some_iff.1 hd with hd | ⟨rfl, rfl⟩
    · obtain ⟨hcd, hflag⟩ := hk.shared hd
      have hd := hk.lt_of_made hd
      rw [hold (Nat.lt_trans hcd hd), hold hd]
      exact ⟨hcd, hflag⟩
    · have hc := hshare c rfl
      have hcd := (List.getElem?_eq_some_iff.1 hc).1
      rw [hold hcd, hnew, hc]
      exact ⟨hk.length ▸ hcd, id⟩
  · -- No copy that there was is of a flag that is new.
    have hother {c : Nat} (hc : made[c]? = some .fresh) (hm : m = .fresh)
        (hcf : q.copies[c]? = some f) : False := by
      rw [hold (hk.lt_of_made hc)] at hcf
      exact Nat.not_le_of_lt (hk.valid hcf) (hfresh hm)
    rcases Runs.getElem?_concat_eq_some_iff.1 hr with hr | ⟨rfl, hmr⟩ <;>
      rcases Runs.getElem?_concat_eq_some_iff.1 hs with hs | ⟨rfl, hms⟩
    · rw [hold (hk.lt_of_made hr)] at hrf
      rw [hold (hk.lt_of_made hs)] at hsf
      exact hk.apart hr hs hrf hsf
    · obtain rfl := Option.some.inj (hnew.symm.trans hsf)
      exact (hother hr hms hrf).elim
    · obtain rfl := Option.some.inj (hnew.symm.trans hrf)
      exact (hother hs hmr hsf).elim
    · rfl

/-- Whether flags are set makes no difference. -/
theorem cancel (hk : Kin made p) : Kin made (p.cancel c) := by
  refine ⟨?_, fun {d f} => ?_, fun {d e} => ?_, fun {r s f} => ?_⟩
  · rw [copies_cancel]
    exact hk.length
  · rw [copies_cancel, length_flags_cancel]
    exact hk.valid
  · rw [copies_cancel]
    exact hk.shared
  · rw [copies_cancel]
    exact hk.apart

end Kin

/-- How flags and copies stand after some moves. -/
structure Inv (moves : List Move) (p : FlagPool) : Prop where
  kin : Kin (makers moves) p
  aimed : ∀ {c : Nat}, .cancel c ∈ moves → c < p.copies.length
  /-- A flag is set if a copy of it was used to do so. -/
  set : ∀ f, p.flags.getD f false ↔ ∃ c, .cancel c ∈ moves ∧ p.copies[c]? = some f

namespace Inv

theorem empty : Inv [] FlagPool.empty where
  kin := .empty
  aimed h := nomatch h
  set f := by simp [FlagPool.empty]

/-- One more copy is made, and no flag is set. -/
theorem make (hi : Inv moves p) {m : Move} (hm : ∀ c, .cancel c ≠ m)
    (hkin : Kin (makers moves ++ [m]) q) (hcopies : q.copies = p.copies ++ [f])
    (hflags : ∀ g, q.flags.getD g false = p.flags.getD g false) : Inv (moves ++ [m]) q := by
  have hmem {c : Nat} : .cancel c ∈ moves ++ [m] ↔ .cancel c ∈ moves := by
    rw [List.mem_append, List.mem_singleton]
    exact or_iff_left (hm c)
  refine ⟨makers_concat hm ▸ hkin, fun {c} hc => ?_, fun g => ?_⟩
  · rw [hcopies, List.length_append]
    exact Nat.lt_add_right _ (hi.aimed (hmem.1 hc))
  · rw [hflags, hi.set]
    refine exists_congr fun c => ?_
    rw [hmem, hcopies]
    refine and_congr_right fun hc => ?_
    rw [List.getElem?_append_left (hi.aimed hc)]

theorem fresh (hi : Inv moves p) : Inv (moves ++ [.fresh]) p.fresh := by
  have hkin : Kin (makers moves ++ [.fresh]) p.fresh :=
    hi.kin.make rfl (by simp [FlagPool.fresh]) (by simp [FlagPool.fresh])
      (fun _ => Nat.le_refl _) (by simp)
  exact hi.make (by simp) hkin rfl (getD_fresh p)

theorem share (hi : Inv moves p) (hc : c < p.copies.length) :
    Inv (moves ++ [.share c]) (p.share c) := by
  have hf := List.getElem?_eq_getElem hc
  have hcopies : (p.share c).copies = p.copies ++ [p.copies[c]] := by rw [FlagPool.share, hf]
  have hkin : Kin (makers moves ++ [.share c]) (p.share c) :=
    hi.kin.make hcopies (Nat.le_of_eq (congrArg _ flags_share.symm))
      (by rw [flags_share]; exact hi.kin.valid hf) (by simp) fun d hd => Move.share.inj hd ▸ hf
  exact hi.make (by simp) hkin hcopies fun g => by rw [flags_share]

theorem cancel (hi : Inv moves p) (hc : c < p.copies.length) :
    Inv (moves ++ [.cancel c]) (p.cancel c) := by
  have hf := List.getElem?_eq_getElem hc
  have hmem {d : Nat} : .cancel d ∈ moves ++ [.cancel c] ↔ .cancel d ∈ moves ∨ d = c := by simp
  refine ⟨?_, fun {d} hd => ?_, fun g => ?_⟩
  · rw [makers_concat_cancel]
    exact hi.kin.cancel
  · rw [copies_cancel]
    rcases hmem.1 hd with hd | rfl
    · exact hi.aimed hd
    · exact hc
  · simp only [hmem, copies_cancel]
    by_cases hg : p.copies[c] = g
    · subst hg
      rw [getD_cancel_self hf (hi.kin.valid hf)]
      exact iff_of_true rfl ⟨c, .inr rfl, hf⟩
    · rw [getD_cancel_of_ne hf hg, hi.set]
      refine exists_congr fun d => and_congr_left fun hd => ?_
      refine (or_iff_left ?_).symm
      rintro rfl
      exact hg (Option.some.inj (hf.symm.trans hd))

theorem step {m : Move} (hi : Inv moves p) (h : p.step m = some q) : Inv (moves ++ [m]) q := by
  cases m with
  | fresh => exact Option.some.inj h ▸ hi.fresh
  | share c =>
    obtain ⟨hc, hq⟩ := Option.ite_none_right_eq_some.1 h
    exact Option.some.inj hq ▸ hi.share hc
  | cancel c =>
    obtain ⟨hc, hq⟩ := Option.ite_none_right_eq_some.1 h
    exact Option.some.inj hq ▸ hi.cancel hc

theorem run (hi : Inv moves p) (h : p.run later = some q) : Inv (moves ++ later) q := by
  induction later generalizing moves p with
  | nil =>
    rw [List.append_nil]
    exact Option.some.inj h ▸ hi
  | cons m later ih =>
    obtain ⟨p', hm, h⟩ := Runs.run_cons_eq_some_iff.1 h
    rw [List.append_cons]
    exact ih (hi.step hm) h

end Inv

theorem run_inv (h : empty.run moves = some p) : Inv moves p := Inv.empty.run h

namespace Inv

/-- What descends from a copy is of the same flag. -/
theorem copies_of_founds (hi : Inv moves p) (h : Founds moves r c) :
    p.copies[r]? = some f → p.copies[c]? = some f := by
  induction h with
  | self => exact id
  | share _ hd ih => exact fun hr => (hi.kin.shared hd).2 (ih hr)

/-- Every copy descends from one that was made with a flag. -/
theorem exists_founds (hi : Inv moves p) (hc : c < (makers moves).length) :
    ∃ r, Founds moves r c := by
  induction c using Nat.strongRecOn with
  | ind c ih =>
    have hmade := List.getElem?_eq_getElem hc
    have hmem : (makers moves)[c] ∈ makers moves := List.getElem_mem hc
    generalize (makers moves)[c] = m at hmade hmem
    cases m with
    | fresh => exact ⟨c, .self hmade⟩
    | share d =>
      have hd := (hi.kin.shared hmade).1
      obtain ⟨r, hr⟩ := ih d hd (Nat.lt_trans hd hc)
      exact ⟨r, hr.share hmade⟩
    | cancel d => exact absurd hmem (by simp [makers])

/-- A copy is of the flag that the first of its family was made with. -/
theorem exists_copies (hi : Inv moves p) (h : Founds moves r c) :
    ∃ f, p.copies[r]? = some f ∧ p.copies[c]? = some f := by
  have hr := List.getElem?_eq_getElem (hi.kin.lt_of_made h.fresh)
  exact ⟨_, hr, hi.copies_of_founds h hr⟩

/-- A copy descends from one only. -/
theorem founds_unique (hi : Inv moves p) (hr : Founds moves r c) (hs : Founds moves s c) :
    r = s := by
  obtain ⟨f, hrf, hcf⟩ := hi.exists_copies hr
  obtain ⟨g, hsg, hcg⟩ := hi.exists_copies hs
  obtain rfl := Option.some.inj (hcf.symm.trans hcg)
  exact hi.kin.apart hr.fresh hs.fresh hrf hsg

/-- Two copies are related if and only if they are of one flag. -/
theorem related_iff (hi : Inv moves p) :
    Related moves c d ↔ ∃ f, p.copies[c]? = some f ∧ p.copies[d]? = some f := by
  constructor
  · rintro ⟨r, hc, hd⟩
    obtain ⟨f, hrf, hcf⟩ := hi.exists_copies hc
    exact ⟨f, hcf, hi.copies_of_founds hd hrf⟩
  · rintro ⟨f, hcf, hdf⟩
    obtain ⟨r, hr⟩ := hi.exists_founds (hi.kin.length ▸ (List.getElem?_eq_some_iff.1 hcf).1)
    obtain ⟨s, hs⟩ := hi.exists_founds (hi.kin.length ▸ (List.getElem?_eq_some_iff.1 hdf).1)
    obtain ⟨g, hrg, hcg⟩ := hi.exists_copies hr
    obtain ⟨k, hsk, hdk⟩ := hi.exists_copies hs
    obtain rfl := Option.some.inj (hcf.symm.trans hcg)
    obtain rfl := Option.some.inj (hdf.symm.trans hdk)
    obtain rfl := hi.kin.apart hr.fresh hs.fresh hrg hsk
    exact ⟨r, hr, hs⟩

/-- A copy says that its flag is set if one of its family was used to do so. -/
theorem isCancelled_iff (hi : Inv moves p) :
    p.isCancelled c ↔ ∃ d, .cancel d ∈ moves ∧ Related moves c d := by
  simp only [hi.related_iff]
  cases hc : p.copies[c]? with
  | none => simp [isCancelled, hc]
  | some f =>
    rw [isCancelled_of_copies hc, hi.set]
    simp

end Inv

/-! ## Who sees what -/

/-- Whatever flags and copies are made and whichever of them are set, in whatever order,
    every copy descends from one first copy; it says that its flag is set if and only if
    a copy of its family was used to set it before; to use a copy of another family makes
    no difference to it; and once it says so, it goes on to say so. -/
theorem cancels_family (h : empty.run moves = some p) :
    (∀ c, c < (makers moves).length → ∃! r, Founds moves r c) ∧
    (∀ c, p.isCancelled c ↔ ∃ d, .cancel d ∈ moves ∧ Related moves c d) ∧
    (∀ c d q, ¬Related moves c d → p.step (.cancel d) = some q →
      q.isCancelled c = p.isCancelled c) ∧
    ∀ later q c, p.run later = some q → p.isCancelled c → q.isCancelled c := by
  have hi := run_inv h
  refine ⟨fun c hc => ?_, fun c => hi.isCancelled_iff, fun c d q hother hq => ?_,
    fun later q c hq hc => ?_⟩
  · obtain ⟨r, hr⟩ := hi.exists_founds hc
    exact ⟨r, hr, fun s hs => hi.founds_unique hs hr⟩
  · obtain ⟨hd, hq⟩ := Option.ite_none_right_eq_some.1 hq
    obtain rfl := Option.some.inj hq
    have hg := List.getElem?_eq_getElem hd
    cases hc : p.copies[c]? with
    | none => rw [isCancelled, isCancelled, copies_cancel, hc]
    | some f =>
      rw [isCancelled_of_copies hc, isCancelled_of_copies (copies_cancel ▸ hc)]
      refine getD_cancel_of_ne hg fun heq => hother (hi.related_iff.2 ⟨f, hc, ?_⟩)
      rw [hg, heq]
  · obtain ⟨d, hd, hrelated⟩ := hi.isCancelled_iff.1 hc
    exact (hi.run hq).isCancelled_iff.2 ⟨d, List.mem_append_left later hd, hrelated.append later⟩

/-- Two flags. The first is set through its second copy, and copies of it are made before
    that and afterwards. -/
def mixed : List Move :=
  [.fresh, .share 0, .fresh, .cancel 1, .share 0, .share 3, .share 2]

/-- Copy 4 was made late and says that its flag is set. Copy 5 is of the other flag, and to
    set the first once more makes no difference to it. -/
theorem cancels_family_of_mixed : ∃ p, empty.run mixed = some p ∧ p.isCancelled 4 ∧
    ¬Related mixed 5 4 ∧ ∀ q, p.step (.cancel 4) = some q → q.isCancelled 5 = false := by
  obtain ⟨hfounder, hcancelled, hspared, -⟩ := @cancels_family _ mixed rfl
  have hfirst : Founds mixed 0 0 := .self rfl
  have hthird : Founds mixed 0 3 := hfirst.share rfl
  have hfourth : Founds mixed 0 4 := hthird.share rfl
  have hother : ¬Related mixed 5 4 := by
    rintro ⟨r, hlast, hr⟩
    obtain rfl : r = 2 := (hfounder 5 (by decide)).unique hlast (.share (.self rfl) rfl)
    exact absurd ((hfounder 4 (by decide)).unique hr hfourth) (by decide)
  exact ⟨_, rfl, (hcancelled 4).2 ⟨1, by decide, 0, hfourth, hfirst.share rfl⟩, hother,
    fun q hq => (hspared 5 4 q hother hq).trans (by decide)⟩

end FlagPool

namespace Engine

variable {x y : Engine} {i : Interpreter} {epoch : Nat}

/-! ## The flags of all that goes on -/

/-- For what begins, a flag is made and a copy of it; a run that is given up sets its
    flag; all else leaves the flags alone. -/
theorem flags_step {m : Move} (hi : Inv x) (h : x.step m = some y) :
    ∃ done, x.flags.run done = some y.flags := by
  rcases step_cases h with ⟨a, rfl, -⟩ | ⟨n, u, m, hu, h⟩
  · have hfresh : x.flags.copies.length < x.flags.fresh.copies.length := by simp [FlagPool.fresh]
    refine ⟨[.fresh, .share x.flags.copies.length], Runs.run_cons_eq_some_iff.2 ⟨_, rfl, ?_⟩⟩
    exact Runs.run_cons_eq_some_iff.2 ⟨_, if_pos hfresh, rfl⟩
  · rcases proceed_cases h with ⟨_, _, _, m, _, -, -, rfl⟩ | ⟨_, _, _, -, rfl, -⟩
    · by_cases hm : m = .cancel
      · have hheld := (List.getElem?_eq_some_iff.1 (hi.owns hu).held).1
        refine ⟨[.cancel u.held], Runs.run_cons_eq_some_iff.2 ⟨_, if_pos hheld, ?_⟩⟩
        exact congrArg some (if_pos hm).symm
      · exact ⟨[], congrArg some (if_neg hm).symm⟩
    · exact ⟨[], rfl⟩

theorem exists_flags_run {moves : List Move} (h : (start i epoch).run moves = some x) :
    ∃ done, FlagPool.empty.run done = some x.flags := by
  refine (run_induction (P := fun x => Inv x ∧ ∃ done, FlagPool.empty.run done = some x.flags)
    (fun {x m y} hx hm => ?_) h ⟨.start i epoch, [], rfl⟩).2
  obtain ⟨hi, done, hdone⟩ := hx
  obtain ⟨later, hlater⟩ := flags_step hi hm
  exact ⟨hi.step hm, done ++ later, (Runs.run_append hdone later).trans hlater⟩

/-- What an evaluation reads is of the family of what whoever waits for it holds, and is of
    no family of another's. -/
theorem own_family {moves : List Move} (h : (start i epoch).run moves = some x) :
    ∃ done, FlagPool.empty.run done = some x.flags ∧
      ∀ {n k : Nat} {u v : Use}, x.uses[n]? = some u → x.uses[k]? = some v →
        (FlagPool.Related done u.held v.lent ↔ n = k) := by
  obtain ⟨done, hdone⟩ := exists_flags_run h
  have hi := (run_inv h).1
  refine ⟨done, hdone, fun {n k u v} hu hv => ?_⟩
  rw [(FlagPool.run_inv hdone).related_iff, (hi.owns hu).held, (hi.owns hv).lent]
  simp [eq_comm]

end Engine

end Playpen
