import Mathlib.Logic.Relation
import Mathlib.Tactic.Common
import Playpen.Exception

/-!
# Which category an exception is of

Of all the names that come with an exception only one counts: the first that is the
name of a category (`Category.ofNames_eq_iff`). Names of no category may come and go
and stand anywhere, and nothing behind the first that counts makes a difference; and
that is all that can be changed without changing the category
(`Category.ofNames_eq_ofNames_iff`). What is shown tells whether the class itself has
a category, has it from an ancestor, or has none (`Exception.classifies`).
-/

namespace Playpen

namespace Category

variable {k : Category} {name : String} {names names' : List String}

/-- A category is named after a class of that name. -/
def IsKnown (name : String) : Prop := ∃ k : Category, k.className? = some name

theorem className?_of_ofClassName? (h : ofClassName? name = some k) :
    k.className? = some name := by
  unfold ofClassName? at h
  split at h <;> cases h <;> rfl

/-- A class is of the category that is named after it, and no other is of any. -/
theorem ofClassName?_eq_some_iff : ofClassName? name = some k ↔ k.className? = some name :=
  ⟨className?_of_ofClassName?, ofClassName?_className?⟩

theorem isSome_ofClassName?_iff : (ofClassName? name).isSome ↔ IsKnown name := by
  rw [Option.isSome_iff_exists]
  exact exists_congr fun _ => ofClassName?_eq_some_iff

instance (name : String) : Decidable (IsKnown name) :=
  decidable_of_iff _ isSome_ofClassName?_iff

theorem ofClassName?_eq_none_iff : ofClassName? name = none ↔ ¬IsKnown name := by
  rw [← isSome_ofClassName?_iff, Option.not_isSome_iff_eq_none]

/-! ## The first name that counts -/

/-- The first of the names after which a category is named is that of `k`. -/
inductive First (k : Category) : List String → Prop
  | intro (before : List String) {name : String} (after : List String) :
      (∀ other ∈ before, ¬IsKnown other) → k.className? = some name →
        First k (before ++ name :: after)

theorem ofNames_cons_of_known (h : k.className? = some name) : ofNames (name :: names) = k := by
  rw [ofNames, List.findSome?_cons, ofClassName?_className? h]
  rfl

theorem ofNames_cons_of_not_known (h : ¬IsKnown name) :
    ofNames (name :: names) = ofNames names := by
  rw [ofNames, List.findSome?_cons, ofClassName?_eq_none_iff.2 h]
  rfl

/-- Names that do not count may be left out. -/
theorem ofNames_filter : ofNames (names.filter (IsKnown ·)) = ofNames names := by
  induction names with
  | nil => rfl
  | cons name names ih =>
    by_cases h : IsKnown name
    · rw [List.filter_cons_of_pos (by simpa using h)]
      obtain ⟨k, hk⟩ := h
      rw [ofNames_cons_of_known hk, ofNames_cons_of_known hk]
    · rw [List.filter_cons_of_neg (by simpa using h), ofNames_cons_of_not_known h, ih]

theorem ofNames_append (h : ∀ name ∈ names, ¬IsKnown name) (names' : List String) :
    ofNames (names ++ names') = ofNames names' := by
  rw [← ofNames_filter, List.filter_append, List.filter_eq_nil_iff.2 (by simpa using h),
    List.nil_append, ofNames_filter]

/-- A name counts, or none does. -/
theorem first_or_not_known (names : List String) :
    (∃ k, First k names) ∨ ∀ name ∈ names, ¬IsKnown name := by
  induction names with
  | nil => exact .inr nofun
  | cons name names ih =>
    by_cases h : IsKnown name
    · obtain ⟨k, hk⟩ := h
      exact .inl ⟨k, .intro [] names nofun hk⟩
    · refine ih.imp ?_ fun hnone => List.forall_mem_cons.2 ⟨h, hnone⟩
      rintro ⟨k, ⟨before, after, hbefore, hk⟩⟩
      exact ⟨k, .intro (name :: before) after (List.forall_mem_cons.2 ⟨h, hbefore⟩) hk⟩

theorem First.ofNames_eq (h : First k names) : ofNames names = k := by
  obtain ⟨before, after, hbefore, hk⟩ := h
  rw [ofNames_append hbefore, ofNames_cons_of_known hk]

theorem First.ne_unknown (h : First k names) : k ≠ .unknown := by
  rintro rfl
  obtain ⟨before, after, -, hk⟩ := h
  exact nomatch hk

theorem ofNames_eq_unknown (h : ∀ name ∈ names, ¬IsKnown name) : ofNames names = .unknown := by
  rw [← ofNames_filter, List.filter_eq_nil_iff.2 (by simpa using h)]
  rfl

/-- The category is that of the first name that counts, and there is none if no name
    does. -/
theorem ofNames_eq_iff :
    ofNames names = k ↔ First k names ∨ k = .unknown ∧ ∀ name ∈ names, ¬IsKnown name := by
  constructor
  · rintro rfl
    refine (first_or_not_known names).imp ?_ fun h => ⟨ofNames_eq_unknown h, h⟩
    rintro ⟨k, hk⟩
    rwa [hk.ofNames_eq]
  · rintro (h | ⟨rfl, h⟩)
    · exact h.ofNames_eq
    · exact ofNames_eq_unknown h

/-! ## What makes no difference -/

/-- A change of the names that leaves the category alone. -/
inductive Edit : List String → List String → Prop
  /-- A name that does not count is put in. -/
  | insert {name : String} (before after : List String) : ¬IsKnown name →
      Edit (before ++ after) (before ++ name :: after)
  /-- A name that does not count is left out. -/
  | drop {name : String} (before after : List String) : ¬IsKnown name →
      Edit (before ++ name :: after) (before ++ after)
  /-- Names are put in another order, but those that count keep theirs. -/
  | reorder {names names' : List String} : names.Perm names' →
      names.filter (IsKnown ·) = names'.filter (IsKnown ·) → Edit names names'
  /-- What follows a name that counts becomes something else. -/
  | replace {name : String} (before after after' : List String) : IsKnown name →
      Edit (before ++ name :: after) (before ++ name :: after')

/-- Changes one after another. -/
def Edits : List String → List String → Prop := Relation.ReflTransGen Edit

theorem ofNames_append_congr (h : ofNames names = ofNames names') (before : List String) :
    ofNames (before ++ names) = ofNames (before ++ names') := by
  -- A name in front either decides for both or is passed over in both.
  induction before with
  | nil => exact h
  | cons name before ih =>
    by_cases hname : IsKnown name
    · obtain ⟨k, hk⟩ := hname
      rw [List.cons_append, List.cons_append, ofNames_cons_of_known hk, ofNames_cons_of_known hk]
    · rw [List.cons_append, List.cons_append, ofNames_cons_of_not_known hname,
        ofNames_cons_of_not_known hname, ih]

theorem Edit.ofNames_eq (h : Edit names names') : ofNames names = ofNames names' := by
  cases h with
  | insert before after h =>
    exact ofNames_append_congr (ofNames_cons_of_not_known h).symm before
  | drop before after h => exact ofNames_append_congr (ofNames_cons_of_not_known h) before
  | reorder _ hfilter => rw [← ofNames_filter, hfilter, ofNames_filter]
  | replace before after after' h =>
    obtain ⟨k, hk⟩ := h
    refine ofNames_append_congr ?_ before
    rw [ofNames_cons_of_known hk, ofNames_cons_of_known hk]

/-- All names can be left out but the one that counts, and put in again. -/
theorem edits_className (names : List String) :
    Edits names (ofNames names).className?.toList ∧
      Edits (ofNames names).className?.toList names := by
  -- What does not count goes name by name, and what follows the first that counts at once.
  induction names with
  | nil => exact ⟨.refl, .refl⟩
  | cons name names ih =>
    by_cases h : IsKnown name
    · obtain ⟨k, hk⟩ := h
      rw [ofNames_cons_of_known hk, hk]
      exact ⟨.single (.replace [] names [] ⟨k, hk⟩), .single (.replace [] [] names ⟨k, hk⟩)⟩
    · rw [ofNames_cons_of_not_known h]
      exact ⟨.head (.drop [] names h) ih.1, .tail ih.2 (.insert [] names h)⟩

/-- Names are of the same category exactly if one can be changed into the other
    without making a difference. -/
theorem ofNames_eq_ofNames_iff : ofNames names = ofNames names' ↔ Edits names names' := by
  constructor
  · intro h
    have hfrom := (edits_className names).1
    rw [h] at hfrom
    exact hfrom.trans (edits_className names').2
  · intro h
    induction h with
    | refl => rfl
    | tail _ hedit ih => exact ih.trans hedit.ofNames_eq

end Category

namespace Exception

open Category

variable {e : Exception} {label className message : String} {ancestors backtrace : List String}

/-! ## What is shown -/

theorem label?_eq_none_iff {k : Category} : k.label? = none ↔ k = .unknown := by
  cases k <;> decide

theorem classified_of_own (hlabel : e.category.label? = some label)
    (hown : e.category.className? = some e.className) :
    e.classified = label ++ ": " ++ e.message := by
  rw [classified, hlabel]
  exact if_pos hown

theorem classified_of_inherited (hlabel : e.category.label? = some label)
    (hown : e.category.className? ≠ some e.className) :
    e.classified = label ++ " (" ++ e.className ++ "): " ++ e.message := by
  rw [classified, hlabel]
  exact if_neg hown

theorem classified_of_unknown (h : e.category.label? = none) :
    e.classified = if e.className = "" then e.message else e.className ++ ": " ++ e.message := by
  rw [classified, h]

/-- A label alone is shorter than one with a class. -/
theorem label_ne_inherited (label className message : String) :
    label ++ ": " ++ message ≠ label ++ " (" ++ className ++ "): " ++ message := by
  intro h
  have hlength := congrArg String.length h
  have hopen : " (".length = 2 := rfl
  have hclose : "): ".length = 3 := rfl
  have hcolon : ": ".length = 2 := rfl
  simp only [String.length_append, hopen, hclose, hcolon] at hlength
  omega

/-- The calls follow the classified message, each on a line of its own. -/
theorem describe_eq (e : Exception) :
    e.describe = "\n  ".intercalate (e.classified :: e.backtrace.take 5) := by
  rw [describe, shownCalls]
  -- The fold starts from all that is shown so far, not from the classified message alone.
  generalize e.classified = text
  induction e.backtrace.take 5 generalizing text with
  | nil => rw [List.foldl_nil, String.intercalate_singleton]
  | cons call calls ih =>
    rw [List.foldl_cons, ih, String.intercalate_cons_cons, String.intercalate_cons_append]

/-! ## What is reported -/

/-- What is shown of the exception that was reported so tells where its category is from,
    its message as it was given, and no more of its calls than the first five. -/
structure Tells (className : String) (ancestors : List String) (message : String)
    (backtrace : List String) : Prop where
  own : (∃ label, (ofReport className ancestors message backtrace).category.label? = some label ∧
      (ofReport className ancestors message backtrace).classified = label ++ ": " ++ message) ↔
    IsKnown className
  inherited : (∃ label,
      (ofReport className ancestors message backtrace).category.label? = some label ∧
      (ofReport className ancestors message backtrace).classified =
        label ++ " (" ++ className ++ "): " ++ message) ↔
    ¬IsKnown className ∧ ∃ name ∈ ancestors, IsKnown name
  unknown : ((ofReport className ancestors message backtrace).category.label? = none ∧
      (ofReport className ancestors message backtrace).classified =
        if className = "" then message else className ++ ": " ++ message) ↔
    ∀ name ∈ className :: ancestors, ¬IsKnown name
  calls : (ofReport className ancestors message backtrace).describe = "\n  ".intercalate
    ((ofReport className ancestors message backtrace).classified :: backtrace.take 5)

theorem className?_ofReport_iff :
    (ofReport className ancestors message backtrace).category.className? = some className ↔
      IsKnown className := by
  constructor
  · exact fun h => ⟨_, h⟩
  · rintro ⟨k, hk⟩
    rw [ofReport, ofNames_cons_of_known hk, hk]

theorem label?_ofReport_eq_none_iff :
    (ofReport className ancestors message backtrace).category.label? = none ↔
      ∀ name ∈ className :: ancestors, ¬IsKnown name := by
  rw [label?_eq_none_iff, ofReport, ofNames_eq_iff]
  refine ⟨fun h => ?_, fun h => .inr ⟨rfl, h⟩⟩
  rcases h with hfirst | ⟨-, hnone⟩
  · exact absurd rfl hfirst.ne_unknown
  · exact hnone

theorem exists_label_ofReport_iff :
    (∃ label, (ofReport className ancestors message backtrace).category.label? = some label) ↔
      IsKnown className ∨ ∃ name ∈ ancestors, IsKnown name := by
  rw [← Option.ne_none_iff_exists', Ne, label?_ofReport_eq_none_iff, List.forall_mem_cons,
    not_and_or, not_not]
  simp only [not_forall, not_not, exists_prop]

theorem tells_ofReport (className : String) (ancestors : List String) (message : String)
    (backtrace : List String) :
    Tells className ancestors message backtrace where
  own := by
    constructor
    · rintro ⟨label, hlabel, hshown⟩
      by_contra h
      have hinherited := classified_of_inherited hlabel (className?_ofReport_iff.not.2 h)
      exact label_ne_inherited _ _ _ (hshown.symm.trans hinherited)
    · intro h
      obtain ⟨label, hlabel⟩ := exists_label_ofReport_iff.2 (.inl h)
      exact ⟨label, hlabel, classified_of_own hlabel (className?_ofReport_iff.2 h)⟩
  inherited := by
    constructor
    · rintro ⟨label, hlabel, hshown⟩
      have hnot : ¬IsKnown className := by
        intro h
        have hown := classified_of_own hlabel (className?_ofReport_iff.2 h)
        exact label_ne_inherited _ _ _ (hown.symm.trans hshown)
      exact ⟨hnot, (exists_label_ofReport_iff.1 ⟨label, hlabel⟩).resolve_left hnot⟩
    · rintro ⟨hnot, h⟩
      obtain ⟨label, hlabel⟩ := exists_label_ofReport_iff.2 (.inr h)
      exact ⟨label, hlabel, classified_of_inherited hlabel (className?_ofReport_iff.not.2 hnot)⟩
  unknown := by
    rw [← label?_ofReport_eq_none_iff]
    exact ⟨And.left, fun h => ⟨h, classified_of_unknown h⟩⟩
  calls := describe_eq _

/-- The message follows something that does not depend on it. -/
theorem exists_lead (className : String) (ancestors : List String) : ∃ lead : String,
    ∀ message backtrace,
      (ofReport className ancestors message backtrace).classified = lead ++ message := by
  cases hlabel : (ofNames (className :: ancestors)).label? with
  | none =>
    refine ⟨if className = "" then "" else className ++ ": ", fun message backtrace => ?_⟩
    rw [classified_of_unknown hlabel, ofReport]
    split
    · rw [String.empty_append]
    · rfl
  | some label =>
    by_cases hown : (ofNames (className :: ancestors)).className? = some className
    · exact ⟨label ++ ": ", fun message backtrace => classified_of_own hlabel hown⟩
    · exact ⟨label ++ " (" ++ className ++ "): ",
        fun message backtrace => classified_of_inherited hlabel hown⟩

/-- What category the exceptions of a class with these ancestors are of, and what is shown
    of them. -/
structure Classifies (className : String) (ancestors : List String) : Prop where
  category_eq_iff (message : String) (backtrace : List String) (k : Category) :
    (ofReport className ancestors message backtrace).category = k ↔
      First k (className :: ancestors) ∨
        k = .unknown ∧ ∀ name ∈ className :: ancestors, ¬IsKnown name
  category_of_own {k : Category} : k.className? = some className → ∀ message backtrace,
    (ofReport className ancestors message backtrace).category = k
  same_category_iff (className' : String) (ancestors' : List String) (message message' : String)
      (backtrace backtrace' : List String) :
    (ofReport className ancestors message backtrace).category =
        (ofReport className' ancestors' message' backtrace').category ↔
      Edits (className :: ancestors) (className' :: ancestors')
  /-- The message is shown as it is. -/
  lead : ∃ lead : String, ∀ message backtrace,
    (ofReport className ancestors message backtrace).classified = lead ++ message
  tells (message : String) (backtrace : List String) : Tells className ancestors message backtrace

/-- An exception is of the category of the first of its class and the ancestors of that
    after which one is named, and of none if there is no such name; so its class counts
    before them all. Two exceptions are of the same category exactly if the names of one
    can be changed into those of the other where it makes no difference, whatever else
    they come with. The label of the category stands alone before the message exactly
    if the class has a category itself, and with the class exactly if it has one only
    from an ancestor. Without a category the class stands there, if it has a name. The
    message is shown as it is, and then the first five calls on lines of their own. -/
theorem classifies (className : String) (ancestors : List String) :
    Classifies className ancestors where
  category_eq_iff _ _ _ := ofNames_eq_iff
  category_of_own hk _ _ := ofNames_cons_of_known hk
  same_category_iff _ _ _ _ _ _ := ofNames_eq_ofNames_iff
  lead := exists_lead className ancestors
  tells := tells_ofReport className ancestors

/-- A class after which a category is named is of that category, whatever is said to be
    its ancestors, and so is a class that only has it for an ancestor. -/
theorem classifies_of_odd_ancestors :
    Category.noMethodError.className? = some "NoMethodError" ∧
    (ofReport "NoMethodError" ["TypeError", "NameError"] "m" []).category = .noMethodError ∧
    (ofReport "NoMethodError" ["TypeError", "NameError"] "m" []).category =
      (ofReport "" ["Kernel", "NoMethodError", "RuntimeError"] "n" ["<code>:1"]).category := by
  have hedits : Edits ["NoMethodError", "TypeError", "NameError"]
      ["", "Kernel", "NoMethodError", "RuntimeError"] :=
    .trans (.single (.replace [] _ ["RuntimeError"] ⟨.noMethodError, rfl⟩)) <|
    .trans (.single (.insert [] _ (by decide))) <|
    .single (.insert [] _ (by decide))
  have h := classifies "NoMethodError" ["TypeError", "NameError"]
  exact ⟨rfl, h.category_of_own rfl "m" [], (h.same_category_iff ..).2 hedits⟩

/-- What is shown of an exception without a class is its message. -/
example : (ofReport "" ["Kernel"] "gone: \n" []).describe = "gone: \n" := by decide

end Exception

end Playpen
