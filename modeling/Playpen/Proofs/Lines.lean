import Mathlib.Data.List.TakeWhile
import Mathlib.Tactic.Common
import Playpen.Diagnostics

/-!
# Pieces of texts

What was joined is split again, provided the separator is in none of the pieces
(`split_join`), and likewise for lines (`lines_join`). What is split is joined of
just these pieces (`split_eq_cons_iff`). A text that is empty or ends with a
newline, with one more line behind it, is divided again into the two
(`splitClosing_line`).
-/

namespace Playpen.Text

/-! ## Splitting what was joined -/

section

variable {α : Type} [DecidableEq α] {sep : α}

theorem split_eq_singleton {piece : List α} (h : sep ∉ piece) : split sep piece = [piece] := by
  induction piece with
  | nil => rfl
  | cons a l ih =>
    rw [List.mem_cons, not_or] at h
    rw [split, if_neg (Ne.symm h.1), ih h.2]

/-- What stands on the two sides of a separator is split apart. -/
theorem split_append_sep (l r : List α) :
    split sep (l ++ sep :: r) = split sep l ++ split sep r := by
  induction l with
  | nil =>
    have hsep : split sep (sep :: r) = [] :: split sep r := by rw [split, if_pos rfl]
    exact hsep
  | cons a l ih =>
    rw [List.cons_append, split, split, ih]
    split
    · rfl
    · obtain ⟨piece, pieces, hl⟩ := List.exists_cons_of_ne_nil (split_ne_nil sep l)
      rw [hl]
      rfl

/-- A piece ends where the separator stands for the first time. -/
theorem split_append_cons {piece : List α} (h : sep ∉ piece) (l : List α) :
    split sep (piece ++ sep :: l) = piece :: split sep l := by
  rw [split_append_sep, split_eq_singleton h, List.singleton_append]

/-- Pieces with the separator before each but the first are split again. -/
theorem split_append_flatMap {piece : List α} {pieces : List (List α)} (h : sep ∉ piece)
    (hs : ∀ p ∈ pieces, sep ∉ p) :
    split sep (piece ++ pieces.flatMap (sep :: ·)) = piece :: pieces := by
  induction pieces generalizing piece with
  | nil => rw [List.flatMap_nil, List.append_nil, split_eq_singleton h]
  | cons q qs ih =>
    rw [List.forall_mem_cons] at hs
    rw [List.flatMap_cons, List.cons_append, split_append_cons h, ih hs.1 hs.2]

/-- Pieces with the separator behind each of them are split again, and nothing is left
    behind the last separator. -/
theorem split_flatMap_append {pieces : List (List α)} (h : ∀ piece ∈ pieces, sep ∉ piece) :
    split sep (pieces.flatMap (· ++ [sep])) = pieces ++ [[]] := by
  induction pieces with
  | nil => rfl
  | cons piece pieces ih =>
    rw [List.forall_mem_cons] at h
    rw [List.flatMap_cons, List.append_assoc, List.singleton_append, split_append_cons h.1, ih h.2,
      List.cons_append]

omit [DecidableEq α] in
theorem join_cons (sep : α) (piece : List α) (pieces : List (List α)) :
    join sep (piece :: pieces) = piece ++ pieces.flatMap (sep :: ·) := by
  induction pieces generalizing piece with
  | nil => rw [join, List.flatMap_nil, List.append_nil]
  | cons q qs ih =>
    rw [join, ih, List.flatMap_cons, List.cons_append]
    exact List.cons_ne_nil q qs

theorem split_join {pieces : List (List α)} (hne : pieces ≠ [])
    (h : ∀ piece ∈ pieces, sep ∉ piece) : split sep (join sep pieces) = pieces := by
  cases pieces with
  | nil => exact absurd rfl hne
  | cons piece pieces =>
    rw [List.forall_mem_cons] at h
    rw [join_cons, split_append_flatMap h.1 h.2]

theorem split_cons_of_ne {a : α} (h : a ≠ sep) (l : List α) :
    split sep (a :: l) = (a :: (split sep l).headD []) :: (split sep l).tail := by
  rw [split, if_neg h]
  cases hs : split sep l with
  | nil => exact absurd hs (split_ne_nil sep l)
  | cons piece pieces => rfl

theorem not_mem_of_mem_split {l : List α} : ∀ piece ∈ split sep l, sep ∉ piece := by
  induction l with
  | nil => exact fun piece h => List.mem_singleton.1 h ▸ List.not_mem_nil
  | cons a l ih =>
    by_cases ha : a = sep
    · rw [split, if_pos ha]
      exact List.forall_mem_cons.2 ⟨List.not_mem_nil, ih⟩
    · rw [split_cons_of_ne ha]
      cases hs : split sep l with
      | nil => exact absurd hs (split_ne_nil sep l)
      | cons piece pieces =>
        rw [hs, List.forall_mem_cons] at ih
        refine List.forall_mem_cons.2 ⟨fun h => ?_, ih.2⟩
        exact (List.mem_cons.1 h).elim (Ne.symm ha) ih.1

/-- The pieces are those without the separator that make up the list. -/
theorem split_eq_cons_iff {l piece : List α} {pieces : List (List α)} :
    split sep l = piece :: pieces ↔
      l = piece ++ pieces.flatMap (sep :: ·) ∧ ∀ p ∈ piece :: pieces, sep ∉ p := by
  constructor
  · intro h
    refine ⟨?_, h ▸ not_mem_of_mem_split⟩
    rw [← join_cons, ← h, join_split]
  · rintro ⟨rfl, hp⟩
    rw [List.forall_mem_cons] at hp
    exact split_append_flatMap hp.1 hp.2

/-- The first piece is all that stands before the first separator. -/
theorem headD_split (l : List α) : (split sep l).headD [] = l.takeWhile (· != sep) := by
  induction l with
  | nil => rfl
  | cons a l ih =>
    by_cases ha : a = sep
    · rw [split, if_pos ha, List.takeWhile_cons_of_neg (by simpa using ha)]
      rfl
    · rw [split_cons_of_ne ha, List.takeWhile_cons_of_pos (by simpa using ha), ← ih]
      rfl

/-- The others are the pieces of what follows the first separator. -/
theorem tail_split (l : List α) :
    (split sep l).tail = match l.dropWhile (· != sep) with
      | [] => []
      | _ :: rest => split sep rest := by
  induction l with
  | nil => rfl
  | cons a l ih =>
    by_cases ha : a = sep
    · rw [split, if_pos ha, List.dropWhile_cons_of_neg (by simpa using ha)]
      rfl
    · rw [split_cons_of_ne ha, List.dropWhile_cons_of_pos (by simpa using ha), ← ih]
      rfl

end

/-- The line is one of those that a text can consist of when its empty lines do
    not count. -/
def IsItem (line : List Char) : Prop := line ≠ [] ∧ '\n' ∉ line ∧ line.getLast? ≠ some '\r'

instance (line : List Char) : Decidable (IsItem line) :=
  inferInstanceAs (Decidable (line ≠ [] ∧ '\n' ∉ line ∧ line.getLast? ≠ some '\r'))

theorem dropReturn_of_isItem {line : List Char} (h : IsItem line) : dropReturn line = line :=
  if_neg h.2.2

/-- The lines of a text that was made of lines. -/
theorem lines_join {items : List (List Char)} (h : ∀ item ∈ items, IsItem item) :
    lines (join '\n' items) = items := by
  rcases List.eq_nil_or_concat items with rfl | ⟨init, last, rfl⟩
  · rfl
  · have hlast : IsItem last := h last (by simp)
    have hinit : init.map dropReturn = init :=
      (List.map_congr_left fun line hl => dropReturn_of_isItem (h line (by simp [hl]))).trans
        (List.map_id init)
    have hsplit := split_join (by simp) fun line hl => (h line hl).2.1
    rw [List.concat_eq_append] at hsplit ⊢
    rw [lines, hsplit, List.dropLast_concat, List.getLast?_concat, hinit]
    cases last with
    | nil => exact absurd rfl hlast.1
    | cons c cs => rfl

/-! ## Cutting off an end -/

section

variable {α : Type} {p : α → Bool}

/-- The list is empty or ends with `a`. -/
def EndsIn (a : α) (l : List α) : Prop := ∀ b ∈ l.getLast?, b = a

instance [DecidableEq α] (a : α) (l : List α) : Decidable (EndsIn a l) :=
  inferInstanceAs (Decidable (∀ b ∈ l.getLast?, b = a))

theorem endsIn_nil (a : α) : EndsIn a [] := fun _ h => nomatch h

theorem endsIn_concat {a b : α} {l : List α} : EndsIn a (l ++ [b]) ↔ b = a := by
  rw [EndsIn, List.getLast?_concat]
  exact ⟨fun h => h b rfl, fun h c hc => (Option.some.inj hc).symm.trans h⟩

/-- What is left ends with an element that the condition does not hold of. -/
theorem not_of_getLast?_dropEndWhile {l : List α} : ∀ a ∈ (dropEndWhile p l).getLast?, ¬p a := by
  intro a ha
  rw [dropEndWhile, List.getLast?_reverse] at ha
  have hnot := List.head?_dropWhile_not p l.reverse
  rw [Option.mem_def.1 ha] at hnot
  simp [hnot]

theorem of_mem_takeEndWhile {l : List α} {a : α} (h : a ∈ takeEndWhile p l) : p a :=
  List.mem_takeWhile_imp (List.mem_reverse.1 h)

theorem dropEndWhile_append {l r : List α} (h : ∀ a ∈ r, p a) :
    dropEndWhile p (l ++ r) = dropEndWhile p l := by
  rw [dropEndWhile, List.reverse_append, List.dropWhile_append_of_pos (by simpa using h),
    dropEndWhile]

theorem takeEndWhile_append {l r : List α} (h : ∀ a ∈ r, p a) :
    takeEndWhile p (l ++ r) = takeEndWhile p l ++ r := by
  rw [takeEndWhile, List.reverse_append, List.takeWhile_append_of_pos (by simpa using h),
    List.reverse_append, List.reverse_reverse, takeEndWhile]

/-- Nothing is cut off if the last element does not satisfy the condition. -/
theorem dropEndWhile_eq_self {l : List α} (h : ∀ a ∈ l.getLast?, ¬p a) : dropEndWhile p l = l := by
  rcases List.eq_nil_or_concat l with rfl | ⟨l, a, rfl⟩
  · rfl
  · rw [List.concat_eq_append, List.getLast?_concat] at h
    rw [List.concat_eq_append, dropEndWhile, List.reverse_concat,
      List.dropWhile_cons_of_neg (h a rfl), List.reverse_cons, List.reverse_reverse]

/-- All is cut off if all elements satisfy the condition. -/
theorem dropEndWhile_eq_nil_iff {l : List α} : dropEndWhile p l = [] ↔ ∀ a ∈ l, p a := by
  rw [dropEndWhile, List.reverse_eq_nil_iff, List.dropWhile_eq_nil_iff]
  exact forall_congr' fun a => by rw [List.mem_reverse]

theorem takeEndWhile_eq_nil {l : List α} (h : ∀ a ∈ l.getLast?, ¬p a) : takeEndWhile p l = [] := by
  have happend := dropEndWhile_append_takeEndWhile p l
  rwa [dropEndWhile_eq_self h, List.append_right_eq_self] at happend

end

/-- Nothing is left of a text exactly if it is blank. -/
theorem trim_eq_nil_iff {cs : List Char} : trim cs = [] ↔ isBlank cs := by
  rw [trim, dropEndWhile_eq_nil_iff, trimStart, isBlank, List.all_eq_true]
  refine ⟨fun h c hc => ?_, fun h c hc => h c (List.dropWhile_suffix _ |>.subset hc)⟩
  rw [← List.takeWhile_append_dropWhile (p := isSpace) (l := cs), List.mem_append] at hc
  exact hc.elim List.mem_takeWhile_imp (h c)

end Playpen.Text

namespace Playpen.Diagnostics

/-- A text and a closing report behind it: the text is empty or ends with a
    newline, the report is the rest of the line behind the marker, and nothing but
    line ends follows. -/
inductive Closed (text body : List Char) : List Char → Prop
  | intro {ends : List Char} (endsIn : Text.EndsIn '\n' text) (newline_not_mem : '\n' ∉ body)
      (not_return : body.getLast? ≠ some '\r') (isLineEnd : ∀ c ∈ ends, isLineEnd c) :
      Closed text body (text ++ (Report.marker ++ body) ++ ends)

/-- A line and the line ends behind it are divided from the text before it, and
    are a report if the line starts with the marker. -/
theorem splitClosing_of_closed {text body raw : List Char} (h : Closed text body raw) :
    splitClosing raw = (text, some body) := by
  obtain ⟨ht, hn, hr, hends⟩ := h
  have hmarker : '\n' ∉ Report.marker := by decide
  have hline : ∀ c ∈ Report.marker ++ body, (c != '\n') = true := by
    intro c hc
    rw [bne_iff_ne]
    rintro rfl
    exact (List.mem_append.1 hc).elim hmarker hn
  have hlast : ∀ c ∈ (text ++ (Report.marker ++ body)).getLast?, ¬isLineEnd c := by
    intro c hc
    rw [List.getLast?_append, List.getLast?_append,
      show Report.marker.getLast? = some ':' by decide] at hc
    cases hlast : body.getLast? with
    | none =>
      rw [hlast] at hc
      obtain rfl := Option.some.inj hc
      decide
    | some d =>
      rw [hlast] at hc
      obtain rfl := Option.some.inj hc
      rw [hlast, Ne, Option.some.injEq] at hr
      have hne : d ≠ '\n' := fun h => hn (h ▸ List.mem_of_getLast? hlast)
      simp [isLineEnd, hne, hr]
  have htext : ∀ c ∈ text.getLast?, ¬(c != '\n') = true := fun c hc => by simp [ht c hc]
  rw [splitClosing, Text.dropEndWhile_append hends, Text.dropEndWhile_eq_self hlast,
    Text.takeEndWhile_append hline, Text.takeEndWhile_eq_nil htext, List.nil_append,
    Text.after?_eq_some_iff.2 rfl, Text.dropEndWhile_append hline,
    Text.dropEndWhile_eq_self htext]

theorem splitClosing_line {text body : List Char} (ht : Text.EndsIn '\n' text) (hn : '\n' ∉ body)
    (hr : body.getLast? ≠ some '\r') :
    splitClosing (text ++ (Report.marker ++ body) ++ ['\n']) = (text, some body) :=
  splitClosing_of_closed ⟨ht, hn, hr, by simp [isLineEnd]⟩

/-- Either there is no report and all is text, or a text is closed by one. -/
theorem splitClosing_eq_or_closed (raw : List Char) :
    splitClosing raw = (raw, none) ∨ ∃ text body, Closed text body raw := by
  have hends := Text.dropEndWhile_append_takeEndWhile isLineEnd raw
  have hlast : ∀ c ∈ (Text.dropEndWhile isLineEnd raw).getLast?, ¬isLineEnd c :=
    Text.not_of_getLast?_dropEndWhile
  rw [splitClosing]
  generalize Text.dropEndWhile isLineEnd raw = closing at hends hlast
  have hline := Text.dropEndWhile_append_takeEndWhile (· != '\n') closing
  cases hbody : Text.after? Report.marker (Text.takeEndWhile (· != '\n') closing) with
  | none => exact .inl rfl
  | some body =>
    rw [Text.after?_eq_some_iff] at hbody
    have hmem (hc : '\n' ∈ body) : '\n' ∈ Text.takeEndWhile (· != '\n') closing :=
      hbody ▸ List.mem_append_right _ hc
    have hclosed : Closed (Text.dropEndWhile (· != '\n') closing) body
        (Text.dropEndWhile (· != '\n') closing ++ (Report.marker ++ body) ++
          Text.takeEndWhile isLineEnd raw) := by
      refine .intro (fun c hc => ?_)
        (fun h => absurd (Text.of_mem_takeEndWhile (hmem h)) (by decide)) (fun hr => ?_)
        fun c => Text.of_mem_takeEndWhile
      · simpa using Text.not_of_getLast?_dropEndWhile c hc
      · -- The carriage return would have been cut off with the line ends.
        refine hlast '\r' ?_ (by decide)
        rw [← hline, hbody, List.getLast?_append, List.getLast?_append, hr]
        rfl
    rw [← hbody, hline, hends] at hclosed
    exact .inr ⟨_, body, hclosed⟩

/-- What is split off is the report that closes the text before it. -/
theorem splitClosing_eq_some_iff {text body raw : List Char} :
    splitClosing raw = (text, some body) ↔ Closed text body raw := by
  refine ⟨fun h => ?_, splitClosing_of_closed⟩
  rcases splitClosing_eq_or_closed raw with hnone | ⟨text', body', hclosed⟩
  · exact nomatch hnone.symm.trans h
  · obtain ⟨rfl, hbody⟩ := Prod.mk.inj ((splitClosing_of_closed hclosed).symm.trans h)
    exact Option.some.inj hbody ▸ hclosed

/-- A report is taken off a text that is empty or ends with a newline; without
    one all is text. -/
theorem splitClosing_cases (raw : List Char) :
    splitClosing raw = (raw, none) ∨
      ∃ text body, Text.EndsIn '\n' text ∧ splitClosing raw = (text, some body) := by
  refine (splitClosing_eq_or_closed raw).imp_right ?_
  rintro ⟨text, body, h⟩
  have hsplit := splitClosing_of_closed h
  obtain ⟨ht, -⟩ := h
  exact ⟨text, body, ht, hsplit⟩

end Playpen.Diagnostics
