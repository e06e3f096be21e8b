import Playpen.Input
import Playpen.Proofs.Lines
import Playpen.Proofs.Utf8

/-!
# Input line by line

A text is given to a program line by line, and the program reads the text that it
was given, but for the ends of its lines: a carriage return goes before each
newline and at the end of the text (`Text.dropReturns`), and a last line without a
newline gets one. So lines that could be told apart in a text are given as they
were (`Input.reads_line_by_line`).
-/

namespace Playpen.Text

/-- The text without one carriage return directly before each newline and one at
    its end. Of several in a row that is the last. -/
def dropReturns : List Char → List Char
  | [] => []
  | c :: cs =>
    if c = '\r' ∧ cs.headD '\n' = '\n' then dropReturns cs else c :: dropReturns cs

/-- A newline and the end of a text make no difference to the return before
    them. -/
theorem dropReturns_append_newline (l r : List Char) :
    dropReturns (l ++ '\n' :: r) = dropReturns l ++ '\n' :: dropReturns r := by
  induction l with
  | nil => exact if_neg fun h => absurd h.1 (by decide)
  | cons c l ih =>
    have hhead : (l ++ '\n' :: r).headD '\n' = l.headD '\n' := by
      cases l <;> rfl
    rw [List.cons_append, dropReturns, dropReturns]
    simp only [hhead, ih]
    split <;> rfl

/-- In a single line only its end counts. -/
theorem dropReturns_eq_dropReturn {line : List Char} (h : '\n' ∉ line) :
    dropReturns line = dropReturn line := by
  induction line with
  | nil => rfl
  | cons c line ih =>
    rw [List.mem_cons, not_or] at h
    cases line with
    | nil =>
      by_cases hc : c = '\r'
      · exact hc ▸ rfl
      · have hlast : [c].getLast? ≠ some '\r' := fun h => hc (Option.some.inj h)
        rw [dropReturns, if_neg fun h => hc h.1, dropReturn, if_neg hlast]
        rfl
    | cons d line =>
      have hd : d ≠ '\n' := fun hd => h.2 (hd ▸ List.mem_cons_self)
      rw [dropReturns, if_neg fun hc => hd hc.2, ih h.2, dropReturn, dropReturn,
        List.getLast?_cons_cons, List.dropLast_cons_cons]
      split <;> rfl

/-- The returns at the ends of lines go with the lines. -/
theorem dropReturns_join {pieces : List (List Char)} (h : ∀ piece ∈ pieces, '\n' ∉ piece) :
    dropReturns (join '\n' pieces) = join '\n' (pieces.map dropReturn) := by
  induction pieces with
  | nil => rfl
  | cons piece pieces ih =>
    rw [List.forall_mem_cons] at h
    cases pieces with
    | nil => exact dropReturns_eq_dropReturn h.1
    | cons q qs =>
      have hjoin : join '\n' (piece :: q :: qs) = piece ++ '\n' :: join '\n' (q :: qs) := rfl
      rw [hjoin, dropReturns_append_newline, ih h.2, dropReturns_eq_dropReturn h.1]
      rfl

section

variable {α : Type} [DecidableEq α] {sep : α}

/-- There is one more piece than there are separators. -/
theorem length_split (l : List α) : (split sep l).length = l.count sep + 1 := by
  induction l with
  | nil => rfl
  | cons a l ih =>
    by_cases ha : a = sep
    · rw [split, if_pos ha, List.length_cons, ih, ha, List.count_cons_self]
    · rw [split_cons_of_ne ha, List.count_cons_of_ne ha, ← ih, List.length_cons,
        List.length_tail, Nat.sub_add_cancel (List.length_pos_iff.2 (split_ne_nil sep l))]

omit [DecidableEq α] in
/-- Pieces with the separator behind each of them. -/
theorem join_concat {pieces : List (List α)} (h : pieces ≠ []) :
    join sep pieces ++ [sep] = pieces.flatMap (· ++ [sep]) := by
  induction pieces with
  | nil => exact absurd rfl h
  | cons piece pieces ih =>
    cases pieces with
    | nil => rw [List.flatMap_singleton]; rfl
    | cons q qs =>
      rw [List.flatMap_cons, ← ih (List.cons_ne_nil q qs), join, List.append_assoc,
        List.append_assoc]
      · rfl
      · exact List.cons_ne_nil q qs

end

end Playpen.Text

namespace Playpen.Input

open Text

/-- The text with a newline behind its last line, if it has lines. -/
def closed (cs : List Char) : List Char := cs ++ if EndsIn '\n' cs then [] else ['\n']

/-- The lines that stand between newlines. -/
def ofBody (body : List Char) : Input :=
  ⟨(split '\n' body).map fun line => String.ofList (dropReturn line)⟩

/-- A text is nothing to read, or the newline behind its last line goes and what is
    left is divided. -/
theorem ofText_cases (t : String) :
    (closed t.toList = [] ∧ ofText t = none) ∨
      ∃ body, closed t.toList = body ++ ['\n'] ∧ ofText t = ofBody body := by
  rw [ofText]
  generalize t.toList = cs
  rcases List.eq_nil_or_concat cs with rfl | ⟨init, c, rfl⟩
  · exact .inl ⟨rfl, rfl⟩
  · have hne : (init ++ [c]).isEmpty = false := by simp
    rw [List.concat_eq_append, closed, hne]
    dsimp only
    rw [List.getLast?_concat, List.dropLast_concat]
    by_cases hc : c = '\n'
    · refine .inr ⟨init, ?_, ?_⟩
      · rw [if_pos (endsIn_concat.2 hc), List.append_nil, hc]
      · rw [if_pos (congrArg some hc)]
        rfl
    · refine .inr ⟨init ++ [c], ?_, ?_⟩
      · rw [if_neg fun h => hc (endsIn_concat.1 h)]
      · rw [if_neg fun h => hc (Option.some.inj h)]
        rfl

theorem newline_not_mem_lines (t : String) : ∀ line ∈ (ofText t).lines, '\n' ∉ line.toList := by
  rcases ofText_cases t with ⟨-, h⟩ | ⟨body, -, h⟩
  · rw [h]
    exact nofun
  · rw [h]
    refine List.forall_mem_map.2 fun line hline hmem => not_mem_of_mem_split line hline ?_
    rw [String.toList_ofList, dropReturn] at hmem
    split at hmem
    · exact List.dropLast_subset _ hmem
    · exact hmem

/-- There is a line for each newline of the text once its last line has one. -/
theorem length_lines (t : String) : (ofText t).lines.length = (closed t.toList).count '\n' := by
  rcases ofText_cases t with ⟨hclosed, h⟩ | ⟨body, hclosed, h⟩
  · rw [h, hclosed]
    rfl
  · rw [h, hclosed, ofBody, List.length_map, length_split, List.count_append,
      List.count_singleton_self]

/-- What is read is the text, but for the ends of its lines. -/
theorem text_ofText (t : String) : (ofText t).text = dropReturns (closed t.toList) := by
  rcases ofText_cases t with ⟨hclosed, h⟩ | ⟨body, hclosed, h⟩
  · rw [h, hclosed]
    rfl
  · have hne : (split '\n' body).map dropReturn ≠ [] := by simp [split_ne_nil]
    have hbody : dropReturns body = join '\n' ((split '\n' body).map dropReturn) := by
      rw [← dropReturns_join not_mem_of_mem_split, join_split]
    rw [h, hclosed, dropReturns_append_newline, hbody]
    refine Eq.trans ?_ (join_concat hne).symm
    rw [ofBody, text, List.flatMap_map, List.flatMap_map]
    simp only [String.toList_ofList]

/-- The text of lines is closed already. -/
theorem closed_text (input : Input) : closed input.text = input.text := by
  obtain ⟨lines⟩ := input
  rcases List.eq_nil_or_concat lines with rfl | ⟨init, line, rfl⟩
  · rfl
  · rw [List.concat_eq_append, text, List.flatMap_append, List.flatMap_singleton,
      ← List.append_assoc, closed, if_pos (endsIn_concat.2 rfl), List.append_nil]

/-- Lines that can be told apart in a text are read from it as they were. -/
theorem ofText_text {lines : List String}
    (h : ∀ line ∈ lines, '\n' ∉ line.toList ∧ line.toList.getLast? ≠ some '\r') :
    ofText (String.ofList (Input.mk lines).text) = ⟨lines⟩ := by
  by_cases hlines : lines = []
  · exact hlines ▸ rfl
  have htext : (Input.mk lines).text = join '\n' (lines.map String.toList) ++ ['\n'] := by
    rw [join_concat (by simpa using hlines), List.flatMap_map, text]
  have hsplit : split '\n' (join '\n' (lines.map String.toList)) = lines.map String.toList :=
    split_join (by simpa using hlines) (List.forall_mem_map.2 fun line hl => (h line hl).1)
  rcases ofText_cases (String.ofList (Input.mk lines).text) with ⟨hclosed, -⟩ | ⟨body, hclosed, ht⟩
  · rw [String.toList_ofList, closed_text, htext] at hclosed
    exact absurd hclosed (by simp)
  · rw [String.toList_ofList, closed_text, htext, List.append_left_inj] at hclosed
    rw [ht, ← hclosed, ofBody, hsplit, List.map_map, Input.mk.injEq]
    refine (List.map_congr_left fun line hl => ?_).trans (List.map_id lines)
    exact (congrArg String.ofList (if_neg (h line hl).2)).trans String.ofList_toList

/-- No line that a program is given has a newline in it, and there is one for each
    newline of the text and one more for what stands behind the last of them. The
    program reads the text without a carriage return before each newline and at its
    end, and a newline behind the last line if that had none. And lines without a
    newline in them or a carriage return at their end are the lines of what a program
    reads that is given them. -/
theorem reads_line_by_line :
    (∀ t : String,
      (∀ line ∈ (ofText t).lines, '\n' ∉ line.toList) ∧
      (ofText t).lines.length =
        t.toList.count '\n' + (if EndsIn '\n' t.toList then 0 else 1) ∧
      (ofText t).bytes = Utf8.encode
        (dropReturns t.toList ++ if EndsIn '\n' t.toList then [] else ['\n'])) ∧
    ∀ lines : List String,
      (∀ line ∈ lines, '\n' ∉ line.toList ∧ line.toList.getLast? ≠ some '\r') →
      ofText (Utf8.text (Input.mk lines).bytes) = ⟨lines⟩ := by
  refine ⟨fun t => ⟨newline_not_mem_lines t, ?_, ?_⟩, fun lines h => ?_⟩
  · rw [length_lines, closed, List.count_append]
    split <;> rfl
  · rw [bytes, text_ofText, closed]
    split
    · rw [List.append_nil, List.append_nil]
    · rw [dropReturns_append_newline]
      rfl
  · rw [Utf8.text, bytes, Utf8.decode_encode, ofText_text h]

/-- Empty lines, and returns within a line. -/
theorem reads_line_by_line_of_blank :
    (∀ line ∈ ["", "a\r\rb", "", "ü", ""],
      '\n' ∉ line.toList ∧ line.toList.getLast? ≠ some '\r') ∧
    ofText (Utf8.text (Input.mk ["", "a\r\rb", "", "ü", ""]).bytes) =
      ⟨["", "a\r\rb", "", "ü", ""]⟩ :=
  have h : ∀ line ∈ ["", "a\r\rb", "", "ü", ""],
      '\n' ∉ line.toList ∧ line.toList.getLast? ≠ some '\r' := by decide
  ⟨h, reads_line_by_line.2 _ h⟩

/-- Of the returns at the end of a line one goes, and the last line is ended. -/
example : (ofText "5\r\r\n\n\r").text = "5\r\n\n\n".toList := by decide

end Playpen.Input
