import Mathlib.Logic.IsEmpty.Basic
import Playpen.Proofs.Lines

/-!
# Dividing diagnostics

What the interpreter wrote to its error stream can be taken apart into text of the
program, a closing report and line ends behind it in at most one way
(`Diagnostics.Parts`). If it can, the text and the report are what the host takes
them for, and if not all is text, so nothing but the report is ever lost
(`Diagnostics.divides`). The positions at which the host cuts the text are between
two of its characters or at an end.
-/

namespace Playpen.Diagnostics

open Text

/-! ## Parts -/

/-- A text taken apart: what the program wrote, which is empty or ends with a
    newline, behind that a marker and the rest of the line, and line ends. -/
@[ext]
structure Parts (raw : List Char) where
  text : List Char
  body : List Char
  ends : List Char
  append_eq : text ++ (Report.marker ++ body) ++ ends = raw
  endsIn : EndsIn '\n' text
  newline_not_mem : '\n' ∉ body
  not_return : body.getLast? ≠ some '\r'
  isLineEnd : ∀ c ∈ ends, c = '\n' ∨ c = '\r'

variable {raw : List Char}

theorem isLineEnd_iff {c : Char} : isLineEnd c ↔ c = '\n' ∨ c = '\r' := by
  rw [isLineEnd, Bool.or_eq_true, beq_iff_eq, beq_iff_eq]

theorem Parts.closed (p : Parts raw) : Closed p.text p.body raw := by
  have h := Closed.intro p.endsIn p.newline_not_mem p.not_return
    fun c hc => isLineEnd_iff.2 (p.isLineEnd c hc)
  rwa [p.append_eq] at h

theorem Closed.nonempty_parts {text body : List Char} (h : Closed text body raw) :
    Nonempty (Parts raw) := by
  obtain ⟨ht, hn, hr, hends⟩ := h
  exact ⟨_, _, _, rfl, ht, hn, hr, fun c hc => isLineEnd_iff.1 (hends c hc)⟩

/-- There is only one way to take a text apart. -/
instance : Subsingleton (Parts raw) where
  allEq p q := by
    have hsplit := (splitClosing_of_closed p.closed).symm.trans (splitClosing_of_closed q.closed)
    obtain ⟨htext, hbody⟩ := Prod.mk.inj hsplit
    have hbody := Option.some.inj hbody
    have happend := p.append_eq.trans q.append_eq.symm
    rw [htext, hbody, List.append_cancel_left_eq] at happend
    exact Parts.ext htext hbody happend

/-- The text and the report are those of the parts. -/
theorem ofText_of_parts {s : String} (p : Parts s.toList) :
    ofText s = ⟨String.ofList p.text, some (Report.read p.body)⟩ := by
  rw [ofText, splitClosing_of_closed p.closed]
  rfl

/-- A text that cannot be taken apart has no report. -/
theorem ofText_of_isEmpty {s : String} (h : IsEmpty (Parts s.toList)) : ofText s = ⟨s, none⟩ := by
  have hsplit : splitClosing s.toList = (s.toList, none) := by
    refine (splitClosing_eq_or_closed s.toList).resolve_right ?_
    rintro ⟨text, body, hclosed⟩
    exact not_nonempty_iff.2 h hclosed.nonempty_parts
  rw [ofText, hsplit, String.ofList_toList]
  rfl

theorem text_isPrefix (s : String) : (ofText s).text.toList <+: s.toList := by
  rcases isEmpty_or_nonempty (Parts s.toList) with hempty | ⟨⟨p⟩⟩
  · have htext := congrArg Diagnostics.text (ofText_of_isEmpty hempty)
    exact htext ▸ List.prefix_refl _
  · rw [ofText_of_parts p, String.toList_ofList]
    exact ⟨_, (List.append_assoc ..).symm.trans p.append_eq⟩

theorem isSome_report?_iff (s : String) :
    (ofText s).report?.isSome ↔ Nonempty (Parts s.toList) := by
  rcases isEmpty_or_nonempty (Parts s.toList) with hempty | ⟨⟨p⟩⟩
  · rw [ofText_of_isEmpty hempty]
    exact iff_of_false nofun (not_nonempty_iff.2 hempty)
  · exact iff_of_true (ofText_of_parts p ▸ rfl) ⟨p⟩

theorem text_of_report?_eq_none {s : String} (h : (ofText s).report? = none) :
    (ofText s).text = s := by
  have hparts := (isSome_report?_iff s).not.1 (Option.not_isSome_iff_eq_none.2 h)
  rw [ofText_of_isEmpty (not_nonempty_iff.1 hparts)]

/-! ## Positions -/

theorem lastNewline?_eq_none {cs : List Char} (h : '\n' ∉ cs) (here : String.Pos.Raw) :
    lastNewline? here cs = none := by
  induction cs generalizing here with
  | nil => rfl
  | cons c cs ih =>
    rw [List.mem_cons, not_or] at h
    rw [lastNewline?, ih h.2, if_neg (Ne.symm h.1)]
    rfl

/-- The last newline starts behind all that stands before it. -/
theorem lastNewline?_append {r : List Char} (h : '\n' ∉ r) (l : List Char)
    (here : String.Pos.Raw) :
    lastNewline? here (l ++ '\n' :: r) = some (here + String.ofList l) := by
  induction l generalizing here with
  | nil =>
    rw [List.nil_append, lastNewline?, lastNewline?_eq_none h, if_pos rfl]
    exact congrArg some (String.Pos.Raw.ext rfl)
  | cons c l ih =>
    rw [List.cons_append, lastNewline?, ih, Option.some_or, String.ofList_cons]
    refine congrArg some (String.Pos.Raw.ext ?_)
    simp only [String.Pos.Raw.byteIdx_add_string, String.Pos.Raw.byteIdx_add_char,
      String.utf8ByteSize_append, String.utf8ByteSize_singleton, Nat.add_assoc]

/-- The last line starts behind the text before it. -/
theorem lineStart_append {text line : List Char} (ht : EndsIn '\n' text) (hl : '\n' ∉ line) :
    lineStart (String.ofList text ++ String.ofList line) = (String.ofList text).rawEndPos := by
  rw [lineStart, String.toList_append, String.toList_ofList, String.toList_ofList]
  rcases List.eq_nil_or_concat text with rfl | ⟨init, c, rfl⟩
  · rw [List.nil_append, lastNewline?_eq_none hl]
    rfl
  · rw [List.concat_eq_append] at ht ⊢
    obtain rfl := endsIn_concat.1 ht
    rw [List.append_assoc, List.singleton_append, lastNewline?_append hl]
    refine String.Pos.Raw.ext ?_
    change 0 + (String.ofList init).utf8ByteSize + 1 = (String.ofList (init ++ ['\n'])).utf8ByteSize
    rw [String.ofList_append, String.utf8ByteSize_append, Nat.zero_add]
    rfl

/-- The end of the beginning of a text is a position in it, and the rest follows. -/
theorem exists_pos?_of_append {s a b : String} (h : s = a ++ b) :
    ∃ p, s.pos? a.rawEndPos = some p ∧ (s.sliceTo p).copy = a ∧ (s.sliceFrom p).copy = b := by
  subst h
  have hvalid : a.rawEndPos.IsValid (a ++ b) := String.Pos.Raw.isValid_rawEndPos.append_right b
  obtain ⟨ha, hb⟩ := ((a ++ b).pos a.rawEndPos hvalid).splits.eq ⟨rfl, rfl⟩
  refine ⟨(a ++ b).pos a.rawEndPos hvalid, ?_, ha, hb⟩
  rw [String.pos?, String.Slice.pos?,
    dif_pos (String.Pos.Raw.isValidForSlice_eq_true_iff.2 hvalid.toSlice)]
  rfl

/-- What stands before the last line and the line itself, of a text without the
    line ends behind it. -/
theorem exists_lineStart (raw : String) :
    ∃ text line ends : List Char, raw = String.ofList text ++ String.ofList (line ++ ends) ∧
      trimmed raw = String.ofList text ++ String.ofList line ∧
      lineStart (trimmed raw) = (String.ofList text).rawEndPos ∧
      text = dropEndWhile (· != '\n') (dropEndWhile isLineEnd raw.toList) ∧
      line = takeEndWhile (· != '\n') (dropEndWhile isLineEnd raw.toList) := by
  have hends := dropEndWhile_append_takeEndWhile isLineEnd raw.toList
  have hline := dropEndWhile_append_takeEndWhile (· != '\n') (dropEndWhile isLineEnd raw.toList)
  have htrimmed : trimmed raw =
      String.ofList (dropEndWhile (· != '\n') (dropEndWhile isLineEnd raw.toList)) ++
        String.ofList (takeEndWhile (· != '\n') (dropEndWhile isLineEnd raw.toList)) := by
    rw [← String.ofList_append, hline, trimmed]
  refine ⟨_, _, takeEndWhile isLineEnd raw.toList, ?_, htrimmed, ?_, rfl, rfl⟩
  · rw [← String.ofList_append, ← List.append_assoc, hline, hends, String.ofList_toList]
  · rw [htrimmed, lineStart_append (fun c hc => ?_) fun h => ?_]
    · simpa using not_of_getLast?_dropEndWhile c hc
    · exact absurd (of_mem_takeEndWhile h) (by decide)

theorem isValid_lineStart (raw : String) :
    (lineStart (trimmed raw)).IsValid (trimmed raw) ∧ (lineStart (trimmed raw)).IsValid raw := by
  obtain ⟨text, line, ends, hraw, htrimmed, hstart, -, -⟩ := exists_lineStart raw
  have hvalid {s rest : String} (h : s = String.ofList text ++ rest) :
      (String.ofList text).rawEndPos.IsValid s :=
    h ▸ String.Pos.Raw.isValid_rawEndPos.append_right rest
  rw [hstart]
  exact ⟨hvalid htrimmed, hvalid hraw⟩

/-- Cutting at positions comes to the same. -/
theorem cut?_eq_some (raw : String) : cut? raw = some (ofText raw) := by
  obtain ⟨text, line, ends, hraw, htrimmed, hstart, htext, hline⟩ := exists_lineStart raw
  obtain ⟨p, hp, -, hfrom⟩ := exists_pos?_of_append htrimmed
  obtain ⟨q, hq, hto, -⟩ := exists_pos?_of_append hraw
  rw [cut?, hstart, hp, hq, ofText, splitClosing, ← htext, ← hline]
  dsimp only [Option.bind_eq_bind, Option.bind_some]
  rw [hfrom, String.toList_ofList, hto]
  cases after? Report.marker line with
  | none =>
    rw [String.ofList_toList]
    rfl
  | some body => rfl

/-- The text that the program is taken to have written is a beginning of what is on
    the error stream. There is a report exactly if the stream can be taken apart into
    text, a closing report and line ends, which can be done in one way only; then the
    text and the report are those, and otherwise all is text. The last line can be cut
    off by positions counted in bytes: they are within the text, between two
    characters or at an end, and what comes of it is the same. -/
theorem divides (raw : String) :
    (ofText raw).text.toList <+: raw.toList ∧
    ((ofText raw).report?.isSome ↔ Nonempty (Parts raw.toList)) ∧
    Subsingleton (Parts raw.toList) ∧
    (∀ p : Parts raw.toList, ofText raw = ⟨String.ofList p.text, some (Report.read p.body)⟩) ∧
    ((ofText raw).report? = none → (ofText raw).text = raw) ∧
    ((lineStart (trimmed raw)).IsValid (trimmed raw) ∧
      (lineStart (trimmed raw)).IsValid raw) ∧
    cut? raw = some (ofText raw) :=
  ⟨text_isPrefix raw, isSome_report?_iff raw, inferInstance, ofText_of_parts,
    text_of_report?_eq_none, isValid_lineStart raw, cut?_eq_some raw⟩

/-- A marker that continues a line of the program starts no report. -/
theorem divides_of_glued :
    (ofText "ü\x1erbrun:ok\n").report? = none ∧
      (ofText "ü\x1erbrun:ok\n").text = "ü\x1erbrun:ok\n" :=
  have h : (ofText "ü\x1erbrun:ok\n").report? = none := by decide
  ⟨h, (divides _).2.2.2.2.1 h⟩

/-- An empty report behind a line of the program, with mixed line ends after it. -/
example : (ofText "ü\x1erbrun:ok\n\x1erbrun:\r\r\n\n").text = "ü\x1erbrun:ok\n" := by decide

end Playpen.Diagnostics
