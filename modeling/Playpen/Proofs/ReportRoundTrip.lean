import Playpen.Proofs.Base64
import Playpen.Proofs.Lines
import Playpen.Proofs.Numeral
import Playpen.Proofs.Utf8
import Playpen.Report.Notice

/-!
# Reports come through

What the prelude says on the last line of the diagnostics is what the host reads
there (`ofText_line`), and all before that line is the program's text. The text
is arbitrary, as long as it leaves the line to the report: it may hold markers,
whole reports and bytes that are no text, and changes nothing about the report.
-/

namespace Playpen.Report

/-! ## Newlines in bytes and in texts -/

/-- Bytes are read line by line. -/
theorem decode_append_of_endsIn {bs : Bytes} (h : Text.EndsIn 10 bs) (rest : Bytes) :
    Utf8.decode (bs ++ rest) = Utf8.decode bs ++ Utf8.decode rest := by
  rcases List.eq_nil_or_concat bs with rfl | ⟨init, b, rfl⟩
  · rfl
  · rw [List.concat_eq_append] at h ⊢
    obtain rfl := Text.endsIn_concat.1 h
    rw [List.append_assoc, List.singleton_append, Utf8.decode_append_ascii (by decide),
      Utf8.decode_append_ascii (by decide), Utf8.decode_newline_cons, Utf8.decode_newline_cons,
      List.append_assoc]
    rfl

/-- A text ends with a newline exactly if its bytes do. -/
theorem endsIn_decode_iff {bs : Bytes} : Text.EndsIn '\n' (Utf8.decode bs) ↔ Text.EndsIn 10 bs := by
  constructor
  · intro h
    have hpre : Text.EndsIn 10 (Text.dropEndWhile (· != 10) bs) :=
      fun b hb => by simpa using Text.not_of_getLast?_dropEndWhile b hb
    have hsplit := Text.dropEndWhile_append_takeEndWhile (· != 10) bs
    -- What is left of the last newline is no line if it is not empty.
    by_cases htail : Text.takeEndWhile (· != 10) bs = []
    · rw [htail, List.append_nil] at hsplit
      exact hsplit ▸ hpre
    · have hlast := List.getLast?_eq_some_getLast (Utf8.decode_ne_nil htail)
      rw [← hsplit, decode_append_of_endsIn hpre] at h
      have hnewline := h _ (by rw [List.getLast?_append, hlast]; rfl)
      have hmem := Utf8.newline_mem_decode (hnewline ▸ List.getLast_mem (Utf8.decode_ne_nil htail))
      exact absurd (Text.of_mem_takeEndWhile hmem) (by decide)
  · intro h
    rcases List.eq_nil_or_concat bs with rfl | ⟨init, b, rfl⟩
    · exact Text.endsIn_nil _
    · rw [List.concat_eq_append] at h ⊢
      obtain rfl := Text.endsIn_concat.1 h
      rw [Utf8.decode_append_ascii (by decide)]
      exact Text.endsIn_concat.2 rfl

/-! ## The fields of a report -/

theorem colon_not_mem_encode (bs : Bytes) : ':' ∉ Base64.encode bs :=
  fun h => absurd (Base64.isCode_of_mem_encode bs ':' h) (by decide)

/-- What follows the marker in a report of that kind with these fields. -/
def bodyOf (kind : List Char) (fields : List Bytes) : List Char :=
  kind ++ (fields.map Base64.encode).flatMap (':' :: ·)

theorem split_bodyOf {kind : List Char} (hk : ':' ∉ kind) (fields : List Bytes) :
    Text.split ':' (bodyOf kind fields) = kind :: fields.map Base64.encode := by
  refine Text.split_append_flatMap hk fun p hp => ?_
  obtain ⟨bs, _, rfl⟩ := List.mem_map.1 hp
  exact colon_not_mem_encode bs

theorem readFields_encode (fields : List Bytes) :
    readFields (fields.map Base64.encode) = .ok (fields.map Utf8.decode) := by
  induction fields with
  | nil => rfl
  | cons bs fields ih =>
    rw [List.map_cons, readFields, Base64.decode_encode, ih]
    rfl

/-- Four fields that can be read tell of an exception, if the kind is one that
    does. -/
theorem read_of_fields {body kind a b c d : List Char} {fields : List (List Char)}
    (hs : Text.split ':' body = kind :: fields) (hok : kind ≠ "ok".toList)
    (hexit : kind ≠ "exit".toList) (hf : readFields fields = .ok [a, b, c, d]) :
    read body =
      if kind = "raise".toList then .ok (.raised (readException a b c d))
      else if kind = "syntax".toList then .ok (.rejected (readException a b c d))
      else .error (.unknownKind (String.ofList kind)) := by
  simp only [read, hs, List.headD_cons, List.tail_cons, if_neg hok, if_neg hexit, hf]

/-- The exception with these four fields, which need not be texts. -/
def exceptionOf (className ancestors message backtrace : Bytes) : Exception :=
  readException (Utf8.decode className) (Utf8.decode ancestors) (Utf8.decode message)
    (Utf8.decode backtrace)

theorem read_raise (className ancestors message backtrace : Bytes) :
    read (bodyOf "raise".toList [className, ancestors, message, backtrace]) =
      .ok (.raised (exceptionOf className ancestors message backtrace)) := by
  rw [read_of_fields (split_bodyOf (by decide) _) (by decide) (by decide) (readFields_encode _),
    if_pos rfl, exceptionOf]

theorem read_syntax (className ancestors message backtrace : Bytes) :
    read (bodyOf "syntax".toList [className, ancestors, message, backtrace]) =
      .ok (.rejected (exceptionOf className ancestors message backtrace)) := by
  rw [read_of_fields (split_bodyOf (by decide) _) (by decide) (by decide) (readFields_encode _),
    if_neg (by decide), if_pos rfl, exceptionOf]

theorem read_ok : read "ok".toList = .ok .completed := by decide

/-- A status that can be read is that of an exit. -/
theorem read_of_status {body kind status : List Char} {fields : List (List Char)} {n : Int32}
    (hs : Text.split ':' body = kind :: status :: fields) (hok : kind ≠ "ok".toList)
    (hexit : kind = "exit".toList) (hn : Numeral.readInt32 status = .ok n) :
    read body = .ok (.exited n) := by
  simp only [read, hs, List.headD_cons, List.tail_cons, if_neg hok, if_pos hexit, hn]

theorem not_mem_toString {c : Char} (hsign : c ≠ '-') (hd : ¬c.isDigit) (n : Int32) :
    c ∉ (toString n.toInt).toList :=
  fun h => (Numeral.of_mem_toString h).elim hsign hd

theorem read_exit (status : Int32) :
    read ("exit:".toList ++ (toString status.toInt).toList) = .ok (.exited status) := by
  have hkind : ':' ∉ "exit".toList := by decide
  have hs : Text.split ':' ("exit:".toList ++ (toString status.toInt).toList) =
      ["exit".toList, (toString status.toInt).toList] := by
    rw [show "exit:".toList = "exit".toList ++ [':'] from rfl, List.append_assoc,
      List.singleton_append, Text.split_append_cons hkind,
      Text.split_eq_singleton (not_mem_toString (by decide) (by decide) status)]
  exact read_of_status hs (by decide) rfl (Numeral.readInt32_toString status)

/-! ## Lines that are reports -/

/-- What follows the marker is one line and says this. -/
structure IsBody (body : List Char) (r : Report) : Prop where
  read_eq : read body = .ok r
  newline_not_mem : '\n' ∉ body
  return_not_mem : '\r' ∉ body

theorem isBody_ok : IsBody "ok".toList .completed where
  read_eq := read_ok
  newline_not_mem := by decide
  return_not_mem := by decide

theorem isBody_exit (status : Int32) :
    IsBody ("exit:".toList ++ (toString status.toInt).toList) (.exited status) where
  read_eq := read_exit status
  newline_not_mem h := (List.mem_append.1 h).elim (by decide)
    (not_mem_toString (by decide) (by decide) status)
  return_not_mem h := (List.mem_append.1 h).elim (by decide)
    (not_mem_toString (by decide) (by decide) status)

/-- Only characters of the kind and of encodings stand in a report. -/
theorem not_mem_bodyOf {c : Char} {kind : List Char} (hk : c ∉ kind) (hcolon : c ≠ ':')
    (hcode : ¬Base64.isCode c) (fields : List Bytes) : c ∉ bodyOf kind fields := by
  intro h
  rcases List.mem_append.1 h with h | h
  · exact hk h
  · obtain ⟨code, hcodes, hc⟩ := List.mem_flatMap.1 h
    obtain ⟨bs, _, rfl⟩ := List.mem_map.1 hcodes
    exact (List.mem_cons.1 hc).elim hcolon fun hc => hcode (Base64.isCode_of_mem_encode bs c hc)

theorem isBody_raise (className ancestors message backtrace : Bytes) :
    IsBody (bodyOf "raise".toList [className, ancestors, message, backtrace])
      (.raised (exceptionOf className ancestors message backtrace)) where
  read_eq := read_raise className ancestors message backtrace
  newline_not_mem := not_mem_bodyOf (by decide) (by decide) (by decide) _
  return_not_mem := not_mem_bodyOf (by decide) (by decide) (by decide) _

theorem isBody_syntax (className ancestors message backtrace : Bytes) :
    IsBody (bodyOf "syntax".toList [className, ancestors, message, backtrace])
      (.rejected (exceptionOf className ancestors message backtrace)) where
  read_eq := read_syntax className ancestors message backtrace
  newline_not_mem := not_mem_bodyOf (by decide) (by decide) (by decide) _
  return_not_mem := not_mem_bodyOf (by decide) (by decide) (by decide) _

/-- The marker starts with a byte of ASCII, so a line with a report is read the
    same whatever stands before it. -/
theorem decode_line (bs : Bytes) (body : List Char) :
    Utf8.decode (bs ++ Utf8.encode (marker ++ body ++ ['\n'])) =
      Utf8.decode bs ++ (marker ++ body) ++ ['\n'] := by
  have hline : Utf8.encode (marker ++ body ++ ['\n']) =
      0x1E :: Utf8.encode ("rbrun:".toList ++ body ++ ['\n']) := rfl
  rw [hline, Utf8.decode_append_ascii (by decide), ← hline, Utf8.decode_encode, List.append_assoc,
    List.append_assoc, List.append_assoc]

/-- A line that is a report is taken off the text before it and read. -/
theorem ofText_of_isBody {bs : Bytes} (hbs : Text.EndsIn 10 bs) {body : List Char} {r : Report}
    (h : IsBody body r) :
    Diagnostics.ofText (Utf8.text (bs ++ Utf8.encode (marker ++ body ++ ['\n']))) =
      ⟨Utf8.text bs, some (.ok r)⟩ := by
  have hreturn : body.getLast? ≠ some '\r' := fun hr => h.return_not_mem (List.mem_of_getLast? hr)
  rw [Diagnostics.ofText, Utf8.text, String.toList_ofList, decode_line,
    Diagnostics.splitClosing_line (endsIn_decode_iff.2 hbs) h.newline_not_mem hreturn]
  simp only [Option.map_some, h.read_eq, Utf8.text]

/-! ## What the prelude writes -/

/-- The lists are of lines that are told apart again. -/
def Particulars.WellFormed (p : Particulars) : Prop :=
  ∀ item ∈ p.ancestors ++ p.backtrace, Text.IsItem item.toList

instance (p : Particulars) : Decidable p.WellFormed :=
  inferInstanceAs (Decidable (∀ item ∈ p.ancestors ++ p.backtrace, Text.IsItem item.toList))

/-- The lists that the prelude has to report are of lines that are told apart
    again. -/
def Notice.WellFormed : Notice → Prop
  | .completed | .exited _ => True
  | .raised p | .rejected p => p.WellFormed

/-- A list in a field is read as it was. -/
theorem items_join {list : List String} (h : ∀ item ∈ list, Text.IsItem item.toList) :
    items (Text.join '\n' (list.map String.toList)) = list := by
  have hitems : ∀ line ∈ list.map String.toList, Text.IsItem line := List.forall_mem_map.2 h
  have hfilter : (list.map String.toList).filter (fun line => !line.isEmpty) =
      list.map String.toList :=
    List.filter_eq_self.2 fun line hl => by simpa using (hitems line hl).1
  rw [items, Text.lines_join hitems, hfilter, List.map_map]
  exact (List.map_congr_left fun item _ => String.ofList_toList).trans (List.map_id list)

theorem exceptionOf_particulars {p : Particulars} (h : p.WellFormed) :
    exceptionOf (Utf8.encode p.className.toList)
      (Utf8.encode (Text.join '\n' (p.ancestors.map String.toList)))
      (Utf8.encode p.message.toList)
      (Utf8.encode (Text.join '\n' (p.backtrace.map String.toList))) = p.exception := by
  rw [Particulars.WellFormed, List.forall_mem_append] at h
  rw [exceptionOf, readException, Utf8.decode_encode, Utf8.decode_encode, Utf8.decode_encode,
    Utf8.decode_encode, items_join h.1, items_join h.2, String.ofList_toList,
    String.ofList_toList, Particulars.exception]

/-- What the prelude writes after the marker is read as what it has to say. -/
theorem Notice.isBody_body {n : Notice} (h : n.WellFormed) : IsBody n.body n.report := by
  cases n with
  | completed => exact isBody_ok
  | exited status => exact isBody_exit status
  | raised p =>
    rw [report, ← exceptionOf_particulars h]
    exact isBody_raise _ _ _ _
  | rejected p =>
    rw [report, ← exceptionOf_particulars h]
    exact isBody_syntax _ _ _ _

/-- Whatever the program wrote before, if it ended its last line, the host reads
    what the prelude wrote, and takes all before it for the program's text. -/
theorem ofText_line {bs : Bytes} (hbs : Text.EndsIn 10 bs) {n : Notice} (hn : n.WellFormed) :
    Diagnostics.ofText (Utf8.text (bs ++ Utf8.encode (n.line ++ ['\n']))) =
      ⟨Utf8.text bs, some (.ok n.report)⟩ :=
  ofText_of_isBody hbs (Notice.isBody_body hn)

/-- A report that the program forged, and a byte that is no text. -/
theorem ofText_line_after_forgery :
    Text.EndsIn 10 (Utf8.encode "\x1erbrun:exit:0\n".toList ++ [0xFF, 10]) ∧
    Notice.WellFormed (.raised ⟨"A::E", ["A::E", "Exception"], "a:\nb", ["<code>:1:in 'f'"]⟩) ∧
    Diagnostics.ofText (Utf8.text (Utf8.encode "\x1erbrun:exit:0\n".toList ++ [0xFF, 10] ++
        Utf8.encode ((Notice.raised
          ⟨"A::E", ["A::E", "Exception"], "a:\nb", ["<code>:1:in 'f'"]⟩).line ++ ['\n']))) =
      ⟨Utf8.text (Utf8.encode "\x1erbrun:exit:0\n".toList ++ [0xFF, 10]),
        some (.ok (.raised
          (.ofReport "A::E" ["A::E", "Exception"] "a:\nb" ["<code>:1:in 'f'"])))⟩ := by
  have hbs : Text.EndsIn 10 (Utf8.encode "\x1erbrun:exit:0\n".toList ++ [0xFF, 10]) := by decide
  have hn : Notice.WellFormed
      (.raised ⟨"A::E", ["A::E", "Exception"], "a:\nb", ["<code>:1:in 'f'"]⟩) := by
    change Particulars.WellFormed _
    decide
  exact ⟨hbs, hn, ofText_line hbs hn⟩

end Playpen.Report
