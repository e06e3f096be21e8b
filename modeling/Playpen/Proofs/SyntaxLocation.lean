import Playpen.Proofs.Lines
import Playpen.Proofs.Numeral
import Playpen.SyntaxCheck

/-!
# Where a message says the error is

A message names a place in the source with the name of the source, a line and
perhaps a column (`Location.StartsWith`). The search finds the first place in a
message (`Location.First.find?_eq_some`), and nothing only if there is none. The
numbers of the place are the line and the column, as far as 32 bits hold them, and
what is shown is the message without it (`SyntaxFault.ofMessage_locates`).
-/

namespace Playpen

namespace Text

theorem isDecimalDigit_of_isDigit {c : Char} (h : c.isDigit) : isDecimalDigit c :=
  Ranges.has_eq_true_iff.2 ⟨(0x30, 0x39), List.mem_cons_self, Char.isDigit_iff_toNat.1 h⟩

end Text

namespace Location

open Text

/-! ## Places -/

/-- Digits of any script, at least one. -/
def IsNumber (cs : List Char) : Prop := cs ≠ [] ∧ ∀ c ∈ cs, isDecimalDigit c

/-- A text starts with a place, and this follows the last colon of it. If a column
    can be read, it belongs to the place. -/
inductive StartsWith : List Char → Location → List Char → Prop
  | withColumn {line column rest : List Char} : IsNumber line → IsNumber column →
      StartsWith (opening ++ (line ++ ':' :: (column ++ ':' :: rest))) ⟨line, column⟩ rest
  | withoutColumn {line rest : List Char} : IsNumber line →
      (∀ column after, IsNumber column → rest ≠ column ++ ':' :: after) →
      StartsWith (opening ++ (line ++ ':' :: rest)) ⟨line, []⟩ rest

/-- A text starts with a place. -/
def Opens (cs : List Char) : Prop :=
  ∃ line rest, IsNumber line ∧ cs = opening ++ (line ++ ':' :: rest)

/-- The place is the first in the text: this stands before it and that behind it,
    and no place starts further left. -/
inductive First (before : List Char) (place : Location) (rest : List Char) : List Char → Prop
  | intro {text : List Char} : StartsWith text place rest →
      (∀ m, m <:+ before → m ≠ [] → ¬Opens (m ++ text)) →
      First before place rest (before ++ text)

variable {cs before digits line rest after : List Char} {place : Location}

theorem number?_eq_some_iff :
    number? cs = some (digits, rest) ↔ IsNumber digits ∧ cs = digits ++ ':' :: rest := by
  have hcolon : ¬isDecimalDigit ':' := by decide
  rw [number?]
  constructor
  · intro h
    have happend := List.takeWhile_append_dropWhile (p := isDecimalDigit) (l := cs)
    have hall : ∀ c ∈ cs.takeWhile isDecimalDigit, isDecimalDigit c :=
      fun c hc => List.mem_takeWhile_imp hc
    split at h
    · rename_i d ds rest' htake hdrop
      obtain ⟨rfl, rfl⟩ := Prod.mk.inj (Option.some.inj h)
      rw [hdrop] at happend
      exact ⟨⟨htake ▸ List.cons_ne_nil d ds, hall⟩, happend.symm⟩
    · exact nomatch h
  · rintro ⟨⟨hne, hall⟩, rfl⟩
    rw [List.takeWhile_append_of_pos hall, List.dropWhile_append_of_pos hall,
      List.takeWhile_cons_of_neg hcolon, List.dropWhile_cons_of_neg hcolon, List.append_nil]
    obtain ⟨d, ds, rfl⟩ := List.exists_cons_of_ne_nil hne
    rfl

theorem number?_eq_none_iff :
    number? cs = none ↔ ∀ column after, IsNumber column → cs ≠ column ++ ':' :: after := by
  rw [Option.eq_none_iff_forall_ne_some, Prod.forall]
  simp only [ne_eq, number?_eq_some_iff, not_and]

theorem StartsWith.opens (h : StartsWith cs place rest) : Opens cs := by
  cases h with
  | withColumn hline _ => exact ⟨_, _, hline, rfl⟩
  | withoutColumn hline _ => exact ⟨_, _, hline, rfl⟩

theorem Opens.startsWith (h : Opens cs) : ∃ place rest, StartsWith cs place rest := by
  obtain ⟨line, rest, hline, rfl⟩ := h
  by_cases hcolumn : ∀ column after, IsNumber column → rest ≠ column ++ ':' :: after
  · exact ⟨_, _, .withoutColumn hline hcolumn⟩
  · simp only [not_forall, ne_eq, not_not] at hcolumn
    obtain ⟨column, after, hcolumn, rfl⟩ := hcolumn
    exact ⟨_, _, .withColumn hline hcolumn⟩

theorem atStart?_of_opens (hline : IsNumber line) (behind : List Char) :
    atStart? (opening ++ (line ++ ':' :: behind)) =
      let r := (number? behind).getD ([], behind)
      some (⟨line, r.1⟩, trimStart r.2) := by
  rw [atStart?, after?_eq_some_iff.2 rfl, Option.bind_eq_bind, Option.bind_some,
    number?_eq_some_iff.2 ⟨hline, rfl⟩]
  rfl

theorem atStart?_eq_none_iff : atStart? cs = none ↔ ¬Opens cs := by
  constructor
  · rintro h ⟨line, behind, hline, rfl⟩
    exact nomatch h.symm.trans (atStart?_of_opens hline behind)
  · intro h
    by_contra hne
    obtain ⟨_, hstart⟩ := Option.ne_none_iff_exists'.1 hne
    obtain ⟨numbers, hopening, hnumbers⟩ := Option.bind_eq_some_iff.1 hstart
    obtain ⟨⟨line, behind⟩, hline, -⟩ := Option.bind_eq_some_iff.1 hnumbers
    obtain ⟨hnumber, rfl⟩ := number?_eq_some_iff.1 hline
    exact h ⟨line, behind, hnumber, after?_eq_some_iff.1 hopening⟩

/-- A place that the text starts with is read, and the spaces behind it. -/
theorem atStart?_of_startsWith (h : StartsWith cs place rest) :
    atStart? cs = some (place, trimStart rest) := by
  cases h with
  | withColumn hline hcolumn =>
    rw [atStart?_of_opens hline, number?_eq_some_iff.2 ⟨hcolumn, rfl⟩]
    rfl
  | withoutColumn hline hcolumn =>
    rw [atStart?_of_opens hline, number?_eq_none_iff.2 hcolumn]
    rfl

/-! ## The first place -/

theorem find?_cons_of_not_opens {c : Char} (h : ¬Opens (c :: cs)) :
    find? (c :: cs) = (find? cs).map fun (before, place, rest) => (c :: before, place, rest) := by
  rw [find?, atStart?_eq_none_iff.2 h]

theorem not_opens_nil : ¬Opens [] := by
  rintro ⟨line, rest, -, h⟩
  exact nomatch h

/-- No place is found in a text in which none starts. -/
theorem find?_eq_none (h : ∀ m, m <:+ cs → ¬Opens m) : find? cs = none := by
  induction cs with
  | nil => rfl
  | cons c cs ih =>
    rw [find?_cons_of_not_opens (h _ (List.suffix_refl _)),
      ih fun m hm => h m (hm.trans (List.suffix_cons c cs))]
    rfl

/-- The first place is found. -/
theorem First.find?_eq_some (h : First before place rest cs) :
    find? cs = some (before, place, trimStart rest) := by
  obtain ⟨hstarts, hfirst⟩ := h
  rename_i text
  induction before with
  | nil =>
    cases text with
    | nil => exact absurd hstarts.opens not_opens_nil
    | cons c cs => rw [List.nil_append, find?, atStart?_of_startsWith hstarts]
  | cons c before ih =>
    have hc : ¬Opens (c :: (before ++ text)) :=
      hfirst _ (List.suffix_refl _) (List.cons_ne_nil c before)
    rw [List.cons_append, find?_cons_of_not_opens hc,
      ih fun m hm => hfirst m (hm.trans (List.suffix_cons c before))]
    rfl

theorem First.cons {c : Char} (h : First before place rest cs) (hc : ¬Opens (c :: cs)) :
    First (c :: before) place rest (c :: cs) := by
  obtain ⟨hstarts, hfirst⟩ := h
  rw [← List.cons_append]
  refine .intro hstarts fun m hm hne => ?_
  obtain rfl | hm := List.suffix_cons_iff.1 hm
  · exact hc
  · exact hfirst m hm hne

/-- A text has a first place if a place starts anywhere in it. -/
theorem first_or_not_opens (cs : List Char) :
    (∃ before place rest, First before place rest cs) ∨ ∀ m, m <:+ cs → ¬Opens m := by
  induction cs with
  | nil => exact .inr fun m hm => List.suffix_nil.1 hm ▸ not_opens_nil
  | cons c cs ih =>
    by_cases hc : Opens (c :: cs)
    · obtain ⟨place, rest, hstarts⟩ := hc.startsWith
      exact .inl ⟨[], place, rest, .intro hstarts fun m hm hne => absurd (List.suffix_nil.1 hm) hne⟩
    · obtain ⟨before, place, rest, hfirst⟩ | hnone := ih
      · exact .inl ⟨c :: before, place, rest, hfirst.cons hc⟩
      · refine .inr fun m hm => ?_
        obtain rfl | hm := List.suffix_cons_iff.1 hm
        · exact hc
        · exact hnone m hm

/-- What has the element that it starts with nowhere else cannot start before that
    element. -/
theorem prefix_of_prefix_append_cons {α : Type} {a : α} {l m r : List α} (ha : a ∉ l)
    (h : l <+: m ++ a :: r) : l <+: m := by
  induction l generalizing m with
  | nil => exact List.nil_prefix
  | cons b l ih =>
    rw [List.mem_cons, not_or] at ha
    cases m with
    | nil => exact absurd (List.cons_prefix_cons.1 h).1.symm ha.1
    | cons c m =>
      obtain ⟨rfl, hl⟩ := List.cons_prefix_cons.1 h
      exact List.cons_prefix_cons.2 ⟨rfl, ih ha.2 hl⟩

/-- No place starts before the name of the source if that is not there. -/
theorem not_opens_append {m text : List Char} (hbefore : ¬opening <:+: before)
    (hm : m <:+ before) (hne : m ≠ []) : ¬Opens (m ++ (opening ++ text)) := by
  -- The name starts with a character that does not occur in the rest of it, so
  -- it cannot start in `m` and end further on.
  have hopening : opening = '<' :: "code>:".toList := rfl
  rintro ⟨line, rest, -, h⟩
  obtain ⟨c, m, rfl⟩ := List.exists_cons_of_ne_nil hne
  have hprefix : opening <+: (c :: m) ++ (opening ++ text) := ⟨_, h.symm⟩
  rw [hopening, List.cons_append, List.cons_prefix_cons] at hprefix
  obtain ⟨rfl, hprefix⟩ := hprefix
  have hname := prefix_of_prefix_append_cons (by decide) hprefix
  refine hbefore (hopening ▸ List.IsInfix.trans ?_ hm.isInfix)
  exact (List.cons_prefix_cons.2 ⟨rfl, hname⟩).isInfix

/-- A place behind a text without the name of the source is the first. -/
theorem StartsWith.first {text : List Char} (h : StartsWith text place rest)
    (hbefore : ¬opening <:+: before) : First before place rest (before ++ text) := by
  refine .intro h fun m hm hne => ?_
  obtain ⟨line, behind, -, rfl⟩ := h.opens
  exact not_opens_append hbefore hm hne

/-! ## Numbers -/

/-- The number of a line or a column: what does not count from 1 in 32 bits is 1. -/
def bounded (n : Nat) : Nat := if 1 ≤ n ∧ n ≤ 0xFFFFFFFF then n else 1

/-- What the digits of a line or a column say. Only those of ASCII say anything. -/
def value (digits : List Char) : Nat :=
  if digits.all Char.isDigit then bounded (Nat.ofDigitChars 10 digits 0) else 1

theorem position_of_ok {n : Nat} (h : Numeral.readNat 0xFFFFFFFF digits = .ok n) :
    position digits = if n = 0 then 1 else n := by
  rw [position, h]

theorem position_of_error (h : ∀ n, Numeral.readNat 0xFFFFFFFF digits ≠ .ok n) :
    position digits = 1 := by
  rw [position]
  split
  · rename_i n hn
    exact absurd hn (h n)
  · rfl

theorem readNat_eq_ok_iff {n : Nat} (h : ∀ c ∈ digits, isDecimalDigit c) :
    Numeral.readNat 0xFFFFFFFF digits = .ok n ↔
      Numeral.IsDigits digits ∧ Nat.ofDigitChars 10 digits 0 = n ∧ n ≤ 0xFFFFFFFF := by
  have hplus : ∀ rest, digits ≠ '+' :: rest := by
    rintro rest rfl
    exact absurd (h '+' List.mem_cons_self) (by decide)
  rw [Numeral.readNat_eq_ok_iff, Numeral.isUnsigned_digits hplus, and_assoc]

theorem position_eq_value (h : ∀ c ∈ digits, isDecimalDigit c) :
    position digits = value digits := by
  by_cases hread : ∃ n, Numeral.readNat 0xFFFFFFFF digits = .ok n
  · obtain ⟨n, hn⟩ := hread
    obtain ⟨hdigits, rfl, hle⟩ := (readNat_eq_ok_iff h).1 hn
    rw [position_of_ok hn, value, if_pos (List.all_eq_true.2 hdigits.2), bounded]
    split_ifs <;> omega
  · rw [position_of_error (not_exists.1 hread), value]
    split_ifs with hdigits
    · refine (if_neg ?_).symm
      rintro ⟨hpos, hle⟩
      have hne : digits ≠ [] := fun hnil => absurd hpos (hnil ▸ by decide)
      exact hread ⟨_, (readNat_eq_ok_iff h).2 ⟨⟨hne, List.all_eq_true.1 hdigits⟩, rfl, hle⟩⟩
    · rfl

theorem isNumber_toDigits (n : Nat) : IsNumber (Nat.toDigits 10 n) :=
  (Numeral.isDigits_toDigits n).imp_right fun h c hc => isDecimalDigit_of_isDigit (h c hc)

/-- A number in decimal is read as it was written. -/
theorem position_toDigits (n : Nat) : position (Nat.toDigits 10 n) = bounded n := by
  rw [position_eq_value (isNumber_toDigits n).2, value,
    if_pos (List.all_eq_true.2 Numeral.isDigit_of_mem_toDigits), Nat.ofDigitChars_ten_toDigits]

theorem one_le_position (digits : List Char) : 1 ≤ position digits := by
  rw [position]
  split
  · split
    · exact Nat.le_refl 1
    · omega
  · exact Nat.le_refl 1

end Location

namespace SyntaxFault

open Location Text

/-- Of a message this is shown of which that remains without the place: the message
    itself if nothing does. -/
def shown (message remaining : List Char) : String :=
  String.ofList (if isBlank remaining then trim message else trim remaining)

theorem isEmpty_trim (cs : List Char) : (trim cs).isEmpty = isBlank cs := by
  rw [Bool.eq_iff_iff, List.isEmpty_iff, trim_eq_nil_iff]

theorem ofMessage_of_first {message : String} {before rest : List Char} {place : Location}
    (h : First before place rest message.toList) :
    ofMessage message = ⟨shown message.toList (before ++ trimStart rest), position place.line,
      position place.column⟩ := by
  rw [ofMessage]
  dsimp only
  rw [h.find?_eq_some]
  dsimp only
  rw [isEmpty_trim, shown]

theorem ofMessage_of_none {message : String} (h : find? message.toList = none) :
    ofMessage message = ⟨String.ofList (trim message.toList), 1, 1⟩ := by
  rw [ofMessage]
  dsimp only
  rw [h]

theorem isBlank_of_ofMessage {message : String} (h : (ofMessage message).message = "") :
    isBlank message.toList := by
  have hnil {cs : List Char} (h : String.ofList cs = "") : cs = [] :=
    String.ofList_inj.1 (h.trans String.ofList_nil.symm)
  rw [ofMessage] at h
  dsimp only at h
  split at h
  · exact trim_eq_nil_iff.1 (hnil h)
  · have hrest := hnil h
    split at hrest
    · exact trim_eq_nil_iff.1 hrest
    · rename_i hne
      exact absurd (List.isEmpty_iff.2 hrest) hne

theorem one_le_ofMessage (message : String) :
    1 ≤ (ofMessage message).line ∧ 1 ≤ (ofMessage message).column := by
  rw [ofMessage]
  dsimp only
  split
  · exact ⟨Nat.le_refl 1, Nat.le_refl 1⟩
  · exact ⟨one_le_position _, one_le_position _⟩

/-- The digits of a place are digits of some script. -/
theorem isDecimalDigit_of_first {cs before rest : List Char} {place : Location}
    (h : First before place rest cs) :
    (∀ c ∈ place.line, isDecimalDigit c) ∧ ∀ c ∈ place.column, isDecimalDigit c := by
  obtain ⟨hstarts, -⟩ := h
  cases hstarts with
  | withColumn hline hcolumn => exact ⟨hline.2, hcolumn.2⟩
  | withoutColumn hline _ => exact ⟨hline.2, nofun⟩

/-- A place with a column behind a text without the name of the source. -/
theorem first_withColumn {before : String} (hbefore : ¬opening <:+: before.toList)
    (line column : Nat) (rest : String) :
    First before.toList ⟨Nat.toDigits 10 line, Nat.toDigits 10 column⟩ rest.toList
      (before ++ s!"<code>:{line}:{column}:" ++ rest).toList := by
  have hmessage : (before ++ s!"<code>:{line}:{column}:" ++ rest).toList = before.toList ++
      (opening ++ (Nat.toDigits 10 line ++
        ':' :: (Nat.toDigits 10 column ++ ':' :: rest.toList))) := by
    simp only [String.toList_append, Nat.toString_eq_repr, Nat.toList_repr, List.append_assoc]
    rfl
  rw [hmessage]
  exact (StartsWith.withColumn (isNumber_toDigits line) (isNumber_toDigits column)).first hbefore

/-- A place without a column, and a space, behind a text without the name of the
    source. -/
theorem first_withoutColumn {before : String} (hbefore : ¬opening <:+: before.toList)
    (line : Nat) (rest : String) :
    First before.toList ⟨Nat.toDigits 10 line, []⟩ (' ' :: rest.toList)
      (before ++ s!"<code>:{line}: " ++ rest).toList := by
  have hmessage : (before ++ s!"<code>:{line}: " ++ rest).toList = before.toList ++
      (opening ++ (Nat.toDigits 10 line ++ ':' :: ' ' :: rest.toList)) := by
    simp only [String.toList_append, Nat.toString_eq_repr, Nat.toList_repr, List.append_assoc]
    rfl
  have hcolumn : ∀ column after, IsNumber column → ' ' :: rest.toList ≠ column ++ ':' :: after := by
    rintro column after ⟨hne, hdigits⟩ h
    obtain ⟨c, column, rfl⟩ := List.exists_cons_of_ne_nil hne
    obtain rfl := (List.cons.inj h).1
    exact absurd (hdigits ' ' List.mem_cons_self) (by decide)
  rw [hmessage]
  exact (StartsWith.withoutColumn (isNumber_toDigits line) hcolumn).first hbefore

/-- Lines and columns count from 1, and only a blank message shows nothing. Behind a
    text that does not name the source, a line and a column, or a line alone, are
    found, and what is shown is the text without them and the spaces behind them. It
    is so of the first place in every message, and of no other; a number that is not
    from 1 to what 32 bits hold is 1. A message without a place is put at the start of
    the source. Every message is one of these. -/
theorem ofMessage_locates :
    (∀ message : String,
      1 ≤ (ofMessage message).line ∧ 1 ≤ (ofMessage message).column ∧
        ((ofMessage message).message = "" → isBlank message.toList)) ∧
    (∀ (before rest : String) (line column : Nat), ¬"<code>:".toList <:+: before.toList →
      (∀ message, message = before ++ s!"<code>:{line}:{column}:" ++ rest →
        ofMessage message = ⟨shown message.toList (before.toList ++ trimStart rest.toList),
          bounded line, bounded column⟩) ∧
      ∀ message, message = before ++ s!"<code>:{line}: " ++ rest →
        ofMessage message = ⟨shown message.toList (before.toList ++ trimStart rest.toList),
          bounded line, 1⟩) ∧
    (∀ (message : String) (before rest : List Char) (place : Location),
      First before place rest message.toList →
        ofMessage message = ⟨shown message.toList (before ++ trimStart rest),
          value place.line, value place.column⟩) ∧
    (∀ message : String, (∀ m, m <:+ message.toList → ¬Opens m) →
      ofMessage message = ⟨String.ofList (trim message.toList), 1, 1⟩) ∧
    ∀ message : String, (∃ before place rest, First before place rest message.toList) ∨
      ∀ m, m <:+ message.toList → ¬Opens m := by
  refine ⟨fun message => ⟨(one_le_ofMessage message).1, (one_le_ofMessage message).2,
    isBlank_of_ofMessage⟩, fun before rest line column hbefore => ⟨?_, ?_⟩,
    fun message before rest place h => ?_, fun message h => ofMessage_of_none (find?_eq_none h),
    fun message => first_or_not_opens message.toList⟩
  · rintro message rfl
    rw [ofMessage_of_first (first_withColumn hbefore line column rest), position_toDigits,
      position_toDigits]
  · rintro message rfl
    rw [ofMessage_of_first (first_withoutColumn hbefore line rest), position_toDigits]
    rfl
  · obtain ⟨hline, hcolumn⟩ := isDecimalDigit_of_first h
    rw [ofMessage_of_first h, position_eq_value hline, position_eq_value hcolumn]

/-- A column that is too large between the name of the source and another place, a
    digit that is not of ASCII, and no place. -/
theorem ofMessage_locates_of_odd :
    ¬"<code>:".toList <:+: "in <code>".toList ∧
    ofMessage "in <code><code>:3:4294967296:  odd <code>:9:1: end" =
      ⟨"in <code>odd <code>:9:1: end", 3, 1⟩ ∧
    First "at ".toList ⟨['٣'], []⟩ "odd".toList "at <code>:٣:odd".toList ∧
    ofMessage "at <code>:٣:odd" = ⟨"at odd", 1, 1⟩ ∧
    (∀ m, m <:+ " odd\n".toList → ¬Opens m) ∧ ofMessage " odd\n" = ⟨"odd", 1, 1⟩ := by
  have hbefore : ¬"<code>:".toList <:+: "in <code>".toList := by decide +kernel
  have hmessage : "in <code><code>:3:4294967296:  odd <code>:9:1: end" =
      "in <code>" ++ s!"<code>:{3}:{4294967296}:" ++ "  odd <code>:9:1: end" := by
    decide +kernel
  have hfirst : First "at ".toList ⟨['٣'], []⟩ "odd".toList "at <code>:٣:odd".toList := by
    have hline : IsNumber ['٣'] := ⟨List.cons_ne_nil _ _, List.forall_mem_singleton.2 (by decide)⟩
    have hcolumn := number?_eq_none_iff.1 (show number? "odd".toList = none by decide +kernel)
    exact (StartsWith.withoutColumn hline hcolumn).first (by decide +kernel)
  have hnone : ∀ m, m <:+ " odd\n".toList → ¬Opens m := by
    rintro _ h ⟨line, rest, -, rfl⟩
    have hopening : ¬opening <:+: " odd\n".toList := by decide +kernel
    exact hopening ((List.prefix_append opening _).isInfix.trans h.isInfix)
  have hplace := (ofMessage_locates.2.1 "in <code>" "  odd <code>:9:1: end" 3 4294967296
    hbefore).1 _ hmessage
  refine ⟨hbefore, ?_, hfirst, ?_, hnone, ?_⟩
  · rw [hplace]
    decide +kernel
  · rw [ofMessage_locates.2.2.1 _ _ _ _ hfirst]
    decide +kernel
  · rw [ofMessage_locates.2.2.2.1 _ hnone]
    decide +kernel

end SyntaxFault

end Playpen
