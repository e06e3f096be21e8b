import Playpen.Report

/-!
# Diagnostics

What the interpreter wrote to its error stream: text of the program and, on the
last line, the prelude's report. Only the last line counts, looking past the
line ends after it; a marker anywhere else was written by the program and stays
text.

The text is divided at the start of its last line. `cut?` does so at a position
counted in bytes, as a text in UTF-8 is cut, and finds out whether there is a
character at that position.
-/

namespace Playpen

/-- The program's text and the report after it. -/
structure Diagnostics where
  text : String
  /-- There is none if the last line does not start with the marker. -/
  report? : Option (Except Report.Fault Report)

namespace Diagnostics

/-- Ends lines, on its own or with others. -/
def isLineEnd (c : Char) : Bool := c == '\n' || c == '\r'

/-- The text before the closing report and what follows its marker, or all of
    it if there is no such report. -/
def splitClosing (raw : List Char) : List Char × Option (List Char) :=
  let body := Text.dropEndWhile isLineEnd raw
  match Text.after? Report.marker (Text.takeEndWhile (· != '\n') body) with
  | some report => (Text.dropEndWhile (· != '\n') body, some report)
  | none => (raw, none)

/-- Splits off the closing report. -/
def ofText (raw : String) : Diagnostics :=
  let parts := splitClosing raw.toList
  { text := String.ofList parts.1, report? := parts.2.map Report.read }

/-- The text without the line ends behind it. -/
def trimmed (raw : String) : String := String.ofList (Text.dropEndWhile isLineEnd raw.toList)

/-- The byte with which the last newline starts, in a text that starts with the
    byte `here`. -/
def lastNewline? (here : String.Pos.Raw) : List Char → Option String.Pos.Raw
  | [] => none
  | c :: cs => (lastNewline? (here + c) cs).or (if c = '\n' then some here else none)

/-- The byte with which the last line starts. -/
def lineStart (s : String) : String.Pos.Raw := ((lastNewline? 0 s.toList).map (·.inc)).getD 0

/-- Splits off the closing report by positions counted in bytes. Nothing comes of
    it if one of them is beyond the text or within a character. -/
def cut? (raw : String) : Option Diagnostics := do
  let start := lineStart (trimmed raw)
  let line ← (trimmed raw).pos? start
  match Text.after? Report.marker ((trimmed raw).sliceFrom line).copy.toList with
  | some report =>
    let place ← raw.pos? start
    return ⟨(raw.sliceTo place).copy, some (Report.read report)⟩
  | none => return ⟨raw, none⟩

end Diagnostics

end Playpen
