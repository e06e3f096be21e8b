import Playpen.Bytes.Utf8
import Playpen.Text.Split

/-!
# Input of a program

What a program is given to read: lines, each of which it gets with a newline
behind it. Once they are used up it has reached the end of its input.
-/

namespace Playpen

/-- The lines that a program may read, in order. -/
structure Input where
  lines : List String
deriving DecidableEq, Repr

namespace Input

/-- Nothing to read. -/
def none : Input := ⟨[]⟩

/-- The lines of a text. A newline at the end of the text starts no further
    line, and one carriage return before the end of a line is not part of
    it. -/
def ofText (text : String) : Input :=
  let cs := text.toList
  if cs.isEmpty then none
  else
    let body := if cs.getLast? = some '\n' then cs.dropLast else cs
    ⟨(Text.split '\n' body).map fun line => String.ofList (Text.dropReturn line)⟩

/-- What the program reads. -/
def text (input : Input) : List Char := input.lines.flatMap fun line => line.toList ++ ['\n']

/-- What the program reads, as bytes. -/
def bytes (input : Input) : Bytes := Utf8.encode input.text

end Input

end Playpen
