import Playpen.Text.Hidden

/-!
# Quoted text

How texts, lists and records of values are shown in diagnostics: a text between
double quotes with what cannot be shown escaped, a list between brackets, and a
record as its name followed by its fields between braces.
-/

namespace Playpen.Text

/-- The character's number in lower-case hexadecimal, marked as such. -/
def numbered (c : Char) : List Char :=
  "\\u\x7b".toList ++ Nat.toDigits 16 c.toNat ++ ['\x7d']

/-- The character as it stands in quoted text. -/
def escape (c : Char) : List Char :=
  if c = '\t' then "\\t".toList
  else if c = '\r' then "\\r".toList
  else if c = '\n' then "\\n".toList
  else if c = '"' then "\\\"".toList
  else if c = '\\' then "\\\\".toList
  else if c = '\x00' then "\\0".toList
  else if isHidden c then numbered c
  else [c]

/-- The text between double quotes, escaped. -/
def quoted (s : String) : String :=
  String.ofList ('"' :: s.toList.flatMap escape ++ ['"'])

/-- Values that are already written, as a list. -/
def listed (items : List String) : String :=
  "[" ++ String.intercalate ", " items ++ "]"

/-- A record of fields whose values are already written. -/
def record (name : String) (fields : List (String × String)) : String :=
  name ++ " \x7b " ++ String.intercalate ", " (fields.map fun f => f.1 ++ ": " ++ f.2) ++ " \x7d"

end Playpen.Text
