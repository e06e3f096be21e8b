import Playpen.Bytes.Utf8
import Playpen.Http.Domain.Mapping
import Playpen.Http.Percent
import Playpen.Text.Composition
import Playpen.Text.Direction
import Playpen.Text.Joining
import Playpen.Text.Punycode

/-!
# Domains

The name of a domain is made of labels with dots between them. A label that is not
of ASCII is written with ASCII after a mark that says so (`Domain.mark`), and every
name that can be read in two ways is refused: its characters have to be in their
normal form, no label starts with a mark, joiners make a difference, and if
anything is written from the right every label keeps to one direction.
-/

namespace Playpen.Http.Domain

open Playpen.Text (split join)

/-- The characters of ASCII that no name has in it, beside those that do not
    show. -/
def separators : List Char := " #%/:<>?@[\\]^|".toList

/-- The character may stand in a name. -/
def isAllowed (c : Char) : Bool :=
  0x80 ≤ c.toNat || (0x20 < c.toNat && c.toNat < 0x7F && !separators.contains c)

/-- A label, and how it is written with ASCII. -/
structure Label where
  text : List Char
  ascii : List Char
deriving DecidableEq, Repr

/-- What the labels start with that are not of ASCII. -/
def mark : List Char := ['x', 'n', '-', '-']

/-- The number of characters that a label which is not of ASCII may have. -/
def longestText : Nat := 1000

/-- The number of characters that it may have after the mark. -/
def longestAscii : Nat := 2000

/-- Reads what stands after the mark in a label. The text has to be the normal form
    of one that is not of ASCII. -/
def unmarked? (cs : List Char) : Option (List Char) := do
  if longestAscii < cs.length then none
  else
    let text ← Text.Punycode.decode? cs
    let isNormal := text.all (fun c => mapped? c == some [c]) && Text.Composition.compose text == text
    if text.all Text.Punycode.isBasic ∨ mark.isPrefixOf text ∨ !isNormal then none else some text

/-- Reads a label whose characters are in their normal form. -/
def label? (cs : List Char) : Option Label :=
  match Text.after? mark cs with
  | some rest => (unmarked? rest).map (⟨·, cs⟩)
  | none =>
    if cs.all Text.Punycode.isBasic then some ⟨cs, cs⟩
    else if longestText < cs.length then none
    else some ⟨cs, mark ++ Text.Punycode.encode cs⟩

/-- The label can be read in one way only, if nothing is written from the right. -/
def Label.isClear (l : Label) : Bool :=
  l.text.all isAllowed && !(l.text.head?.map Text.isMark == some true)
    && Text.joinersMatter [] l.text

/-- Reads a name: how it is written with ASCII. -/
def ofText? (cs : List Char) : Option (List Char) := do
  let text := Text.Composition.compose (← cs.mapM mapped?).flatten
  let labels ← (split '.' text).mapM label?
  let isClear := labels.all Label.isClear
  let isDirected := !labels.any (fun l => Text.hasRight l.text)
    || labels.all fun l => l.text.isEmpty || Text.keepsDirection l.text
  if isClear && isDirected then some (join '.' (labels.map Label.ascii)) else none

end Playpen.Http.Domain
