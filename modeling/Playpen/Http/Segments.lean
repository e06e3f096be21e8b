import Playpen.Http.Percent
import Playpen.Text.Split

/-!
# Paths of addresses

A path is read segment by segment. A segment of one dot stays where it is, one of
two dots goes up by one segment, and a dot may be written as its number. The name
of a drive, a letter with a colon or a bar, is never left upwards.
-/

namespace Playpen.Http.Segments

/-- The characters that are written as numbers in a path. -/
def escaped : List Char := " \"#<>?`\x7b\x7d".toList

/-- The number of dots in a segment that has nothing else in it. -/
def dots? : List Char → Option Nat
  | [] => some 0
  | '.' :: rest | '%' :: '2' :: 'e' :: rest | '%' :: '2' :: 'E' :: rest => (dots? rest).map (· + 1)
  | _ => none

/-- The segment names a drive. -/
def isDrive : List Char → Bool
  | [letter, mark] => letter.isAlpha && (mark == ':' || mark == '|')
  | _ => false

/-- Where two dots lead to: `done` are the segments so far, the last one
    first. -/
def up (done : List (List Char)) : List (List Char) :=
  match done with
  | [] => []
  | last :: above => if isDrive last then done else above

/-- The segments after `done` without dots. Dots at the end leave an empty
    segment there. -/
def resolve (done : List (List Char)) : List (List Char) → List (List Char)
  | [] => done.reverse
  | segment :: rest =>
    let close := fun (done : List (List Char)) => if rest.isEmpty then [] :: done else done
    match dots? segment with
    | some 1 => resolve (close done) rest
    | some 2 => resolve (close (up done)) rest
    | _ => resolve (segment :: done) rest

/-- The path of these segments, whose first one follows a slash. -/
def text (segments : List (List Char)) : List Char :=
  '/' :: Text.join '/' (segments.map (Percent.encode escaped))

/-- The segments of a path, which may start with a slash. -/
def ofText (cs : List Char) : List (List Char) :=
  resolve [] (Text.split '/' (if cs.head? = some '/' then cs.drop 1 else cs))

end Playpen.Http.Segments
