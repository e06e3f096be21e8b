import Playpen.Arguments
import Playpen.Diagnostics
import Playpen.Evaluation
import Playpen.Text.Digit

/-!
# Checking syntax

A source is checked by having the interpreter compile it without running it. If
anything stands in the way, from a missing interpreter to a report that cannot
be read, the source counts as valid, so that no error is shown that the
interpreter did not find.

The interpreter says where the error is in its message: the name of the source,
the line and perhaps the column, each followed by a colon. The first such place
is cut out of the message (`Location.find?`).
-/

namespace Playpen

/-- Where and why a source is not valid. -/
structure SyntaxFault where
  message : String
  /-- Counts from 1. -/
  line : Nat
  /-- Counts from 1, and is 1 if it is not known. -/
  column : Nat
deriving DecidableEq, Repr

/-- What a check comes to. -/
inductive SyntaxVerdict where
  /-- No error was found, or the check could not be made. -/
  | valid
  | invalid (f : SyntaxFault)
deriving DecidableEq, Repr

/-- The error that was found. -/
def SyntaxVerdict.fault? : SyntaxVerdict → Option SyntaxFault
  | .valid => none
  | .invalid f => some f

/-- A place in a source as a message names it, with the digits as they
    stand. -/
structure Location where
  line : List Char
  column : List Char
deriving DecidableEq, Repr

namespace Location

/-- Digits of any script, at least one, and a colon, with what follows them. -/
def number? (cs : List Char) : Option (List Char × List Char) :=
  let digits := cs.takeWhile Text.isDecimalDigit
  match digits, cs.dropWhile Text.isDecimalDigit with
  | _ :: _, ':' :: rest => some (digits, rest)
  | _, _ => none

/-- The name of the source before a line number. -/
def opening : List Char := Arguments.sourceName.toList ++ [':']

/-- A place that the text starts with, and what follows it and the spaces
    after it. -/
def atStart? (cs : List Char) : Option (Location × List Char) := do
  let rest ← Text.after? opening cs
  let (line, rest) ← number? rest
  let (column, rest) := (number? rest).getD ([], rest)
  return (⟨line, column⟩, Text.trimStart rest)

/-- The first place in a text, with what stands before and after it. -/
def find? : List Char → Option (List Char × Location × List Char)
  | [] => none
  | c :: cs =>
    match atStart? (c :: cs) with
    | some (place, rest) => some ([], place, rest)
    | none => (find? cs).map fun (before, place, rest) => (c :: before, place, rest)

/-- The number of a line or a column: 1 if it is not a number from 1 to what 32
    bits hold. -/
def position (digits : List Char) : Nat :=
  match Numeral.readNat 0xFFFFFFFF digits with
  | .ok n => if n = 0 then 1 else n
  | .error _ => 1

end Location

namespace SyntaxFault

/-- The error that a message of the interpreter tells of. Without a place it is
    put at the start of the source. -/
def ofMessage (message : String) : SyntaxFault :=
  let cs := message.toList
  match Location.find? cs with
  | none => ⟨String.ofList (Text.trim cs), 1, 1⟩
  | some (before, place, after) =>
    -- A message that is nothing but a place is shown with it.
    let rest := Text.trim (before ++ after)
    ⟨String.ofList (if rest.isEmpty then Text.trim cs else rest),
      Location.position place.line, Location.position place.column⟩

end SyntaxFault

namespace SyntaxCheck

/-- The evaluation of a check before anything has happened. -/
def prepare (i : Interpreter) (source : String) : Evaluation :=
  .create 0 (i.start (Arguments.check i.arguments source)) (.ofInput .none i.capacity) false

/-- What a check comes to whose evaluation ended so and left these streams. -/
def verdictOf (ending : Ending) (s : Streams) : SyntaxVerdict :=
  match ending with
  | .exited _ =>
    match (Diagnostics.ofText s.diagnostics.text).report? with
    | some (.ok (.rejected e)) => .invalid (.ofMessage e.message)
    | _ => .valid
  | .interrupted | .failed _ => .valid

/-- The evaluation of a check. -/
def evaluation (i : Interpreter) (source : String) : Evaluation :=
  (prepare i source).runWithin none

/-- Checks a source, if there is an interpreter to do it. Whoever asks waits for
    the interpreter, which may come to no end; then the check comes to nothing. -/
def run (interpreter? : Option Interpreter) (source : String) : Option SyntaxVerdict :=
  match interpreter? with
  | none => some .valid
  | some i =>
    if Text.isBlank source.toList || !Arguments.isPassable source then some .valid
    else
      let e := evaluation i source
      e.ending?.map fun ending => verdictOf ending e.streams

end SyntaxCheck

end Playpen
