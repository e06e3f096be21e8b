import Playpen.Bytes.Base64
import Playpen.Exception
import Playpen.Text.Numeral
import Playpen.Text.Quoted
import Playpen.Text.Split

/-!
# Reports

The line with which the guest's prelude says how the program ended, after the
marker:

* `ok`: the source was compiled or ran to its end;
* `exit:` and the status: the program asked to exit;
* `raise:` or `syntax:` and four fields: the program raised, or the source was
  not compiled. The fields are the class, its ancestors, the message and the
  backtrace, encoded in base64 and separated by colons; the ancestors and the
  calls of the backtrace each stand on a line of their field.

Everything else is a report that cannot be read, for the reason in
`Report.Fault`.
-/

namespace Playpen

/-- How the guest's prelude says that the program ended. -/
inductive Report where
  /-- The source was compiled, or ran to its end. -/
  | completed
  /-- The program asked to exit with a status. -/
  | exited (status : Int32)
  /-- The program raised an exception. -/
  | raised (e : Exception)
  /-- The source was not compiled. -/
  | rejected (e : Exception)
deriving DecidableEq

namespace Report

/-- Why a report cannot be read. -/
inductive Fault where
  /-- The exit status is no number. -/
  | badStatus (status : String) (why : Numeral.Fault)
  /-- A field is not encoded as it should be. -/
  | badField (kind : String) (why : Base64.Fault)
  /-- There are not four fields. -/
  | fieldCount (found : Nat)
  /-- Four good fields, but of no known kind. -/
  | unknownKind (kind : String)
deriving DecidableEq, Repr

/-- The fault in words, from the outermost cause to the innermost. -/
def Fault.message : Fault → String
  | .badStatus status why => "bad exit status " ++ Text.quoted status ++ ": " ++ why.message
  | .badField kind why =>
    "malformed " ++ Text.quoted kind ++ " report: report field is not base64: " ++ why.message
  | .fieldCount found => s!"expected 4 report fields, found {found}"
  | .unknownKind kind => "unknown report kind " ++ Text.quoted kind

/-- Starts the line that is a report. -/
def marker : List Char := "\x1erbrun:".toList

/-- The lines of a field that hold a list, without the empty ones. -/
def items (field : List Char) : List String :=
  ((Text.lines field).filter fun line => !line.isEmpty).map String.ofList

/-- The fields' texts, or the fault of the first that is not encoded. -/
def readFields : List (List Char) → Except Base64.Fault (List (List Char))
  | [] => .ok []
  | field :: fields => do
    let bytes ← Base64.decode field
    let rest ← readFields fields
    return Utf8.decode bytes :: rest

/-- The exception in four fields. -/
def readException (className ancestors message backtrace : List Char) : Exception :=
  .ofReport (String.ofList className) (items ancestors) (String.ofList message) (items backtrace)

/-- Reads what follows the marker. -/
def read (body : List Char) : Except Fault Report :=
  let parts := Text.split ':' body
  let kind := parts.headD []
  let fields := parts.tail
  if kind = "ok".toList then .ok .completed
  else if kind = "exit".toList then
    let status := fields.headD []
    match Numeral.readInt32 status with
    | .ok n => .ok (.exited n)
    | .error why => .error (.badStatus (String.ofList status) why)
  else match readFields fields with
    | .error why => .error (.badField (String.ofList kind) why)
    | .ok [className, ancestors, message, backtrace] =>
      let e := readException className ancestors message backtrace
      if kind = "raise".toList then .ok (.raised e)
      else if kind = "syntax".toList then .ok (.rejected e)
      else .error (.unknownKind (String.ofList kind))
    | .ok texts => .error (.fieldCount texts.length)

/-- The exception as a record of its fields. -/
def inspectException (e : Exception) : String :=
  Text.record "GuestError"
    [("class_name", Text.quoted e.className), ("message", Text.quoted e.message),
     ("backtrace", Text.listed (e.backtrace.map Text.quoted)), ("kind", e.category.name)]

/-- The report as a value in diagnostics. -/
def inspect : Report → String
  | .completed => "Accepted"
  | .exited status => s!"Exited({status.toInt})"
  | .raised e => "Raised(" ++ inspectException e ++ ")"
  | .rejected e => "Syntax(" ++ inspectException e ++ ")"

end Report

end Playpen
