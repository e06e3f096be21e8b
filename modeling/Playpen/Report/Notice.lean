import Playpen.Report

/-!
# Writing reports

The guest's side of the report line: what the prelude has to say (`Notice`),
the line it writes for it (`Notice.line`), and what the host is to make of it
(`Notice.report`).
-/

namespace Playpen.Report

/-- What the prelude knows of an exception. -/
structure Particulars where
  className : String
  ancestors : List String
  message : String
  backtrace : List String
deriving DecidableEq, Repr

/-- What the prelude has to say. -/
inductive Notice where
  | completed
  | exited (status : Int32)
  | raised (p : Particulars)
  | rejected (p : Particulars)
deriving DecidableEq

namespace Particulars

/-- The exception that the host is told of. -/
def exception (p : Particulars) : Exception :=
  .ofReport p.className p.ancestors p.message p.backtrace

/-- The four fields, each with a colon before it. -/
def fields (p : Particulars) : List Char :=
  let list := fun (items : List String) => Text.join '\n' (items.map String.toList)
  [p.className.toList, list p.ancestors, p.message.toList, list p.backtrace].flatMap fun field =>
    ':' :: Base64.encode (Utf8.encode field)

end Particulars

namespace Notice

/-- The report that the host is to read. -/
def report : Notice → Report
  | .completed => .completed
  | .exited status => .exited status
  | .raised p => .raised p.exception
  | .rejected p => .rejected p.exception

/-- What the prelude writes after the marker. -/
def body : Notice → List Char
  | .completed => "ok".toList
  | .exited status => "exit:".toList ++ (toString status.toInt).toList
  | .raised p => "raise".toList ++ p.fields
  | .rejected p => "syntax".toList ++ p.fields

/-- The whole line without the newline that ends it. -/
def line (n : Notice) : List Char := marker ++ n.body

end Notice

end Playpen.Report
