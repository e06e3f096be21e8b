import Playpen.Diagnostics
import Playpen.Duration
import Playpen.Evaluation

/-!
# Outcomes of runs

What the caller of a run is told: what the program printed, and why the run did
not succeed if it did not. The message shown to the learner is made from the
failure (`Failure.message`), so the two never disagree.

`Outcome.ofEnding` decides between the failures. An interrupted run is over its
limit and whatever it printed is dropped. Of the others, a stream that is full
comes first, then a program that could not be run; then the closing report says
how the program ended, whatever its exit status was, and only without a report
does the status count.
-/

namespace Playpen

/-- Why a run did not succeed. -/
inductive Failure where
  /-- The program raised an exception. -/
  | guest (e : Exception)
  /-- The run took longer than allowed. -/
  | timedOut (limit : Duration)
  /-- The program ended with a status other than zero. -/
  | exited (status : Int32)
  /-- The program printed more than is kept. -/
  | outputLimitExceeded (limit : Nat)
  /-- The program could not be run. -/
  | host (reason : String)
deriving DecidableEq

/-- The message shown to the learner. -/
def Failure.message : Failure → String
  | .guest e => e.describe
  | .timedOut limit =>
    "Execution timed out after " ++ limit.describe ++ ". Your code may have an infinite loop."
  | .exited status => s!"Program exited with status {status.toInt}"
  | .outputLimitExceeded limit =>
    s!"Output limit exceeded: the program printed more than {limit} bytes."
  | .host reason => "Internal Error: " ++ reason

/-- What a run comes to. -/
structure Outcome where
  /-- What the program printed, up to a failure too. -/
  output : String
  failure? : Option Failure
deriving DecidableEq

namespace Outcome

/-- The program ran to its end. -/
def success (output : String) : Outcome := ⟨output, none⟩

/-- The program printed something and then the run failed. -/
def failed (output : String) (f : Failure) : Outcome := ⟨output, some f⟩

/-- The run was given up after `limit`. -/
def timedOut (limit : Duration) : Outcome := failed "" (.timedOut limit)

/-- The message shown to the learner, if the run did not succeed. -/
def error? (o : Outcome) : Option String := o.failure?.map Failure.message

/-- The program ran to its end. -/
def isSuccess (o : Outcome) : Bool := o.failure?.isNone

/-- The run was given up. -/
def isTimeout (o : Outcome) : Bool :=
  match o.failure? with
  | some (.timedOut _) => true
  | _ => false

/-- The exception that the program raised. -/
def exception? (o : Outcome) : Option Exception :=
  match o.failure? with
  | some (.guest e) => some e
  | _ => none

/-- Why the run failed, from the closing report or for want of one from the
    exit status and the text before it. -/
def failureOfReport? (d : Diagnostics) (status : Int32) : Option Failure :=
  match d.report? with
  | some (.ok (.raised e)) => some (.guest e)
  | some (.ok .completed) => none
  | some (.ok (.exited n)) => if n = 0 then none else some (.exited n)
  | some (.ok (.rejected e)) =>
    some (.host ("unexpected guest report: " ++ (Report.rejected e).inspect))
  | some (.error why) => some (.host ("unreadable guest error report: " ++ why.message))
  | none =>
    if status = 0 then none
    else
      let text := Text.trim d.text.toList
      if text.isEmpty then some (.exited status)
      else some (.host
        (s!"interpreter exited with status {status.toInt}: " ++ String.ofList text))

/-- What a run with this limit comes to that ended so and left these streams.
    Text that the program wrote to its error stream follows its output. -/
def ofEnding (limit : Duration) (ending : Ending) (s : Streams) : Outcome :=
  let d := Diagnostics.ofText s.diagnostics.text
  let output := s.output.text ++ d.text
  match ending with
  | .interrupted => timedOut limit
  | .exited status =>
    if s.overflowed then failed output (.outputLimitExceeded s.output.capacity)
    else ⟨output, failureOfReport? d status⟩
  | .failed why =>
    if s.overflowed then failed output (.outputLimitExceeded s.output.capacity)
    else failed output (.host why.message)

end Outcome

end Playpen
