import Playpen.HostError
import Playpen.Http.Status
import Playpen.Http.Url

/-!
# Downloading over HTTP

What comes of asking for a document (`Http.fetch`): its bytes, or the reason why
there are none. The address is looked at before anything is sent, then the
server has to answer, then the status has to be one of success, and then the
whole body has to arrive. Who asks is sent apart from the address, so it is not
part of the address in any fault.
-/

namespace Playpen.Http

/-- A server's answer. -/
structure Response where
  status : Nat := 200
  body : Bytes := []
  /-- The length that is announced for the body, if not its own. -/
  declaredLength? : Option Nat := none
deriving DecidableEq, Repr

/-- What happens to a request that is sent. -/
inductive Exchange where
  /-- No one answers, or hangs up before answering. -/
  | unanswered
  | answered (r : Response)
deriving DecidableEq, Repr

/-- Why there is no document. -/
inductive Fault where
  /-- The text is no address. -/
  | noUrl
  /-- No document can be asked for at the address. -/
  | notRequestable (u : Url)
  | unanswered (u : Url)
  | status (code : Nat)
  /-- The body ended too soon. -/
  | brokenBody
deriving DecidableEq, Repr

/-- The fault in words. -/
def Fault.message : Fault → String
  | .noUrl => "builder error"
  | .notRequestable u => "builder error for url (" ++ String.ofList u.text ++ ")"
  | .unanswered u => "error sending request for url (" ++ String.ofList u.text ++ ")"
  | .status code => "HTTP " ++ describeStatus code
  | .brokenBody => "error decoding response body"

/-- The body as it arrives: as much as was announced, or nothing if it is too
    short for that. -/
def Response.received? (r : Response) : Option Bytes :=
  if isBodiless r.status then some []
  else
    let length := r.declaredLength?.getD r.body.length
    if r.body.length < length then none else some (r.body.take length)

/-- Asks for a document: `send` is what happens to the request. -/
def fetch (send : Url → Exchange) (address : String) : Except Fault Bytes :=
  match Url.ofText? address with
  | none => .error .noUrl
  | some u =>
    let u := u.withoutUser
    if !u.isRequestable then .error (.notRequestable u)
    else match send u with
      | .unanswered => .error (.unanswered u)
      | .answered r =>
        if !isSuccess r.status then .error (.status r.status)
        else match r.received? with
          | some bytes => .ok bytes
          | none => .error .brokenBody

/-- The same with a fault as an error of the host, which names the address. -/
def download (send : Url → Exchange) (address : String) : Except HostError Bytes :=
  (fetch send address).mapError fun why => .fetch address why.message

end Playpen.Http
