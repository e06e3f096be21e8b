import Playpen.BinaryCache
import Playpen.Interpreter

/-!
# Getting an interpreter

A binary from the store is loaded first. If it does not load it is dropped and
downloaded anew, so that what is in the store can never keep the interpreter
from being had: only a download, or what was downloaded, can fail. A download
takes its time, so getting an interpreter has two halves, before the network
is asked (`Bootstrap.begin`) and after it has answered (`Bootstrap.complete`).
Loading takes its time too, which divides the first half: the store is asked,
and what it holds is then considered (`Bootstrap.consider`).
-/

namespace Playpen.Bootstrap

variable {σ : Type}

/-- What turns bytes into an interpreter. -/
abbrev Loader := Bytes → Except LoadFault Interpreter

/-- Loads what was found in the store, and drops it if it does not load. -/
def consider [Store σ] (load : Loader) (url : String) (c : BinaryCache σ)
    (found? : Option Bytes) : BinaryCache σ × Option Interpreter :=
  match found? with
  | none => (c, none)
  | some bytes =>
    match load bytes with
    | .ok i => (c, some i)
    | .error _ => (c.evict url, none)

/-- Looks for a binary in the store that loads. -/
def begin [Store σ] (load : Loader) (url : String) (c : BinaryCache σ) :
    BinaryCache σ × Option Interpreter :=
  let (c, found?) := c.seek url
  consider load url c found?

/-- Loads what the network answered. -/
def complete (load : Loader) (url : String) (c : BinaryCache σ)
    (answer : Except HostError Bytes) : BinaryCache σ × Except HostError Interpreter :=
  match c.receive url answer with
  | (c, .error e) => (c, .error e)
  | (c, .ok bytes) => (c, (load bytes).mapError LoadFault.error)

/-- Both halves, with what the network answers if it is asked. -/
def run [Store σ] (load : Loader) (url : String) (c : BinaryCache σ)
    (answer : Except HostError Bytes) : BinaryCache σ × Except HostError Interpreter :=
  match begin load url c with
  | (c, some i) => (c, .ok i)
  | (c, none) => complete load url (c.request url) answer

end Playpen.Bootstrap
