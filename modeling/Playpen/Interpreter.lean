import Playpen.Guest.Behaviour
import Playpen.HostError
import Playpen.Settings
import Playpen.Text.Quoted

/-!
# The interpreter

What was downloaded is decoded into an image (`Image`), or cannot be. An image
is loaded into an interpreter if its entry point is a function and it imports
only what the host provides; the entry point is looked at first. Starting an
interpreter can still fail: its set-up may trap, and the entry point may take
or return values.
-/

namespace Playpen

/-- What an image exports under the name of the entry point. -/
inductive Export where
  | function (parameters results : Nat)
  /-- Something that cannot be called. -/
  | other
deriving DecidableEq, Repr

/-- A decoded interpreter. -/
structure Image where
  /-- The entry point, if there is one. -/
  start? : Option Export
  /-- The first import that nothing provides: its module and its name. -/
  missing? : Option (String × String)
  /-- Setting the image up works. -/
  initializes : Bool
  /-- What it does with the arguments. -/
  run : List String → Guest.Behaviour

/-- Why a running interpreter is of no use. -/
inductive HostFault where
  /-- Setting the image up failed. -/
  | instantiation
  /-- The entry point takes or returns values. -/
  | entryPoint
  /-- The program did something that cannot be done. -/
  | trap
deriving DecidableEq, Repr

/-- The fault in words. The cause, which the engine adds in words of its own, is left out. -/
def HostFault.message : HostFault → String
  | .instantiation => "failed to instantiate runtime"
  | .entryPoint => "failed to get _start function"
  | .trap => "runtime trapped"

/-- Why bytes cannot be loaded. -/
inductive LoadFault where
  /-- They are no module. -/
  | malformed
  /-- There is no function at the entry point. -/
  | missingStart
  /-- Nothing provides an import. -/
  | unknownImport (module name : String)
deriving DecidableEq, Repr

/-- The fault as an error of the host. What the engine has to say of a malformed module, in
    words of its own, is left out. -/
def LoadFault.error : LoadFault → HostError
  | .malformed => .compile "malformed module"
  | .missingStart => .compile "module is not a WASI command: missing _start export"
  | .unknownImport module name =>
    .startup ("failed to prepare instance: unknown import: `" ++ module ++ "::" ++ name ++
      "` has not been defined")

/-- An interpreter ready to be started, any number of times. -/
structure Interpreter where
  image : Image
  /-- What stands before the prelude in the arguments. -/
  arguments : List String
  /-- How much of each stream is kept. -/
  capacity : Nat

namespace Interpreter

/-- Loads what the bytes were decoded into. -/
def load (settings : Settings) (decoded? : Option Image) : Except LoadFault Interpreter :=
  match decoded? with
  | none => .error .malformed
  | some image =>
    match image.start?, image.missing? with
    | some (.function ..), none =>
      .ok ⟨image, settings.interpreterArguments, settings.maxOutputBytes⟩
    | some (.function ..), some (module, name) => .error (.unknownImport module name)
    | _, _ => .error .missingStart

/-- What starting the interpreter does. -/
def start (i : Interpreter) (args : List String) : Except HostFault Guest.Behaviour :=
  if !i.image.initializes then .error .instantiation
  else if i.image.start? = some (.function 0 0) then .ok (i.image.run args)
  else .error .entryPoint

/-- The part of the settings that an interpreter has, as fields of a record. -/
def inspectOptions (arguments : List String) (capacity : Nat) : List (String × String) :=
  [("interpreter_args", Text.listed (arguments.map Text.quoted)),
   ("max_output_bytes", toString capacity)]

/-- The interpreter as a value in diagnostics. -/
def inspect (i : Interpreter) : String :=
  Text.record "RuntimeHandle"
    (("engine", Text.record "SharedEngine" [("engine", Text.quoted "<wasmtime::Engine>")]) ::
      inspectOptions i.arguments i.capacity)

/-- What loads interpreters with these settings, as a value in diagnostics. -/
def inspectLoader (settings : Settings) : String :=
  Text.record "RuntimeLoader"
    (inspectOptions settings.interpreterArguments settings.maxOutputBytes)

end Interpreter

end Playpen
