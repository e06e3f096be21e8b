import Playpen.Duration
import Playpen.Text.Numeral
import Playpen.Text.Space

/-!
# Settings

Where the interpreter comes from, where it is kept, and what bounds a run. Some of
the settings are chosen, and the others are as by default (`Choices.settings`). The
environment overrides four of them (`Settings.ofEnvironment`), each by a variable of
its own, and values that make no sense are passed over.
-/

namespace Playpen

/-- The settings of a runner, with what holds if nothing else is said. -/
structure Settings where
  /-- Where the interpreter is downloaded from. -/
  binaryUrl : String :=
    "https://cdn.jsdelivr.net/npm/@ruby/3.4-wasm-wasi@2.7.1/dist/ruby+stdlib.wasm"
  /-- The name of the store for downloads. -/
  cacheName : String := "ruby-wasm-runner-cache-v1"
  /-- The directory of the stores, if not the platform's. -/
  cacheDir? : Option String := none
  /-- Downloads are kept at all. -/
  cacheEnabled : Bool := true
  /-- The limit of runs that set none. -/
  defaultTimeout : Duration := .ofMillis 60000
  /-- How much of each stream is kept. -/
  maxOutputBytes : Nat := 1048576
  /-- Runs over their limit are stopped, not only left alone. -/
  interruptOnTimeout : Bool := true
  /-- What stands before the prelude in the arguments. -/
  interpreterArguments : List String := ["ruby", "--disable-gems", "-EUTF-8"]
deriving DecidableEq, Repr

namespace Settings

/-- What holds if nothing else is said. -/
def default : Settings := { }

/-- The variables of the environment that override settings. -/
inductive Variable where
  | binaryUrl
  | cacheDir
  | noCache
  | timeoutMillis
deriving DecidableEq, Repr

/-- The name of the variable. -/
def Variable.name : Variable → String
  | .binaryUrl => "RUBY_WASM_RUNNER_BINARY_URL"
  | .cacheDir => "RUBY_WASM_RUNNER_CACHE_DIR"
  | .noCache => "RUBY_WASM_RUNNER_NO_CACHE"
  | .timeoutMillis => "RUBY_WASM_RUNNER_TIMEOUT_MS"

/-- The text without the spaces around it, unless that is nothing. -/
def nonBlank? (text : List Char) : Option String :=
  if Text.isBlank text then none else some (String.ofList (Text.trim text))

/-- A letter of ASCII in lower case. -/
def lowerAscii (c : Char) : Char :=
  if 'A' ≤ c ∧ c ≤ 'Z' then Char.ofNat (c.toNat + 32) else c

/-- The text asks for something to be switched on: `1`, or `true` in any
    case. -/
def isAffirmative (text : List Char) : Bool :=
  let text := Text.trim text
  text == ['1'] || text.map lowerAscii == "true".toList

/-- A whole number of milliseconds from 1 to what 64 bits hold. -/
def positiveMillis? (text : List Char) : Option Duration :=
  match Numeral.readNat 0xFFFFFFFFFFFFFFFF (Text.trim text) with
  | .ok n => if n = 0 then none else some (.ofMillis n)
  | .error _ => none

end Settings

/-- Which of the settings were chosen. -/
structure Choices where
  binaryUrl? : Option String := none
  cacheName? : Option String := none
  cacheDir? : Option String := none
  cacheEnabled? : Option Bool := none
  defaultTimeout? : Option Duration := none
  maxOutputBytes? : Option Nat := none
  interruptOnTimeout? : Option Bool := none
  interpreterArguments? : Option (List String) := none
deriving DecidableEq, Repr

namespace Choices

open Settings

/-- The settings as they were chosen, and as by default where they were not. -/
def settings (c : Choices) : Settings :=
  { binaryUrl := c.binaryUrl?.getD default.binaryUrl
    cacheName := c.cacheName?.getD default.cacheName
    cacheDir? := c.cacheDir?.or default.cacheDir?
    cacheEnabled := c.cacheEnabled?.getD default.cacheEnabled
    defaultTimeout := c.defaultTimeout?.getD default.defaultTimeout
    maxOutputBytes := c.maxOutputBytes?.getD default.maxOutputBytes
    interruptOnTimeout := c.interruptOnTimeout?.getD default.interruptOnTimeout
    interpreterArguments := c.interpreterArguments?.getD default.interpreterArguments }

/-- Chooses what a variable with that value overrides. What makes no sense changes
    nothing. -/
def override (c : Choices) (text : List Char) : Variable → Choices
  | .binaryUrl => { c with binaryUrl? := (nonBlank? text).or c.binaryUrl? }
  | .cacheDir => { c with cacheDir? := (nonBlank? text).or c.cacheDir? }
  | .noCache =>
    if isAffirmative text then { c with cacheEnabled? := some false } else c
  | .timeoutMillis => { c with defaultTimeout? := (positiveMillis? text).or c.defaultTimeout? }

/-- Looks a variable up in the environment by its name. It may not be set. -/
def consult (env : String → Option String) (c : Choices) (v : Variable) : Choices :=
  match env v.name with
  | some value => c.override value.toList v
  | none => c

end Choices

namespace Settings

/-- The default settings with those that the environment overrides. -/
def ofEnvironment (env : String → Option String) : Settings :=
  let consulted := [.binaryUrl, .cacheDir, .noCache, .timeoutMillis].foldl
    (Choices.consult env) {}
  consulted.settings

end Settings

end Playpen
