/-!
# Errors of the host

What can go wrong before a program runs. A program that raises, takes too long
or exits with a status is no such error: that is an outcome of its run.
-/

namespace Playpen

/-- An error of the host. -/
inductive HostError where
  /-- The interpreter could not be downloaded. -/
  | fetch (url reason : String)
  /-- What was downloaded is no interpreter. -/
  | compile (reason : String)
  /-- The interpreter could not be linked. -/
  | startup (reason : String)
  /-- The store for downloads cannot be used. -/
  | cacheUnavailable (reason : String)
  /-- A setting or an argument makes no sense. -/
  | settings (reason : String)
  /-- A file of the store could not be read or written. -/
  | file (reason : String)
deriving DecidableEq, Repr

namespace HostError

/-- The error in words. -/
def message : HostError → String
  | .fetch url reason => "failed to fetch runtime binary from " ++ url ++ ": " ++ reason
  | .compile reason => "failed to compile runtime binary: " ++ reason
  | .startup reason => "failed to initialize runtime: " ++ reason
  | .cacheUnavailable reason => "binary cache unavailable: " ++ reason
  | .settings reason => "configuration error: " ++ reason
  | .file reason => "I/O error: " ++ reason

/-- The download failed. -/
def isFetch : HostError → Bool
  | .fetch .. => true
  | _ => false

/-- The interpreter could not be compiled. -/
def isCompile : HostError → Bool
  | .compile _ => true
  | _ => false

/-- Getting an interpreter failed, and may be tried again. -/
def isInitialization : HostError → Bool
  | .fetch .. | .compile _ | .startup _ => true
  | _ => false

/-- The error of the system behind this one. -/
def cause? : HostError → Option String
  | .file reason => some reason
  | _ => none

end HostError

end Playpen
