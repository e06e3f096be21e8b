import Playpen.Http.Domain
import Playpen.Http.Ipv4
import Playpen.Http.Ipv6

/-!
# Hosts

Who is asked at an address: a name, or an address of 32 or 128 bits. The hosts
of the web are names of domains, of which those that end in a number stand for
addresses of 32 bits; any other host is a name as it is written.
-/

namespace Playpen.Http

/-- Who is asked. -/
inductive Host where
  | name (cs : List Char)
  | ipv4 (value : Nat)
  | ipv6 (pieces : List Nat)
deriving DecidableEq, Repr

namespace Host

/-- No one in particular. -/
def absent : Host := .name []

/-- The characters that no name has in it. -/
def separators : List Char := "\x00\t\n\r #/:<>?@[\\]^|".toList

/-- Reads the name of a domain, in which bytes may be written as numbers. -/
def domain? (cs : List Char) : Option (List Char) := do
  let name ← Domain.ofText? (← Utf8.decodeStrict? (Percent.decode cs))
  if name.isEmpty then none else some name

/-- Reads what stands in brackets, with the brackets. -/
def bracketed? (cs : List Char) : Option Host :=
  if cs.getLast? = some ']' then (Ipv6.ofText? (cs.drop 1).dropLast).map .ipv6 else none

/-- Reads a host of the web. -/
def ofWeb? (cs : List Char) : Option Host :=
  if cs.head? = some '[' then bracketed? cs
  else do
    let name ← domain? cs
    if Ipv4.isMeant name then (Ipv4.ofText? name).map .ipv4 else some (.name name)

/-- Reads any other host. -/
def ofOther? (cs : List Char) : Option Host :=
  if cs.head? = some '[' then bracketed? cs
  else if cs.any separators.contains then none
  else some (.name (Percent.encode [] cs))

/-- The host as it is written. -/
def text : Host → List Char
  | .name cs => cs
  | .ipv4 value => Ipv4.text value
  | .ipv6 pieces => '[' :: Ipv6.text pieces ++ [']']

end Host

end Playpen.Http
