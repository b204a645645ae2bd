import LoadGen.Net.Ip
import LoadGen.Number.Word

namespace LoadGen.Net

/-!
# Socket addresses

An internet address with a port, and with a scope where the address is of version six.

* `SocketAddress.ofText?` — reads an address;
* `SocketAddress.ofHost?` — the address of a host that needs no looking up;
* `SocketAddress.shown` — its canonical written form.
-/

/-- An internet address with a port. -/
inductive SocketAddress where
  | v4 (ip : Ipv4) (port : Nat)
  | v6 (ip : Ipv6) (scope port : Nat)
  deriving DecidableEq

namespace SocketAddress

/-- The canonical written form.  A scope of zero is left out. -/
def shown : SocketAddress → String
  | v4 ip port => s!"{ip.shown}:{port}"
  | v6 ip scope port =>
    let scopeText := if scope = 0 then "" else s!"%{scope}"
    s!"[{ip.shown}{scopeText}]:{port}"

/-- A port after its colon, at the beginning of a text. -/
def readPort? (cs : List Char) : Option (Nat × List Char) := do
  readNumber? 10 65536 none true (← expect? ':' cs)

/-- A scope after its percent sign, or zero where there is none. -/
def readScope? (cs : List Char) : Option (Nat × List Char) :=
  match expect? '%' cs with
  | some body => readNumber? 10 halfWordCount none true body
  | none => some (0, cs)

/-- An address of version four with its port. -/
def readV4? (cs : List Char) : Option (SocketAddress × List Char) := do
  let (ip, cs) ← readIpv4? cs
  let (port, cs) ← readPort? cs
  return (v4 ip port, cs)

/-- A bracketed address of version six with its port. -/
def readV6? (cs : List Char) : Option (SocketAddress × List Char) := do
  let (ip, cs) ← readIpv6? (← expect? '[' cs)
  let (scope, cs) ← readScope? cs
  let (port, cs) ← readPort? (← expect? ']' cs)
  return (v6 ip scope port, cs)

/-- The address of a host that is written as an internet address in any notation. -/
def ofHost? (host : String) (port : Nat) : Option SocketAddress :=
  match readNumeralIpv4? host with
  | some ip => some (v4 ip port)
  | none => do
    let (ip, rest) ← readIpv6? host.toList
    let (scope, rest) ← readScope? rest
    if rest.isEmpty then some (v6 ip scope port) else none

/-- The address that a whole text is. -/
def ofText? (s : String) : Option SocketAddress :=
  match (readV4? s.toList).orElse fun _ => readV6? s.toList with
  | some (address, []) => some address
  | _ => none

end SocketAddress

end LoadGen.Net
