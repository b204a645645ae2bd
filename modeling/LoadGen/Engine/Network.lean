import LoadGen.Net.SocketAddress
import LoadGen.Url

namespace LoadGen

/-!
# Networks

What engines find when they turn to the outside.  A network is a value, so that an engine is a function
of it.

* `Network` — the answers of a network;
* `Network.offline` — the network of a machine that reaches nothing.
-/

/-- How a request ends. -/
inductive RequestEnd where
  /-- With a status, after the whole answer was read. -/
  | answered (status : Nat)
  /-- With what there is to report about its failure. -/
  | failed (cause : String)
  deriving DecidableEq, Repr

/-- The answers of a network.  Failures are texts of the operating system or the client library. -/
structure Network where
  /-- How the request with a number ends that is sent to an address. -/
  request : Url → Nat → RequestEnd
  /-- How many headers its connection adds to the request with a number that is sent to an address.  There
      are none without a connection. -/
  added : Url → Nat → Nat
  /-- The first address of a host with a port. -/
  lookup : String → Nat → Except String (Option Net.SocketAddress)
  /-- A socket is bound to a target. -/
  connect : Net.SocketAddress → Except String Unit
  /-- A datagram of some size is sent. -/
  send : Nat → Except String Unit

namespace Network

/-- What is reported when there is no way to an address. -/
def unreachable : String := "Network is unreachable (os error 101)"

/-- The only name that a machine without a network knows. -/
def ownName : String := "localhost"

/-- The name that stands for no name. -/
def anyName : String := "*"

/-- What is reported when nobody is there who could know a name. -/
def unknownName (name : String) : String :=
  "failed to lookup address information: " ++
    if name = anyName then "Name or service not known" else "Temporary failure in name resolution"

/-- Why no connection to a host comes about. -/
def offlineCause : Host → String
  | .domain name =>
    if name = ownName then "tcp connect error: " ++ unreachable else "dns error: " ++ unknownName name
  | .ipv4 _ | .ipv6 _ => "tcp connect error: " ++ unreachable

/-- The network of a machine that reaches nothing. -/
def offline : Network where
  request url _ :=
    .failed (s!"error sending request for url ({url.shown}): error trying to connect: " ++
      offlineCause url.host)
  added _ _ := 0
  lookup name port :=
    if name = ownName then .ok (some (.v4 (.ofBytes 127 0 0 1) port)) else .error (unknownName name)
  connect _ := .error unreachable
  send _ := .error unreachable

end Network

end LoadGen
