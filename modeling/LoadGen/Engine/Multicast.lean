import LoadGen.Config
import LoadGen.Engine.Call
import LoadGen.Engine.Network
import LoadGen.Text.Integer

namespace LoadGen

/-!
# Multicast engines

An engine that sends datagrams of one size to a group, or to any other socket address.  An operation is
one datagram.

* `MulticastEngine.ofConfig` — the engine of a configuration;
* `MulticastEngine.build` — the same, where there is memory for a datagram;
* `MulticastEngine.resolve` — the address of its group;
* `MulticastEngine.call` — its answer to a call in a network.
-/

/-- The most bytes that fit into a datagram. -/
def datagramLimit : Nat := 65507

/-- An engine that sends datagrams to one address. -/
structure MulticastEngine where
  group : String
  /-- Bytes of a datagram. -/
  size : Nat

namespace MulticastEngine

/-- The engine of a configuration. -/
def ofConfig (config : RunConfig) : MulticastEngine :=
  { group := config.host, size := config.options.dataSize.toNat }

/-- The engine of a configuration, if there can be such datagrams. -/
def build (config : RunConfig) : Except Fault MulticastEngine := do
  checkBuffer config.options.dataSize.toNat
  return ofConfig config

/-- What the engine says of itself. -/
def describe (e : MulticastEngine) : String :=
  s!"Multicast engine\n  group: {e.group}\n  datagram bytes: {e.size}"

/-- The host and the port of a text: what stands before and behind its last colon. -/
def splitPort? (group : String) : Option (String × List Char) :=
  let port := group.toList.reverse.takeWhile (· != ':')
  match group.toList.reverse.dropWhile (· != ':') with
  | _ :: host => some (String.ofList host.reverse, port.reverse)
  | [] => none

/-- The address of the host of a group with its port.  Only a name is looked up. -/
def resolveHost (network : Network) (group host : String) (port : Nat) :
    Except EngineError Net.SocketAddress :=
  if host.contains '\x00' then .error (.io "file name contained an unexpected NUL byte")
  else match Net.SocketAddress.ofHost? host port with
    | some address => .ok address
    | none =>
      match network.lookup host port with
      | .error cause => .error (.io cause)
      | .ok none => .error (.connect s!"{group} did not resolve")
      | .ok (some address) => .ok address

/-- The address of a group. -/
def resolve (network : Network) (group : String) : Except EngineError Net.SocketAddress :=
  match Net.SocketAddress.ofText? group with
  | some address => .ok address
  | none =>
    match splitPort? group with
    | none => .error (.io "invalid socket address")
    | some (host, port) =>
      match Text.readUnsigned 65536 port with
      | .error _ => .error (.io "invalid port value")
      | .ok port => resolveHost network group host port

/-- What the operating system makes of a step. -/
def system (step : Except String Unit) : CallReply := step.mapError .io

/-- Sends one datagram. -/
def send (e : MulticastEngine) (network : Network) : CallReply :=
  if datagramLimit < e.size then .error (.io "Message too long (os error 90)")
  else system (network.send e.size)

/-- The answer to a call. -/
def call (e : MulticastEngine) (network : Network) (s : EngineSession) :
    EngineCall → EngineSession × CallReply
  | .connect =>
    match resolve network e.group with
    | .error cause => (s, .error cause)
    | .ok address =>
      match system (network.connect address) with
      | .ok () => ({ s with ready := true }, .ok ())
      | .error cause => (s, .error cause)
  | .execute =>
    if s.ready then ({ s with issued := s.issued + 1 }, e.send network) else (s, .error .notReady)
  | .close => ({ s with ready := false }, .ok ())

end MulticastEngine

end LoadGen
