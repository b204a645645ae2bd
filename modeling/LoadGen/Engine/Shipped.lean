import LoadGen.Engine.Http
import LoadGen.Engine.Multicast
import LoadGen.Registry

namespace LoadGen

/-!
# Shipped engines

The engines that the command knows, by name.

* `shippedEngines` — the registry;
* `ShippedEngine.call` — the answer of any of them to a call;
* `ShippedEngine.messagesPerOperation` — what one operation sends.
-/

/-- One of the engines. -/
inductive ShippedEngine where
  | http (engine : HttpEngine)
  | multicast (engine : MulticastEngine)

namespace ShippedEngine

/-- What the engine says of itself. -/
def describe : ShippedEngine → String
  | http e => e.describe
  | multicast e => e.describe

/-- Messages that one operation sends to the target. -/
def messagesPerOperation : ShippedEngine → Nat
  | http e => e.requests
  | multicast _ => 1

/-- What is told when the engine of a configuration is built. -/
def notices (e : ShippedEngine) (config : RunConfig) : List Notice :=
  match e with
  | http _ => HttpEngine.notices config
  | multicast _ => []

/-- The answer to a call in a network. -/
def call (e : ShippedEngine) (network : Network) (s : EngineSession) (c : EngineCall) :
    Except Fault (EngineSession × CallReply) :=
  match e with
  | http e => e.callIn network s c
  | multicast e => .ok (e.call network s c)

/-- The answers to calls one after another, each with whether the engine is ready after it. -/
def calls (e : ShippedEngine) (network : Network) (s : EngineSession) :
    List EngineCall → Except Fault (List (CallReply × Bool))
  | [] => .ok []
  | c :: cs => do
    let (s, reply) ← e.call network s c
    return (reply, s.ready) :: (← calls e network s cs)

end ShippedEngine

/-- The engines by name, each with how it is built. -/
def shippedEngines : Registry (RunConfig → Except Fault ShippedEngine) :=
  .ofHistory
    [("http", fun config => (HttpEngine.build .plain config).map .http),
      ("https", fun config => (HttpEngine.build .tls config).map .http),
      ("h2c", fun config => (HttpEngine.build .h2c config).map .http),
      ("multicast", fun config => (MulticastEngine.build config).map .multicast)]

/-- The engine that a configuration names. -/
def ShippedEngine.ofConfig? (config : RunConfig) : Option (Except Fault ShippedEngine) :=
  (shippedEngines.find? config.engine).map fun build => build config

end LoadGen
