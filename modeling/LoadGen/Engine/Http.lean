import LoadGen.Config
import LoadGen.Engine.Call
import LoadGen.Engine.Network
import LoadGen.Engine.Status
import LoadGen.Notice
import LoadGen.Text.Token
import LoadGen.Url.Reader

namespace LoadGen

/-!
# HTTP engines

An engine that sends requests to one address.  An operation is one request for every connection of its
thread.  With `keepalive` the engine sends one request when it connects, which opens a connection.

* `HttpEngine.ofConfig` — the engine of a configuration;
* `HttpEngine.build` — the same, where there is memory for what it sends;
* `HttpEngine.describe` — what it says of itself;
* `HttpEngine.call` — its answer to a call, for any way in which its requests end;
* `HttpEngine.target` — how they end in a network;
* `HttpEngine.callIn` — the answer to a call in a network.
-/

/-- How the requests of an engine travel. -/
inductive HttpKind where
  /-- HTTP/1.1 in the clear. -/
  | plain
  /-- HTTPS, whatever the certificate. -/
  | tls
  /-- HTTP/2 in the clear. -/
  | h2c
  deriving DecidableEq, Repr

namespace HttpKind

/-- The name of a kind. -/
def name : HttpKind → String
  | plain => "Plain"
  | tls => "Tls"
  | h2c => "H2c"

/-- The scheme of addresses that have none. -/
def scheme : HttpKind → String
  | tls => "https"
  | plain | h2c => "http"

end HttpKind

/-- What a request carries. -/
inductive Payload where
  /-- A letter, over and over. -/
  | filler (size : Nat)
  | text (body : String)

/-- Number of bytes. -/
def Payload.size : Payload → Nat
  | filler size => size
  | text body => body.utf8ByteSize

/-- An engine that sends requests to one address. -/
structure HttpEngine where
  kind : HttpKind
  url : String
  method : String
  /-- Headers that are added to every request. -/
  complexity : Nat
  payload : Payload
  keepalive : Bool
  /-- Requests of one operation. -/
  requests : Nat

namespace HttpEngine

/-! ### Configurations -/

/-- Whether a target is written with its scheme. -/
def hasScheme (host : String) : Bool := host.startsWith "http://" || host.startsWith "https://"

/-- The address of a target. -/
def urlOf (kind : HttpKind) (host : String) : String :=
  if hasScheme host then host else s!"{kind.scheme}://{host}"

/-- The marks that can stand in a token, but not in a method. -/
def foreignMarks : List Char := "#$%&'".toList

/-- Whether a name can be a method. -/
def isMethod (name : String) : Bool := Text.isToken name && !name.toList.any foreignMarks.contains

/-- The method that is used unless another one is known. -/
def defaultMethod : String := "GET"

/-- Whether a name of a method is not empty, and yet no method. -/
def isUnknownMethod (name : String) : Bool := !name.isEmpty && !isMethod name

/-- The method of a name. -/
def methodOf (name : String) : String :=
  if name.isEmpty || isUnknownMethod name then defaultMethod else name.toUpper

/-- What there is to carry: the given body, or filler of the given size. -/
def payloadOf (options : EngineOptions) : Payload :=
  if options.body.isEmpty then .filler options.dataSize.toNat else .text options.body

/-- The engine of a configuration. -/
def ofConfig (kind : HttpKind) (config : RunConfig) : HttpEngine :=
  { kind
    url := urlOf kind config.host
    method := methodOf config.options.method
    complexity := config.options.complexity.toNat
    payload := payloadOf config.options
    keepalive := config.options.keepalive
    requests := max config.concurrency.toNat 1 }

/-- The engine of a configuration, if there can be so much filler. -/
def build (kind : HttpKind) (config : RunConfig) : Except Fault HttpEngine := do
  if config.options.body.isEmpty then checkBuffer config.options.dataSize.toNat
  return ofConfig kind config

/-- What is told when the engine of a configuration is built. -/
def notices (config : RunConfig) : List Notice :=
  if isUnknownMethod config.options.method then [.unknownMethod config.options.method] else []

/-- What the engine says of itself. -/
def describe (e : HttpEngine) : String :=
  s!"HTTP engine ({e.kind.name})\n  url: {e.url}\n  method: {e.method}\n" ++
    s!"  complexity: {e.complexity}\n  body bytes: {e.payload.size}\n" ++
    s!"  keepalive: {e.keepalive}\n  requests per operation: {e.requests}"

/-! ### Calls -/

/-- How a request counts.  Only a failure of the server speaks against an answer. -/
def judge : RequestEnd → CallReply
  | .answered status =>
    if isServerError status then .error (.response (statusText status)) else .ok ()
  | .failed cause => .error (.client cause)

/-- How requests count together, the first of which has a number: the first one that fails decides. -/
def judgeAll (target : Nat → RequestEnd) (first : Nat) : Nat → CallReply
  | 0 => .ok ()
  | n + 1 =>
    match judge (target first) with
    | .ok () => judgeAll target (first + 1) n
    | .error cause => .error cause

/-- The error of an engine that could not open its connection. -/
def warmupError (e : HttpEngine) (cause : EngineError) : EngineError :=
  .connect s!"warmup request to {e.url} failed: {cause.message}"

/-- The request that opens a connection. -/
def warmup (e : HttpEngine) (target : Nat → RequestEnd) (s : EngineSession) :
    EngineSession × CallReply :=
  match judge (target s.issued) with
  | .ok () => ({ ready := true, issued := s.issued + 1 }, .ok ())
  | .error cause => ({ s with issued := s.issued + 1 }, .error (e.warmupError cause))

/-- The answer to a call.  `target` tells how the request with a number ends. -/
def call (e : HttpEngine) (target : Nat → RequestEnd) (s : EngineSession) :
    EngineCall → EngineSession × CallReply
  | .connect => if e.keepalive then e.warmup target s else ({ s with ready := true }, .ok ())
  | .execute =>
    if s.ready then
      ({ s with issued := s.issued + e.requests }, judgeAll target s.issued e.requests)
    else (s, .error .notReady)
  | .close => ({ s with ready := false }, .ok ())

/-- The address that requests are sent to.  Credentials are told in a header where they can be. -/
def address (url : Url) : Url := if url.hasReadableCredentials then url.anonymous else url

/-- How the requests end in a network.  A request to what is no address is never sent. -/
def target (e : HttpEngine) (network : Network) : Nat → RequestEnd :=
  match Url.ofText e.url with
  | .error cause => fun _ => .failed ("builder error: " ++ cause.message)
  | .ok url =>
    let url := address url
    if url.isTarget then network.request url
    else fun _ => .failed s!"builder error for url ({url.shown}): Parsed Url is not a valid Uri"

/-- The most headers of a request. -/
def headerLimit : Nat := 24576

/-- Headers of a request to an address: those that are added, one that tells what is accepted, and one
    for credentials. -/
def headers (e : HttpEngine) (url : Url) : Nat :=
  e.complexity + 1 + (if url.hasReadableCredentials then 1 else 0)

/-- Headers of the request with a number, with those that its connection adds.  What is no target has no
    connection. -/
def sentHeaders (e : HttpEngine) (network : Network) (url : Url) (number : Nat) : Nat :=
  e.headers url + (if (address url).isTarget then network.added (address url) number else 0)

/-- Whether some requests, the first of which has a number, have one with too many headers among them. -/
def overflows (e : HttpEngine) (network : Network) (url : Url) (first : Nat) : Nat → Bool
  | 0 => false
  | n + 1 =>
    decide (headerLimit < e.sentHeaders network url first) || e.overflows network url (first + 1) n

/-- Why some requests, the first of which has a number, cannot all be put together.  What is no address
    does not come so far. -/
def fault? (e : HttpEngine) (network : Network) (first count : Nat) : Option Fault :=
  match Url.ofText e.url with
  | .ok url => if e.overflows network url first count then some .headerOverflow else none
  | .error _ => none

/-- How many requests a call leads to. -/
def sends (e : HttpEngine) (s : EngineSession) : EngineCall → Nat
  | .connect => if e.keepalive then 1 else 0
  | .execute => if s.ready then e.requests else 0
  | .close => 0

/-- The answer to a call in a network. -/
def callIn (e : HttpEngine) (network : Network) (s : EngineSession) (c : EngineCall) :
    Except Fault (EngineSession × CallReply) :=
  match e.fault? network s.issued (e.sends s c) with
  | some fault => .error fault
  | none => .ok (e.call (e.target network) s c)

/-! ### Requests -/

theorem requests_pos (kind : HttpKind) (config : RunConfig) : 0 < (ofConfig kind config).requests := by
  show 0 < max config.concurrency.toNat 1
  omega

end HttpEngine

end LoadGen
