import LoadGen.Net.Ip
import LoadGen.Net.Target

namespace LoadGen

/-!
# Addresses of web resources

The parts of an `http` or `https` address after it has been read, and its normal written form.

* `Url` — the parts;
* `Url.shown` — the written form;
* `Url.isTarget` — whether a request can be sent to it;
* `UrlError` — the reasons to refuse a text.
-/

/-- Why a text is no address. -/
inductive UrlError where
  | emptyHost | invalidPort | invalidIpv4 | invalidIpv6 | invalidDomain
  deriving DecidableEq, Repr

/-- What is reported about a text that is no address. -/
def UrlError.message : UrlError → String
  | emptyHost => "empty host"
  | invalidPort => "invalid port number"
  | invalidIpv4 => "invalid IPv4 address"
  | invalidIpv6 => "invalid IPv6 address"
  | invalidDomain => "invalid international domain name"

/-- Who is addressed. -/
inductive Host where
  | domain (name : String)
  | ipv4 (ip : Net.Ipv4)
  | ipv6 (ip : Net.Ipv6)
  deriving DecidableEq

/-- The written form of a host. -/
def Host.shown : Host → String
  | domain name => name
  | ipv4 ip => ip.shown
  | ipv6 ip => s!"[{ip.compressed}]"

/-- The parts of an address.  Their texts are already escaped. -/
structure Url where
  /-- Whether the scheme is `https`. -/
  secure : Bool
  /-- Who asks. -/
  username : String := ""
  password : Option String := none
  host : Host
  /-- The port, unless it is the one of the scheme. -/
  port : Option Nat
  /-- The segments of the path, which are never none. -/
  path : List String
  query : Option String
  fragment : Option String

namespace Url

/-- The name of a scheme. -/
def scheme (secure : Bool) : String := if secure then "https" else "http"

/-- The port that a scheme stands for. -/
def defaultPort (secure : Bool) : Nat := if secure then 443 else 80

/-- The path, each segment behind a slash. -/
def pathText (u : Url) : String := String.join (u.path.map ("/" ++ ·))

/-- A part behind its mark, if the part is there. -/
def marked (mark : String) : Option String → String
  | some part => mark ++ part
  | none => ""

/-- Whether the address says who asks. -/
def hasCredentials (u : Url) : Bool := !u.username.isEmpty || u.password.isSome

/-- The written form of who asks. -/
def credentials (u : Url) : String :=
  if u.hasCredentials then u.username ++ marked ":" u.password ++ "@" else ""

/-- The written form. -/
def shown (u : Url) : String :=
  scheme u.secure ++ "://" ++ u.credentials ++ u.host.shown ++ marked ":" (u.port.map toString) ++
    u.pathText ++ marked "?" u.query ++ marked "#" u.fragment

/-- Whether a request can be sent to the address. -/
def isTarget (u : Url) : Bool := (Net.Target.ofText u.shown).toBool

/-- Whether the credentials can be told in a header: their escapes make up a text. -/
def hasReadableCredentials (u : Url) : Bool :=
  match Text.percentDecodeText? u.username with
  | none => false
  | some username =>
    !username.isEmpty || u.password.any fun password => (Text.percentDecodeText? password).isSome

/-- The address without credentials. -/
def anonymous (u : Url) : Url := { u with username := "", password := none }

end Url

end LoadGen
