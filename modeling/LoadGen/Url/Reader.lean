import LoadGen.Domain
import LoadGen.Text.Split
import LoadGen.Url

namespace LoadGen.Url

/-!
# Reading addresses of web resources

An address is taken apart from left to right: scheme, credentials, host, port, path, query, fragment.
A backslash counts as a slash up to the query.

* `readCredentials` — the credentials before a host;
* `readHost` — domains, and internet addresses in all their spellings;
* `readPort` — the port behind a host;
* `resolveDots` — the path without `.` and `..`;
* `ofText` — the whole address.
-/

/-! ### Hosts -/

/-- A number of an address of version four: hexadecimal after `0x`, octal after `0`. -/
def readSpelledNumber? (part : List Char) : Option Nat :=
  let read (base : Nat) (digits : List Char) : Option Nat :=
    -- The mark of a base alone is zero.
    if digits.isEmpty then some 0
    else
      match Net.readNumber? base (Nat.pow base digits.length) none true digits with
      | some (n, []) => some n
      | _ => none
  match part with
  | [] => none
  | '0' :: x :: digits =>
    if x == 'x' || x == 'X' then read 16 digits else read 8 (x :: digits)
  | digits => read 10 digits

/-- The parts of a name, without an empty last one. -/
def domainParts (name : String) : List String :=
  let parts := name.splitOn "."
  if 1 < parts.length && parts.getLast? == some "" then parts.dropLast else parts

/-- Whether the last part of a name is a number, so that the name has to be an address. -/
def endsInNumber (name : String) : Bool :=
  match (domainParts name).getLast? with
  | none => false
  | some part =>
    !part.isEmpty && (part.toList.all Char.isDigit || (readSpelledNumber? part.toList).isSome)

/-- An address of version four: up to four numbers, of which the last fills the remaining bytes. -/
def readSpelledIpv4? (name : String) : Option Net.Ipv4 := do
  Net.Ipv4.ofNumbers? (← (domainParts name).mapM fun part => readSpelledNumber? part.toList)

/-- A domain, or an address of version four that is spelled like one. -/
def readDomain (cs : List Char) : Except UrlError Host :=
  match (String.fromUTF8? ⟨(Text.percentDecode cs).toArray⟩).bind fun s => Domain.ofText? s.toList with
  | none => .error .invalidDomain
  | some name =>
    if name.isEmpty then .error .emptyHost
    else if endsInNumber name then
      match readSpelledIpv4? name with
      | some ip => .ok (.ipv4 ip)
      | none => .error .invalidIpv4
    else .ok (.domain name)

/-- A host. -/
def readHost (cs : List Char) : Except UrlError Host :=
  match cs with
  | [] => .error .emptyHost
  | '[' :: body =>
    if body.getLast? == some ']' then
      match Net.readIpv6? body.dropLast with
      | some (ip, []) => .ok (.ipv6 ip)
      | _ => .error .invalidIpv6
    else .error .invalidIpv6
  | cs => readDomain cs

/-- The characters of a host and what follows it.  A colon in brackets belongs to the host. -/
def splitHost : Bool → List Char → List Char × List Char
  | _, [] => ([], [])
  | inBrackets, c :: cs =>
    if c == ':' && !inBrackets then ([], c :: cs)
    else
      let (host, rest) := splitHost (if c == '[' then true else if c == ']' then false else inBrackets) cs
      (c :: host, rest)

/-- The port behind a host: nothing, or a colon and digits.  The port of the scheme is left out. -/
def readPort (secure : Bool) : List Char → Except UrlError (Option Nat)
  | ':' :: digits =>
    if digits.isEmpty then .ok none
    else match Net.readNumber? 10 65536 none true digits with
      | some (port, []) => .ok (if port = defaultPort secure then none else some port)
      | _ => .error .invalidPort
  | _ => .ok none

/-! ### Paths -/

/-- Whether a character ends a segment of a path. -/
def isSlash (c : Char) : Bool := c == '/' || c == '\\'

/-- Whether a character cannot be printed, and is ASCII. -/
def isControl (c : Char) : Bool := c < ' ' || c == '\x7f'

/-- Whether a character is escaped in a fragment. -/
def escapedInFragment (c : Char) : Bool := isControl c || " \"<>`".toList.contains c

/-- Whether a character is escaped in a path. -/
def escapedInPath (c : Char) : Bool := escapedInFragment c || "#?\x7b\x7d".toList.contains c

/-- Whether a character is escaped in a query. -/
def escapedInQuery (c : Char) : Bool := isControl c || " \"#<>'".toList.contains c

/-- Whether a character is escaped in credentials. -/
def escapedInCredentials (c : Char) : Bool := escapedInPath c || "/:;=@[\\]^|".toList.contains c

/-- Who asks, as it is written before a host: a name, and a password behind a colon.  An empty password
    is none. -/
def readCredentials (cs : List Char) : String × Option String :=
  let (username, password) := Text.splitOnce ':' cs
  let escape (part : List Char) : String := String.ofList (Text.percentEncode escapedInCredentials part)
  (escape username, (password.filter (!·.isEmpty)).map escape)

/-- The segments of a path, which begins with a slash or is empty. -/
def segments : List Char → List (List Char)
  | [] => [[]]
  | c :: cs =>
    if isSlash c then [] :: segments cs
    else match segments cs with
      | first :: rest => (c :: first) :: rest
      | [] => [[c]]

/-- A segment in which escaped points are read, in lower case. -/
def readPoints : List Char → List Char
  | '%' :: '2' :: 'e' :: cs => '.' :: readPoints cs
  | '%' :: '2' :: 'E' :: cs => '.' :: readPoints cs
  | c :: cs => c :: readPoints cs
  | [] => []

/-- The path that segments lead to: `..` takes the last segment back, and `.` stays.  At the end both
    leave an empty segment.  `done` holds the segments so far, newest first. -/
def resolveDots (done : List String) : List (List Char) → List String
  | [] => done.reverse
  | segment :: rest =>
    let points := readPoints segment
    let last (done : List String) : List String := if rest.isEmpty then "" :: done else done
    if points = ['.', '.'] then resolveDots (last (done.drop 1)) rest
    else if points = ['.'] then resolveDots (last done) rest
    else resolveDots (String.ofList (Text.percentEncode escapedInPath segment) :: done) rest

/-- The path of an address, which has one segment at least. -/
def readPath (cs : List Char) : List String :=
  match resolveDots [] ((segments cs).drop 1) with
  | [] => [""]
  | path => path

/-! ### Whole addresses -/

/-- Whether a character is dropped at both ends of an address. -/
def isEdge (c : Char) : Bool := c ≤ ' '

/-- Whether a character is dropped everywhere in an address. -/
def isSkipped (c : Char) : Bool := c == '\t' || c == '\n' || c == '\r'

/-- The characters of a text that make up an address. -/
def relevant (s : String) : List Char :=
  let trimmed := ((s.toList.dropWhile isEdge).reverse.dropWhile isEdge).reverse
  trimmed.filter (!isSkipped ·)

/-- What stands before the last character of a kind, if there is one, and what stands behind it. -/
def splitLast (c : Char) (cs : List Char) : List Char × List Char :=
  let after := (cs.reverse.takeWhile (· != c)).reverse
  ((cs.take (cs.length - after.length)).dropLast, after)

/-- The part of an address behind its scheme. -/
def ofBody (secure : Bool) (body : List Char) : Except UrlError Url := do
  let (body, fragment) := Text.splitOnce '#' body
  let (body, query) := Text.splitOnce '?' body
  let body := body.dropWhile isSlash
  let authority := body.takeWhile (!isSlash ·)
  let (credentials, hostAndPort) := splitLast '@' authority
  let (username, password) := readCredentials credentials
  let (host, port) := splitHost false hostAndPort
  return {
    secure
    username
    password
    host := ← readHost host
    port := ← readPort secure port
    path := readPath (body.dropWhile (!isSlash ·))
    query := query.map fun cs => String.ofList (Text.percentEncode escapedInQuery cs)
    fragment := fragment.map fun cs => String.ofList (Text.percentEncode escapedInFragment cs) }

/-- The address that a text is.  It begins with the scheme `http` or `https`. -/
def ofText (s : String) : Except UrlError Url :=
  let (scheme, body) := Text.splitOnce ':' (relevant s)
  ofBody (scheme = ['h', 't', 't', 'p', 's']) (body.getD [])

end LoadGen.Url
