namespace LoadGen.Net

/-!
# Request targets

A request says what it is about in one of four forms: a path, a whole address, somebody who is addressed,
or an asterisk.  All of them are read from left to right.

* `Target` — who is addressed, if the target says so, and the path;
* `Target.ofText` — reads a target;
* `TargetError` — the reasons to refuse a text.
-/

/-- Why a text is no request target. -/
inductive TargetError where
  | tooLong
  | empty
  | invalidCharacter
  | schemeTooLong
  | invalidAuthority
  /-- A part is missing or out of place. -/
  | invalidForm
  deriving DecidableEq, Repr

/-- What is reported about a text that is no request target. -/
def TargetError.message : TargetError → String
  | tooLong => "uri too long"
  | empty => "empty string"
  | invalidCharacter => "invalid uri character"
  | schemeTooLong => "scheme too long"
  | invalidAuthority => "invalid authority"
  | invalidForm => "invalid format"

/-- A request target, without its query and its fragment. -/
structure Target where
  /-- Who is addressed, if the target says so. -/
  authority : Option String := none
  /-- The path, which is empty where nothing but an authority is given. -/
  path : String
  deriving DecidableEq, Repr

namespace Target

/-! ### Paths and queries -/

/-- Whether a character can stand in a path. -/
def isPathChar (c : Char) : Bool := ' ' < c && c != '\x7f' && !"<>`".toList.contains c

/-- Whether a character can stand in a query. -/
def isQueryChar (c : Char) : Bool := ' ' < c && c != '\x7f' && !"\"<>".toList.contains c

/-- The path that is written before a query and a fragment. -/
def readPath (cs : List Char) : Except TargetError String :=
  let whole := cs.takeWhile (· != '#')
  let path := whole.takeWhile (· != '?')
  if path.all isPathChar && (whole.drop path.length).all isQueryChar then .ok (String.ofList path)
  else .error .invalidCharacter

/-! ### Schemes -/

/-- The most characters of a scheme. -/
def schemeLimit : Nat := 64

/-- Whether a character can stand in a scheme. -/
def isSchemeChar (c : Char) : Bool := c.isAlphanum || "+-.~".toList.contains c

/-- What stands behind a scheme and its mark, if the text begins with them. -/
def behindScheme? (cs : List Char) : Except TargetError (Option (List Char)) :=
  let scheme := cs.takeWhile isSchemeChar
  match cs.dropWhile isSchemeChar with
  | ':' :: '/' :: '/' :: rest =>
    if schemeLimit < scheme.length then .error .schemeTooLong else .ok (some rest)
  | _ => .ok none

/-! ### Authorities -/

/-- The most colons in a row of groups, which are those of an address of version six and its port. -/
def colonLimit : Nat := 8

/-- Whether a character can stand in an authority and means nothing there. -/
def isAuthorityChar (c : Char) : Bool := c.isAlphanum || "!$&'()*+,-.;=_~".toList.contains c

/-- Whether a character ends an authority. -/
def endsAuthority (c : Char) : Bool := c == '/' || c == '?' || c == '#'

/-- What has been seen of an authority. -/
structure AuthorityScan where
  /-- Colons since the last bracket or credentials. -/
  colons : Nat := 0
  opened : Bool := false
  closed : Bool := false
  /-- Whether there is a percent sign since the last bracket or credentials. -/
  percent : Bool := false

/-- One character more of an authority. -/
def AuthorityScan.push (s : AuthorityScan) (c : Char) : Except TargetError AuthorityScan :=
  if c == ':' then
    if colonLimit ≤ s.colons then .error .invalidAuthority else .ok { s with colons := s.colons + 1 }
  else if c == '[' then
    if s.percent || s.opened then .error .invalidAuthority else .ok { s with opened := true }
  else if c == ']' then
    if !s.opened || s.closed then .error .invalidAuthority
    else .ok { s with closed := true, colons := 0, percent := false }
  -- What stands before an at sign are credentials, in which colons and escapes are free.
  else if c == '@' then .ok { s with colons := 0, percent := false }
  else if c == '%' then .ok { s with percent := true }
  else if isAuthorityChar c then .ok s
  else .error .invalidCharacter

/-- Whether an authority is complete: its brackets match, it has one port at most, and somebody is
    addressed by name. -/
def AuthorityScan.isComplete (s : AuthorityScan) (authority : List Char) : Bool :=
  s.opened == s.closed && s.colons ≤ 1 && authority.getLast? != some '@' && !s.percent

/-- The authority at the beginning of a text, which can be empty, and the rest of the text. -/
def readAuthority (cs : List Char) : Except TargetError (String × List Char) := do
  let authority := cs.takeWhile (!endsAuthority ·)
  let scan ← authority.foldlM AuthorityScan.push {}
  if scan.isComplete authority then
    return (String.ofList authority, cs.dropWhile (!endsAuthority ·))
  else throw .invalidAuthority

/-! ### Targets -/

/-- The target of a text that is an authority and nothing else. -/
def ofAuthority (cs : List Char) : Except TargetError Target := do
  let (authority, rest) ← readAuthority cs
  if rest.isEmpty then return { authority, path := "" }
  -- A single character that begins a path or a query is called a wrong one.
  else throw (if cs.length = 1 then .invalidCharacter else .invalidForm)

/-- The target of a whole address, of which the scheme has been read. -/
def ofAddress (cs : List Char) : Except TargetError Target := do
  let (authority, rest) ← readAuthority cs
  if authority.isEmpty then throw .invalidForm
  let path ← readPath rest
  return { authority, path := if path.isEmpty then "/" else path }

/-- The most bytes of a target. -/
def byteLimit : Nat := 65534

/-- The target that a text is. -/
def ofText (s : String) : Except TargetError Target := do
  let cs := s.toList
  if byteLimit < s.utf8ByteSize then throw .tooLong
  else if cs.isEmpty then throw .empty
  else if cs = ['*'] then return { path := s }
  else if cs.head? == some '/' then return { path := ← readPath cs }
  else match ← behindScheme? cs with
    | some rest => ofAddress rest
    | none => ofAuthority cs

end Target

end LoadGen.Net
