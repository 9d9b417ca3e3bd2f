import IamLogin.Number.Grouped
import IamLogin.Text.Blank
import IamLogin.Text.Digit
import IamLogin.Text.Pieces
import IamLogin.Text.Quoted
import IamLogin.Url.Address
import IamLogin.Url.Basic

/-!
# Reading URLs

A text is cut into the parts of a URL, the parts are checked, and each is brought into the form in
which it is sent. The same checks are made again when a URL gets another path and query, because
escaping can make a part longer.
-/

namespace IamLogin.Url

/-- The parts that are checked one by one. -/
inductive Part where
  /-- The scheme. -/
  | scheme
  /-- User name, password, host and port. -/
  | authority
  /-- The path. -/
  | path
  /-- What follows a question mark. -/
  | query
  /-- What follows a number sign. -/
  | fragment
deriving DecidableEq, Repr

/-- The name of a part. -/
def Part.name : Part → String
  | .scheme => "scheme"
  | .authority => "authority"
  | .path => "path"
  | .query => "query"
  | .fragment => "fragment"

/-- Why a text is no URL. -/
inductive Fault where
  /-- The text is too long. -/
  | tooLong
  /-- A part is too long. -/
  | partTooLong (part : Part)
  /-- A control character stands in the text. -/
  | control (c : Char) (position : Nat)
  /-- A control character stands in a part. -/
  | partControl (part : Part) (c : Char) (position : Nat)
  /-- The host looks like four numbers and is no address. -/
  | address4 (host : List Char)
  /-- The host stands in brackets and is no address. -/
  | address6 (host : Text)
  /-- The host is no name. -/
  | badHost (host : Text)
  /-- The port is no number. -/
  | badPort (port : Text)
  /-- A path after a host does not begin with a slash. -/
  | unrooted
  /-- A path without a host begins with two slashes. -/
  | doubleSlash
  /-- A path without a host begins with a colon. -/
  | leadingColon
deriving DecidableEq, Repr

/-- The wording of a fault. -/
def Fault.message : Fault → String
  | .tooLong => "URL too long"
  | .partTooLong part => "URL component '" ++ part.name ++ "' too long"
  | .control c position =>
    "Invalid non-printable ASCII character in URL, " ++ Quoted.ofString (String.singleton c) ++
      " at position " ++ Decimal.text position ++ "."
  | .partControl part c position =>
    "Invalid non-printable ASCII character in URL " ++ part.name ++ " component, " ++
      Quoted.ofString (String.singleton c) ++ " at position " ++ Decimal.text position ++ "."
  | .address4 host => "Invalid IPv4 address: " ++ Quoted.ofString (String.ofList host)
  | .address6 host => "Invalid IPv6 address: " ++ String.ofList (Quoted.ofText host)
  | .badHost host => "Invalid IDNA hostname: " ++ String.ofList (Quoted.ofText host)
  | .badPort port => "Invalid port: " ++ String.ofList (Quoted.ofText port)
  | .unrooted => "For absolute URLs, path must be empty or begin with '/'"
  | .doubleSlash => "Relative URLs cannot have a path starting with '//'"
  | .leadingColon => "Relative URLs cannot have a path starting with ':'"

/-- The greatest length of a URL and of each of its parts. -/
def lengthLimit : Nat := 65536

/-! ## Cutting -/

/-- A URL as it is written, cut into parts. -/
structure Pieces where
  /-- Before the first colon, if that is a scheme. -/
  scheme : List Char
  /-- After two slashes. -/
  authority : List Char
  /-- What is left in the middle. -/
  path : List Char
  /-- After a question mark. -/
  query : Option (List Char)
  /-- After a number sign. -/
  fragment : Option (List Char)

/-- Whether a character can stand in a scheme after its first letter. -/
def inScheme (c : Char) : Bool := c.isAlphanum ∨ c = '+' ∨ c = '-' ∨ c = '.'

/-- The scheme in front of a colon, and the text after the colon. A text that begins with a colon
has an empty one. -/
def cutScheme (cs : List Char) : List Char × List Char :=
  let front := cs.takeWhile inScheme
  let startsWell := match front with
    | [] => true
    | c :: _ => c.isAlpha
  match cs.drop front.length with
  | ':' :: rest => if startsWell then (front, rest) else ([], cs)
  | _ => ([], cs)

/-- The authority after two slashes, and the text after it. -/
def cutAuthority (cs : List Char) : List Char × List Char :=
  match cs with
  | '/' :: '/' :: rest =>
    let inside (c : Char) : Bool := c ≠ '/' ∧ c ≠ '?' ∧ c ≠ '#'
    (rest.takeWhile inside, rest.dropWhile inside)
  | _ => ([], cs)

/-- A text cut into the parts of a URL. Every text can be cut. -/
def Pieces.ofChars (cs : List Char) : Pieces :=
  let (scheme, rest) := cutScheme cs
  let (authority, rest) := cutAuthority rest
  let (rest, fragment) := cutFirst '#' rest
  let (path, query) := cutFirst '?' rest
  { scheme, authority, path, query, fragment }

/-- An authority cut into user name and password, host, and port. The host may stand in
brackets. -/
def cutHost (authority : List Char) : List Char × List Char × List Char :=
  let (userinfo, rest) := (cutLast? '@' authority).getD ([], authority)
  let bracketed := match rest.head?, cutLast? ']' rest with
    | some '[', some (inside, after) => some (inside ++ [']'], after)
    | _, _ => none
  let (host, rest) := bracketed.getD (rest.takeWhile (· ≠ ':'), rest.dropWhile (· ≠ ':'))
  match rest with
  | ':' :: port => (userinfo, host, port)
  | port => (userinfo, host, port)

/-! ## Checking -/

/-- The first control character and its place. -/
def firstControl? (cs : List Char) : Option (Char × Nat) :=
  let isControl (c : Char) : Bool := c.toNat < 0x20 ∨ c = '\x7F'
  match cs.dropWhile (!isControl ·) with
  | [] => none
  | c :: rest => some (c, cs.length - rest.length - 1)

/-- A host in the form in which it is sent. Names in other scripts are not looked up here: their
characters are escaped like any others. -/
def normalHost (host : List Char) : Except Fault (List Char) :=
  if host.isEmpty then .ok []
  else if Address.looksNumeric host then
    if Address.isVersion4 host then .ok host else .error (.address4 host)
  else if host.head? = some '[' ∧ host.getLast? = some ']' then
    let inside := (host.drop 1).dropLast
    if Address.isVersion6 inside then .ok inside else .error (.address6 (.ofChars host))
  else .ok (Percent.encode Percent.inHost (host.map Char.toLower))

/-- The port that a scheme has when none is written. -/
def defaultPort? (scheme : List Char) : Option Int :=
  match String.ofList scheme with
  | "ftp" => some 21
  | "http" => some 80
  | "https" => some 443
  | "ws" => some 80
  | "wss" => some 443
  | _ => none

/-- A number written with an optional sign, in digits of any script that may be grouped by
underscores. Numbers with more than 4300 digits are not read. -/
def number? (cs : List Char) : Option Int :=
  let (negative, digits) := Grouped.sign (trimBoth isBlank cs)
  match Grouped.digits? decimalDigit? digits with
  | none => none
  | some digits =>
    if digits.length > 4300 then none
    else
      let n : Int := Grouped.value digits
      some (if negative then -n else n)

/-- The port, if one is written that is not the scheme's own. -/
def normalPort (scheme port : List Char) : Except Fault (Option Int) :=
  if port.isEmpty then .ok none
  else match number? port with
    | none => .error (.badPort (.ofChars port))
    | some n => .ok (if defaultPort? scheme = some n then none else some n)

/-- Segments with `.` dropped and `..` taking back the segment before it, but not the empty one
in front of a leading slash. -/
def resolveDots (segments : List (List Char)) : List (List Char) :=
  (segments.foldl (fun done segment =>
    if segment = ['.'] then done
    else if segment = ['.', '.'] then
      if done = [] ∨ done = [[]] then done else done.drop 1
    else segment :: done) []).reverse

/-- A path with its dot segments resolved. -/
def normalPath (path : List Char) : List Char := joinPieces '/' (resolveDots (pieces '/' path))

/-- Whether a path can follow what stands before it. -/
def checkPath (hasScheme hasAuthority : Bool) (path : List Char) : Except Fault Unit :=
  if hasAuthority ∧ path ≠ [] ∧ path.head? ≠ some '/' then .error .unrooted
  else if hasScheme ∨ hasAuthority then .ok ()
  else if path.take 2 = ['/', '/'] then .error .doubleSlash
  else if path.head? = some ':' then .error .leadingColon
  else .ok ()

/-- The URL of checked parts, each in the form in which it is sent. -/
def ofPieces (p : Pieces) : Except Fault Url := do
  let (userinfo, host, port) := cutHost p.authority
  let scheme := p.scheme.map Char.toLower
  let userinfo := Percent.encode Percent.inUserinfo userinfo
  let host ← normalHost host
  let port ← normalPort p.scheme port
  let hasScheme := !scheme.isEmpty
  let hasAuthority := !userinfo.isEmpty || !host.isEmpty || port.isSome
  checkPath hasScheme hasAuthority p.path
  let path := if hasScheme || hasAuthority then normalPath p.path else p.path
  return {
    scheme, userinfo, host, port
    path := Percent.encode Percent.inPath path
    query := p.query.map (Percent.encode Percent.inQuery)
    fragment := p.fragment.map (Percent.encode Percent.inFragment) }

/-- What is wrong with a text as a whole. -/
def wholeFault? (cs : List Char) : Option Fault :=
  if cs.length > lengthLimit then some .tooLong
  else (firstControl? cs).map fun (c, position) => .control c position

/-- The URL in a text. -/
def ofChars (cs : List Char) : Except Fault Url :=
  match wholeFault? cs with
  | some fault => .error fault
  | none => ofPieces (Pieces.ofChars cs)

/-- The URL in a string. -/
def ofString (s : String) : Except Fault Url := ofChars s.toList

/-- What is wrong with a text that has lone halves, unless the first fault is a half that has to be
sent. The parts are looked at in order, and a half in the host or the port is never sent: no host is
called so, and no number is written so. -/
def brokenFault? (t : Text) : Option Fault :=
  let cs := t.toCharsLossy
  (wholeFault? cs).or <|
    let p := Pieces.ofChars cs
    let start := cs.length - (cutScheme cs).2.length + 2
    let authority : Text := (t.drop start).take p.authority.length
    let (userinfo, host, port) := cutHost p.authority
    let rest := authority.drop (if p.authority.contains '@' then userinfo.length + 1 else 0)
    let written : Text := rest.take host.length
    if (Text.toChars? (authority.take userinfo.length)).isNone then none
    else if (Text.toChars? written).isNone then
      some (if written.head? = some (.char '[') ∧ written.getLast? = some (.char ']')
        then .address6 written else .badHost written)
    else match ofPieces p with
      | .ok _ => none
      | .error (.badPort _) => some (.badPort (rest.drop (rest.length - port.length)))
      | .error fault => some fault

example : brokenFault? (Text.ofString "http://h" ++ [.half .first]) =
    some (.badHost (Text.ofString "h" ++ [.half .first])) := by decide +kernel

/-- What is wrong with a part taken for itself. -/
def Part.fault? (part : Part) (cs : List Char) : Option Fault :=
  if cs.length > lengthLimit then some (.partTooLong part)
  else (firstControl? cs).map fun (c, position) => .partControl part c position

/-- What is wrong with the first part that is at fault. -/
def Pieces.fault? (p : Pieces) : Option Fault :=
  [Part.scheme.fault? p.scheme, Part.authority.fault? p.authority, Part.path.fault? p.path,
    Part.query.fault? (p.query.getD []), Part.fragment.fault? (p.fragment.getD [])].findSome? id

/-- A URL from parts that are checked again. -/
def rebuild (p : Pieces) : Except Fault Url :=
  match p.fault? with
  | some fault => .error fault
  | none => ofPieces p

/-- The parts of a URL as they are written. -/
def toPieces (u : Url) : Pieces :=
  { scheme := u.scheme, authority := u.authority, path := u.path, query := u.query,
    fragment := u.fragment }

/-- A URL with another path and query, given as one text. -/
def withTarget (u : Url) (target : List Char) : Except Fault Url :=
  let (path, query) := cutFirst '?' target
  rebuild { u.toPieces with path, query }

/-- A URL with another fragment, given without escapes. -/
def withFragment (u : Url) (fragment : List Char) : Except Fault Url :=
  rebuild { u.toPieces with fragment := some fragment }

/-- A URL without a host, with the host of another one. -/
def withHost (u : Url) (host : List Char) : Except Fault Url :=
  match u.toPieces.fault? with
  | some fault => .error fault
  | none => ofPieces { u.toPieces with authority := { u with host }.authority }

/-! ## Bases -/

/-- The base under which requests are made: its path ends with a slash. -/
def asBase (address : List Char) : Except Fault Url := do
  let base ← ofChars (trimEnd (· = '/') address)
  if base.target.getLast? = some '/' then return base
  else base.withTarget (base.target ++ ['/'])

/-- The URL of a path under a base. A path that stands on its own is taken as it is. -/
def under (base : Url) (path : List Char) : Except Fault Url := do
  let relative ← ofChars path
  if relative.isAbsolute then return relative
  else base.withTarget (base.target ++ relative.target.dropWhile (· = '/'))

end IamLogin.Url
