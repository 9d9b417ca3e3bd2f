import IamLogin.Number.Decimal
import IamLogin.Url.Percent

/-!
# URLs

A URL in its parts, each already in the form in which it is sent, and the texts made of them.
-/

namespace IamLogin

/-- A URL in parts. An absent part that has no absent form of its own is empty. -/
structure Url where
  /-- The scheme, in lower case. -/
  scheme : List Char
  /-- User name and password. -/
  userinfo : List Char
  /-- The host; an address with colons stands here without its brackets. -/
  host : List Char
  /-- The port, unless it is the scheme's own. -/
  port : Option Int
  /-- The path. -/
  path : List Char
  /-- What follows a question mark. -/
  query : Option (List Char)
  /-- What follows a number sign. -/
  fragment : Option (List Char)
deriving DecidableEq, Repr

namespace Url

/-- Host and port as they stand in a URL and in a host header. -/
def netloc (u : Url) : List Char :=
  (if u.host.contains ':' then '[' :: (u.host ++ [']']) else u.host) ++
    match u.port with
    | none => []
    | some port => ':' :: Decimal.ofInt port

/-- User name, password, host and port. -/
def authority (u : Url) : List Char :=
  (if u.userinfo.isEmpty then [] else u.userinfo ++ ['@']) ++ u.netloc

/-- Path and query as one text, with a path that is never empty. -/
def target (u : Url) : List Char :=
  (if u.path.isEmpty then ['/'] else u.path) ++
    match u.query with
    | none => []
    | some query => '?' :: query

/-- A URL as text. -/
def chars (u : Url) : List Char :=
  (if u.scheme.isEmpty then [] else u.scheme ++ [':']) ++
    (if u.authority.isEmpty then [] else '/' :: '/' :: u.authority) ++
    u.path ++
    (match u.query with
      | none => []
      | some query => '?' :: query) ++
    match u.fragment with
    | none => []
    | some fragment => '#' :: fragment

/-- A URL as a string. -/
def text (u : Url) : String := String.ofList u.chars

/-- Whether a URL stands on its own: it has a scheme and a host. -/
def isAbsolute (u : Url) : Bool := !u.scheme.isEmpty && !u.host.isEmpty

/-- The user name and the password, with escapes resolved. -/
def credentials (u : Url) : List Char × List Char :=
  let name := u.userinfo.takeWhile (· ≠ ':')
  let password := (u.userinfo.dropWhile (· ≠ ':')).drop 1
  (Percent.decodeChars name, Percent.decodeChars password)

/-- The fragment with escapes resolved; empty if there is none. -/
def plainFragment (u : Url) : List Char := Percent.decodeChars (u.fragment.getD [])

end Url

end IamLogin
