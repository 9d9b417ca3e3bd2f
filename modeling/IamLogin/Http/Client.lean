import IamLogin.Journal
import IamLogin.Json.Writer
import IamLogin.Text.Base64
import IamLogin.Text.Utf8
import IamLogin.Url.Reference

/-!
# Asking a service

A posting names an address, a path under it, headers and the texts of a JSON body. It becomes a
request when the URL is made and the headers and the body are known to be sendable; the request is
sent, and an answer that sends the client on is looked at, though the client never goes there.

All that is sent is sent as bytes, and a lone half has none. In a URL this is found out late: the length
and the controls of a text are looked at before, and in an address the host and the port.

What keeps the request from being made is found before anything is sent. What is wrong with the
answer is found after, so the request stands in the journal.
-/

namespace IamLogin

/-- How a service reacts to a request that comes after the given number of others. -/
abbrev Endpoint := Nat → Request → Except Failure Response

/-- What is to be posted to a service. -/
structure Posting where
  /-- The address of the service. -/
  address : Text
  /-- The path under the address. -/
  path : Text
  /-- What kinds of answer are welcome. -/
  accept : String
  /-- Further headers. -/
  headers : Entries String Text
  /-- The texts in the body, by name. -/
  body : Entries String Text

namespace Posting

/-- Whether a text can stand in a header. -/
def isSendable (t : Text) : Bool := t.all Symbol.isAscii

/-- The body as it is sent. -/
def content (p : Posting) : String :=
  Json.render .body (Json.ofMembers (p.body.map fun m => (m.1, .str m.2)))

/-- The header that identifies the client by the user name and password in a URL, if there are
any. -/
def basicAuthorization? (url : Url) : Option String :=
  let (name, password) := url.credentials
  if name.isEmpty && password.isEmpty then none
  else some ("Basic " ++ String.ofList (Base64.encode (Utf8.encode (name ++ ':' :: password))))

/-- Why a text with a lone half is no URL. -/
def brokenUrl (t : Text) : Failure :=
  match Url.brokenFault? t with
  | some fault => .badUrl fault
  | none => .loneHalf

/-- The base at an address. -/
def base (address : Text) : Except Failure Url :=
  match address.toChars? with
  | some cs => (Url.asBase cs).mapError .badUrl
  | none => .error (brokenUrl (trimEnd (· = .char '/') address))

/-- The URL of a path under a base. -/
def place (base : Url) (path : Text) : Except Failure Url :=
  match path.toChars? with
  | some cs => (Url.under base cs).mapError .badUrl
  | none => .error (brokenUrl path)

/-- The request for a posting. -/
def request (p : Posting) : Except Failure Request := do
  let url ← place (← base p.address) p.path
  let named := [("accept", Text.ofString p.accept)] ++ p.headers ++
    [("content-length", Text.ofString (Decimal.text (Utf8.encode p.content.toList).length)),
      ("content-type", Text.ofString "application/json")] ++
    (if url.host.isEmpty then [] else [("host", Text.ofChars url.netloc)])
  if !named.all fun h => isSendable h.2 then throw .badHeader
  if !p.body.all fun m => m.2.toChars?.isSome then throw .loneHalf
  return {
    url
    body := p.content
    headers := match basicAuthorization? url with
      | none => named
      | some authorization => Entries.put "authorization" (Text.ofString authorization) named }

end Posting

namespace Request

/-- The place to which an answer sends the client on. It may be given relative to the URL of the
request; one with a scheme and no host is on the same host, and one without a fragment has that of
the request. -/
def place (r : Request) (location : String) : Except Failure Url := do
  let given ← (Url.ofString location).mapError .badRedirect
  let given ← (if !given.scheme.isEmpty && given.host.isEmpty then given.withHost r.url.host
    else .ok given).mapError .badUrl
  let place ← if given.isAbsolute then pure given
    else match Reference.resolve? r.url.chars given.chars with
      | none => throw .badReference
      | some resolved => (Url.ofChars resolved).mapError .badUrl
  if !r.url.plainFragment.isEmpty && place.plainFragment.isEmpty then
    (place.withFragment r.url.plainFragment).mapError .badUrl
  else return place

/-- What keeps a URL from being known as the origin of an answer: its text names no scheme, or is no
reference. -/
def checkOrigin (r : Request) : Except Failure Unit := do
  let origin := Reference.dropMark r.url.chars
  if !Reference.beginsWithName origin then throw (.noScheme (String.ofList origin))
  if (Reference.ofChars? [] origin).isNone then throw .badReference

/-- What is wrong with an answer to a request, whatever it says. -/
def checkResponse (r : Request) (answer : Response) : Except Failure Unit := do
  if !answer.headers.all fun h => Posting.isSendable (Text.ofString h.1) &&
      Posting.isSendable (Text.ofString h.2) then
    throw .badHeader
  r.checkOrigin
  match answer.location? with
  | none => return ()
  | some location => discard (r.place location)

end Request

/-- Send a posting to a service and receive the answer. -/
def Posting.send (p : Posting) (service : Service) (endpoint : Endpoint) : Action Response := do
  let request ← Action.ofExcept p.request
  let earlier := ((← get).requestsTo service).length
  Action.record (.request service request)
  let answer ← Action.ofExcept (endpoint earlier request)
  Action.ofExcept (request.checkResponse answer)
  return answer

end IamLogin
