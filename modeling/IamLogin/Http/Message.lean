import IamLogin.Entries
import IamLogin.Http.Status
import IamLogin.Url.Basic

/-!
# Requests and responses

What is sent to a service and what comes back. All requests of this library are posts with a JSON
body. Header names are in lower case where they are sent, and compared without regard to case where
they are received.
-/

namespace IamLogin

/-- A request as it is sent. -/
structure Request where
  /-- Where it goes. -/
  url : Url
  /-- Header names and values. -/
  headers : Entries String Text
  /-- The body. -/
  body : String
deriving DecidableEq, Repr

/-- The method of every request. -/
def Request.method : String := "POST"

/-- The value of a header. -/
def Request.header? (r : Request) (name : String) : Option Text := Entries.get? name r.headers

/-- A response as it is received. -/
structure Response where
  /-- How the request ended. -/
  status : Status
  /-- Header names and values; a name can come more than once. -/
  headers : List (String × String)
  /-- The bytes of the body, after any coding for the way was undone. A body whose coding is broken is
  no response but a failure of the service. -/
  body : List UInt8
  /-- The bytes of the phrase that came with the status, if one came with it. -/
  phrase : Option (List UInt8) := none
deriving DecidableEq, Repr

namespace Response

/-- The phrase for the status of a response: the ASCII characters of its own, or else the phrase that
goes with the code. -/
def reason (r : Response) : String :=
  match r.phrase with
  | some bytes => String.ofList ((bytes.filter (· < 128)).map fun b => Char.ofNat b.toNat)
  | none => r.status.reason

/-- The values of a header in one text, if there is any. -/
def header? (r : Response) (name : String) : Option String :=
  match (r.headers.filter fun h => h.1.toLower = name).map Prod.snd with
  | [] => none
  | values => some (", ".intercalate values)

/-- The place to ask instead, if the response names one. -/
def location? (r : Response) : Option String :=
  if r.status.isRedirect then r.header? "location" else none

end Response

end IamLogin
