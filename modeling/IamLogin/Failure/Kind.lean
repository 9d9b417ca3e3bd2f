/-!
# Kinds of failure

Every failure is of one kind, and the name of its kind is what a caller and the log see of it. Kinds
fall into a few families; which step catches what is decided by family. A party outside this library
can fail in a kind of its own, of which only the name and the families are known.
-/

namespace IamLogin

/-- The families that matter to some step, and whether a kind is in them. -/
structure Families where
  /-- The options are at fault. -/
  configuration : Bool := false
  /-- The vault gave no token. -/
  authentication : Bool := false
  /-- The operating system refused. -/
  system : Bool := false
  /-- A value is wrong in itself or in its form. -/
  value : Bool := false
  /-- There was no answer, or not a good one. -/
  http : Bool := false
deriving DecidableEq, Repr

/-- A kind of failure. -/
inductive Kind where
  /-- Any failure of a login. -/
  | login
  /-- The options of a login are wrong. -/
  | configuration
  /-- There is no credential to be had. -/
  | credentialUnavailable
  /-- An account or project id cannot be found out. -/
  | resolution
  /-- A claim could not be signed. -/
  | signing
  /-- The vault gave no token. -/
  | authentication
  /-- The operating system refused. -/
  | system
  /-- A file is not there. -/
  | missingFile
  /-- A value is wrong. -/
  | value
  /-- A received value does not have the form it should have. -/
  | validation
  /-- A text is no JSON. -/
  | jsonDecoding
  /-- Bytes are no text. -/
  | textDecoding
  /-- A text cannot be written in the encoding that is asked for. -/
  | textEncoding
  /-- A name is not in a table. -/
  | key
  /-- A search found nothing. -/
  | lookup
  /-- A value does not have a part of this name. -/
  | missingPart
  /-- A value is of the wrong kind. -/
  | typing
  /-- A number is too large. -/
  | overflow
  /-- A step went wrong in another way. -/
  | runtime
  /-- A value is nested too deeply. -/
  | recursion
  /-- A text is no URL. -/
  | invalidUrl
  /-- Two cookies have one name. -/
  | cookieConflict
  /-- Any failure to get an answer. -/
  | http
  /-- An answer says that the request failed. -/
  | httpStatus
  /-- No connection was made. -/
  | connect
  /-- No connection was made in time. -/
  | connectTimeout
  /-- No answer came in time. -/
  | readTimeout
  /-- No connection became free in time. -/
  | poolTimeout
  /-- The request was not sent. -/
  | write
  /-- The answer was not received. -/
  | read
  /-- The answer breaks the rules. -/
  | remoteProtocol
  /-- The scheme of the URL is not known. -/
  | unsupportedProtocol
  /-- The proxy failed. -/
  | proxy
  /-- The answer was packed wrongly. -/
  | decoding
  /-- The client was sent on too often. -/
  | tooManyRedirects
  /-- A kind that is not in this list. -/
  | other (name : String) (families : Families)
deriving DecidableEq, Repr

namespace Kind

/-- All kinds of this list. -/
def all : List Kind := [
  login, configuration, credentialUnavailable, resolution, signing, authentication, system,
  missingFile, value, validation, jsonDecoding, textDecoding, textEncoding, key, lookup,
  missingPart, typing, overflow, runtime, recursion, invalidUrl, cookieConflict, http, httpStatus,
  connect, connectTimeout, readTimeout, poolTimeout, write, read, remoteProtocol,
  unsupportedProtocol, proxy, decoding, tooManyRedirects]

/-- The name of a kind. -/
def name : Kind → String
  | login => "VaultGcpAuthError"
  | configuration => "ConfigurationError"
  | credentialUnavailable => "CredentialUnavailableError"
  | resolution => "ResolutionError"
  | signing => "SigningError"
  | authentication => "AuthenticationError"
  | system => "OSError"
  | missingFile => "FileNotFoundError"
  | value => "ValueError"
  | validation => "ValidationError"
  | jsonDecoding => "JSONDecodeError"
  | textDecoding => "UnicodeDecodeError"
  | textEncoding => "UnicodeEncodeError"
  | key => "KeyError"
  | lookup => "LookupError"
  | missingPart => "AttributeError"
  | typing => "TypeError"
  | overflow => "OverflowError"
  | runtime => "RuntimeError"
  | recursion => "RecursionError"
  | invalidUrl => "InvalidURL"
  | cookieConflict => "CookieConflict"
  | http => "HTTPError"
  | httpStatus => "HTTPStatusError"
  | connect => "ConnectError"
  | connectTimeout => "ConnectTimeout"
  | readTimeout => "ReadTimeout"
  | poolTimeout => "PoolTimeout"
  | write => "WriteError"
  | read => "ReadError"
  | remoteProtocol => "RemoteProtocolError"
  | unsupportedProtocol => "UnsupportedProtocol"
  | proxy => "ProxyError"
  | decoding => "DecodingError"
  | tooManyRedirects => "TooManyRedirects"
  | other name _ => name

/-- The kind with a name. -/
def ofName? (s : String) : Option Kind := all.find? fun k => k.name = s

/-- The options are at fault. -/
def isConfiguration : Kind → Bool
  | configuration | credentialUnavailable => true
  | other _ families => families.configuration
  | _ => false

/-- The vault gave no token. -/
def isAuthentication : Kind → Bool
  | authentication => true
  | other _ families => families.authentication
  | _ => false

/-- The operating system refused. -/
def isSystem : Kind → Bool
  | system | missingFile => true
  | other _ families => families.system
  | _ => false

/-- A value is wrong in itself or in its form. -/
def isValue : Kind → Bool
  | value | validation | jsonDecoding | textDecoding | textEncoding => true
  | other _ families => families.value
  | _ => false

/-- There was no answer, or not a good one. -/
def isHttp : Kind → Bool
  | http | httpStatus | connect | connectTimeout | readTimeout | poolTimeout | write | read
  | remoteProtocol | unsupportedProtocol | proxy | decoding | tooManyRedirects => true
  | other _ families => families.http
  | _ => false

/-- A kind of the list is found by its name. -/
theorem ofName?_name {k : Kind} (h : k ∈ all) : ofName? k.name = some k := by
  have found : ∀ k ∈ all, ofName? k.name = some k := by decide +kernel
  exact found k h

/-- Different kinds of the list have different names. -/
theorem name_injective {j k : Kind} (hj : j ∈ all) (hk : k ∈ all) (h : j.name = k.name) :
    j = k := by
  have := congrArg ofName? h
  rw [ofName?_name hj, ofName?_name hk] at this
  exact Option.some.inj this

end Kind

end IamLogin
