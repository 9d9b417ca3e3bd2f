import IamLogin.Failure.Kind
import IamLogin.Field.Problem
import IamLogin.Http.Status
import IamLogin.Json.Notation
import IamLogin.Json.Writer
import IamLogin.Time.Duration
import IamLogin.Url.Reader

/-!
# Failures

What went wrong, as a cause that can be told from every other cause. The kind of a failure, its
wording and the failure behind it are read off the cause.
-/

namespace IamLogin

/-- What an id names. -/
inductive Subject where
  /-- The project. -/
  | project
  /-- The service account. -/
  | account
deriving DecidableEq, Repr

/-- The words for what an id names. -/
def Subject.words : Subject → String
  | .project => "project id"
  | .account => "service account id"

/-- The forms that received objects are checked against, where the outcome is reported. -/
inductive Form where
  /-- A service account credential. -/
  | credential
  /-- The settings. -/
  | settings
  /-- An answer of a service. -/
  | answer
deriving DecidableEq, Repr

/-- The name of a form. -/
def Form.name : Form → String
  | .credential => "ServiceAccountCredential"
  | .settings => "Settings"
  | .answer => "Answer"

/-- What went wrong. -/
inductive Failure where
  /-- A party outside this library failed in its own words. -/
  | raised (kind : Kind) (text : Text)
  /-- A received object does not have the form it should have. -/
  | invalid (form : Form) (issues : List Issue)
  /-- A key file does not describe a credential. -/
  | keyFile (issues : List Issue)
  /-- The role is blank. -/
  | blankRole
  /-- It is not known for which account and project to log in. -/
  | noIdentity
  /-- The claim would expire as soon as it is issued. -/
  | shortValidity
  /-- The mount path is empty. -/
  | emptyMount
  /-- A lookup found no credential. -/
  | noCredential
  /-- A lookup could not get at a credential. -/
  | lookupFailed (cause : Failure)
  /-- A supplier failed in an unforeseen way. -/
  | supplierFailed (cause : Failure)
  /-- A credential, or the lack of one, has no part of this name. -/
  | noPart (credentialGiven : Bool) (name : String)
  /-- An accessor failed. -/
  | accessorFailed (subject : Subject) (cause : Failure)
  /-- An accessor gave something that is no id. -/
  | unusableId (subject : Subject) (value : Json)
  /-- A number of seconds makes no duration. -/
  | badDuration (fault : Duration.Fault)
  /-- A text is no URL. -/
  | badUrl (fault : Url.Fault)
  /-- An answer sends the client to something that is no URL. -/
  | badRedirect (fault : Url.Fault)
  /-- A URL does not say how it is reached. -/
  | noScheme (url : String)
  /-- A reference has brackets that do not stand around an address. -/
  | badReference
  /-- A header cannot be written in ASCII. -/
  | badHeader
  /-- A lone half cannot be written in UTF-8. -/
  | loneHalf
  /-- A body is no JSON. -/
  | badBody (fault : Json.Fault)
  /-- A value cannot be written as JSON. -/
  | unwritable (fault : Json.Writer.Fault)
  /-- An answer says that the request failed. -/
  | badStatus (status : Status)
  /-- The signer refused. -/
  | signingRefused (status : Status) (resource : Text)
  /-- The signer could not be asked. -/
  | signingFailed (cause : Failure)
  /-- The answer of the signer makes no sense. -/
  | signingMalformed (cause : Failure)
  /-- The vault refused, for the given reasons. -/
  | vaultRefused (method : Text) (reasons : Text)
  /-- The vault could not be asked. -/
  | vaultFailed (method : Text) (cause : Failure)
  /-- The answer of the vault makes no sense. -/
  | vaultMalformed (method : Text) (cause : Failure)
  /-- A step of a login failed. -/
  | stepFailed (method : Text) (cause : Failure)
  /-- A log level names no level. -/
  | unknownLevel (text : String)
  /-- A log level is no level at all. -/
  | levelKind (value : String)
  /-- A log field has a name that is taken. -/
  | takenField (method name : String)

namespace Failure

/-- The kind of a body that is no JSON. -/
def bodyKind : Json.Fault → Kind
  | .encoding => .textDecoding
  | .malformed => .jsonDecoding
  | .hugeInteger => .value
  | .tooDeep _ => .recursion

/-- The kind of a value that cannot be written. -/
def writingKind : Json.Writer.Fault → Kind
  | .hugeInteger => .value
  | .tooDeep => .recursion

/-- The kind of a failure. -/
def kind : Failure → Kind
  | raised kind _ => kind
  | invalid .. => .validation
  | keyFile _ | noCredential | lookupFailed _ => .credentialUnavailable
  | blankRole | noIdentity | shortValidity | emptyMount | supplierFailed _ => .configuration
  | noPart .. => .missingPart
  | accessorFailed .. | unusableId .. => .resolution
  | badDuration _ => .overflow
  | badUrl _ => .invalidUrl
  | badRedirect _ => .remoteProtocol
  | noScheme _ | badReference => .value
  | badHeader | loneHalf => .textEncoding
  | badBody fault => bodyKind fault
  | unwritable fault => writingKind fault
  | badStatus _ => .httpStatus
  | signingRefused .. | signingFailed _ | signingMalformed _ => .signing
  | vaultRefused .. | vaultFailed .. | vaultMalformed .. | stepFailed .. => .authentication
  | unknownLevel _ => .value
  | levelKind _ | takenField .. => .typing

/-- The failure behind a failure. -/
def cause? : Failure → Option Failure
  | keyFile issues => some (invalid .credential issues)
  | lookupFailed cause | supplierFailed cause | accessorFailed _ cause | signingFailed cause
  | signingMalformed cause | vaultFailed _ cause | vaultMalformed _ cause
  | stepFailed _ cause => some cause
  | signingRefused status _ => some (badStatus status)
  | _ => none

/-- How many issues there are with a form. -/
def issueCount (form : Form) (issues : List Issue) : String :=
  Decimal.text issues.length ++ " validation error" ++ (if issues.length = 1 then "" else "s") ++
    " for " ++ form.name

/-- The wording for a body that is no JSON. -/
def bodyMessage : Json.Fault → String
  | .encoding => "body is not text"
  | .malformed => "body is not JSON"
  | .hugeInteger => "body holds an integer with too many digits"
  | .tooDeep container =>
    "maximum recursion depth exceeded while decoding a JSON " ++
      (match container with
        | .array => "array"
        | .object => "object") ++ " from a unicode string"

/-- The wording for a value that cannot be written. -/
def writingMessage : Json.Writer.Fault → String
  | .hugeInteger =>
    "Exceeds the limit (4300 digits) for integer string conversion; " ++
      "use sys.set_int_max_str_digits() to increase the limit"
  | .tooDeep => "maximum recursion depth exceeded while encoding a JSON object"

/-- The wording of a failure. What a vault says is in it as it was received. -/
def message : Failure → Text
  | raised .key text => Text.ofChars (Quoted.ofText text)
  | raised _ text => text
  | invalid form issues => Text.ofString (issueCount form issues)
  | keyFile issues =>
    Text.ofString ("Invalid service account info: " ++ issueCount .credential issues)
  | blankRole => Text.ofString "Role must not be empty"
  | noIdentity => Text.ofString ("Credential or CredentialSupplier must be set unless both " ++
      "service account id and project id are given")
  | shortValidity => Text.ofString "JWT validity must be at least one second"
  | emptyMount => Text.ofString "Mount path must not be empty"
  | noCredential | lookupFailed _ | supplierFailed _ => Text.ofString "Cannot obtain GCP credential"
  | noPart credentialGiven name =>
    Text.ofString ("'" ++ (if credentialGiven then "ServiceAccountCredential" else "NoneType") ++
      "' object has no attribute '" ++ name ++ "'")
  | accessorFailed subject cause =>
    Text.ofString ("Cannot resolve " ++ subject.words ++ ": ") ++ cause.message
  | unusableId subject value =>
    Text.ofString ("Cannot resolve " ++ subject.words ++ ": accessor returned " ++ value.inspect)
  | badDuration fault => Text.ofString fault.message
  | badUrl fault => Text.ofString fault.message
  | badRedirect fault => Text.ofString ("Invalid URL in location header: " ++ fault.message ++ ".")
  | noScheme url => Text.ofString ("unknown url type: " ++ Quoted.ofString url)
  | badReference => Text.ofString "Invalid IPv6 URL"
  | badHeader => Text.ofString "header value is not ASCII"
  | loneHalf => Text.ofString "surrogates not allowed"
  | badBody fault => Text.ofString (bodyMessage fault)
  | unwritable fault => Text.ofString (writingMessage fault)
  | badStatus status => Text.ofString ("status " ++ Decimal.text status.code)
  | signingRefused status resource =>
    Text.ofString ("Cannot sign JWT: IAM returned " ++ Decimal.text status.code ++ " for ") ++ resource
  | signingFailed cause => Text.ofString "Cannot sign JWT: " ++ cause.message
  | signingMalformed _ => Text.ofString "Cannot sign JWT: malformed signJwt response"
  | vaultRefused method reasons =>
    Text.ofString "Cannot login using " ++ method ++ Text.ofString ": " ++ reasons
  | vaultFailed method cause | stepFailed method cause =>
    Text.ofString "Cannot login using " ++ method ++ Text.ofString ": " ++ cause.message
  | vaultMalformed method _ =>
    Text.ofString "Cannot login using " ++ method ++ Text.ofString ": malformed login response"
  | unknownLevel text => Text.ofString ("Unknown level: " ++ Quoted.ofString text)
  | levelKind value => Text.ofString ("Level not an integer or a valid string: " ++ value)
  | takenField method name =>
    Text.ofString ("BoundLogger." ++ method ++ "() got multiple values for argument '" ++ name ++ "'")

/-- The issues that a failure reports one by one. -/
def issues? : Failure → Option (List Issue)
  | invalid _ issues | keyFile issues => some issues
  | _ => none

/-- The failures behind a failure, the nearest first. -/
def causes : Failure → List Failure
  | keyFile issues => [invalid .credential issues]
  | lookupFailed cause | supplierFailed cause | accessorFailed _ cause | signingFailed cause
  | signingMalformed cause | vaultFailed _ cause | vaultMalformed _ cause
  | stepFailed _ cause => cause :: cause.causes
  | signingRefused status _ => [badStatus status]
  | _ => []

/-- The failures behind a failure are the one behind it and those behind that one. -/
theorem causes_eq (f : Failure) :
    f.causes = match f.cause? with
      | none => []
      | some cause => cause :: cause.causes := by
  cases f <;> simp [causes, cause?]

end Failure

end IamLogin
