import IamLogin.Claims
import IamLogin.Field.Reading
import IamLogin.Http.Client
import IamLogin.Json.Bytes

/-!
# The signer

The signer is a service that signs claims in the name of a service account, so that no private key
is needed here. It is asked under the path of the account, with the access token of the credential
if there is one. An answer is good if its status is a success and its body holds a signed assertion;
whatever else comes back is a signing failure, unless it is of a kind that nobody foresaw. Claims that
cannot be written are no matter of the signer, which is not asked then.
-/

namespace IamLogin

/-- The service that signs claims. -/
structure Signer where
  /-- Its address. -/
  address : Text
  /-- How it reacts. -/
  endpoint : Endpoint

/-- What a signer answers. -/
structure Signature where
  /-- The key that was used. -/
  keyId : Option Text
  /-- The claim with its signature. -/
  assertion : String
deriving DecidableEq, Repr

namespace Signature

/-- The signature in the members of an answer. Each of the two has a second name, which counts if
the first one is absent. -/
def check (members : Json.Members) : Checked Signature :=
  let either (first second : String) : Option Json :=
    (Json.member? first members).or (Json.member? second members)
  Signature.mk
    <$> Field.allow "keyId" none Field.text? (either "keyId" "key_id")
    <*> Field.need "signedJwt" Field.nonemptyText (either "signedJwt" "signed_jwt")

/-- The signature in an answer. -/
def ofResponse (answer : Response) : Except Failure Signature := do
  if !answer.status.isSuccess then throw (.badStatus answer.status)
  let value ← (Json.readBytes answer.body).mapError .badBody
  match value with
  | .obj members => match check members with
    | .valid signature => return signature
    | .invalid issues => throw (.invalid .answer issues)
  | _ => throw (.invalid .answer [⟨[], .notObject⟩])

end Signature

namespace Signer

/-- The address of the service unless another one is set. -/
def defaultAddress : Text := Text.ofString "https://iamcredentials.googleapis.com"

/-- The name under which the service knows an account. -/
def resource (project account : Text) : Text :=
  Text.ofString "projects/" ++ project ++ Text.ofString "/serviceAccounts/" ++ account

/-- What is posted to have a payload signed. -/
def posting (s : Signer) (resource : Text) (payload : String) (token : Option Text) : Posting :=
  { address := s.address
    path := Text.ofString "/v1/" ++ resource ++ Text.ofString ":signJwt"
    accept := "application/json"
    headers := match token with
      | none => []
      | some token =>
        if token.isEmpty then [] else [("authorization", Text.ofString "Bearer " ++ token)]
    body := [("payload", Text.ofString payload)] }

/-- A failure while asking for a signature, as it is reported. -/
def explain (resource : Text) (failure : Failure) : Failure :=
  match failure with
  | .badStatus status => .signingRefused status resource
  | failure =>
    if failure.kind.isHttp then .signingFailed failure
    else if failure.kind.isValue then .signingMalformed failure
    else failure

/-- Have members signed in the name of an account. Members that cannot be written are refused before
the signer is asked, in the words of the writer. -/
def sign (s : Signer) (project account : Text) (claims : Json.Members)
    (token : Option Text) : Action String := do
  let resource := resource project account
  let payload ← Action.ofExcept (Claims.payload claims)
  let ask : Action Signature := do
    let answer ← (s.posting resource payload token).send .iam s.endpoint
    Action.ofExcept (Signature.ofResponse answer)
  let signature ← tryCatch ask fun failure => throw (explain resource failure)
  Action.report (.signed resource signature.keyId)
  return signature.assertion

end Signer

end IamLogin
