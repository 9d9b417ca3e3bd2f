import IamLogin.Failure.Basic
import IamLogin.Field.Reading

/-!
# Credentials

A service account credential names an account, its project and perhaps a key, and may carry an
access token. It is read from the object in a key file, where a token given beside the file takes
the place of anything the file says, or from fields given one by one. The token is never shown.
-/

namespace IamLogin

/-- A service account credential. -/
structure Credential where
  /-- The account. -/
  clientEmail : Text
  /-- The project of the account. -/
  projectId : Text
  /-- The key of the account. -/
  privateKeyId : Option Text
  /-- The token that allows requests in the name of the account. -/
  token : Option Text
deriving DecidableEq, Repr

namespace Credential

/-- The credential in the members of an object. Other members are passed over. -/
def check (members : Json.Members) : Checked Credential :=
  Credential.mk
    <$> Field.required "client_email" Field.text members
    <*> Field.required "project_id" Field.text members
    <*> Field.optional "private_key_id" none Field.text? members
    <*> Field.optional "token" none Field.text? members

/-- The credential with fields given one by one. -/
def ofFields (fields : Json.Members) : Except Failure Credential :=
  match check fields with
  | .valid credential => .ok credential
  | .invalid issues => .error (.invalid .credential issues)

/-- The credential in a key file, with a token given beside it. -/
def ofKeyFile (info : Json.Members) (token : Json) : Except Failure Credential :=
  match check (Entries.put (Text.ofString "token") token info) with
  | .valid credential => .ok credential
  | .invalid issues => .error (.keyFile issues)

/-- The part of a credential with a name. -/
def part? (c : Credential) (name : String) : Option Json :=
  match name with
  | "client_email" => some (.str c.clientEmail)
  | "project_id" => some (.str c.projectId)
  | "private_key_id" => some (Json.ofText? c.privateKeyId)
  | "token" => some (Json.ofText? c.token)
  | _ => none

/-- A credential as it is shown, without its token. -/
def inspect (c : Credential) : String :=
  "ServiceAccountCredential(client_email=" ++ String.ofList (Quoted.ofText c.clientEmail) ++
    ", project_id=" ++ String.ofList (Quoted.ofText c.projectId) ++
    ", private_key_id=" ++ String.ofList (Quoted.ofText? c.privateKeyId) ++ ")"

end Credential

end IamLogin
