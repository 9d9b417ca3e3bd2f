import IamLogin.Draft
import IamLogin.Field.Reading
import IamLogin.Signer

/-!
# Settings

Settings come from three sources. For each field, a keyword given in the program counts before the
environment, and the environment before the default. Keywords and variables are compared without
regard to case, so one field can be given under several spellings; then the first keyword counts,
but the last variable. Only the value that counts is checked.
-/

namespace IamLogin

/-- The variables of an environment, in the order in which they were first set. -/
abbrev Environment := Entries Text Text

/-- What can be set from outside. -/
structure Settings where
  /-- The service that log lines are about. -/
  serviceName : Text
  /-- The least level of the events that are logged. -/
  logLevel : Text
  /-- The address of the vault. -/
  vaultAddress : Text
  /-- The part of the vault that is meant. -/
  vaultNamespace : Option Text
  /-- Where the vault has mounted the login method. -/
  mountPath : Text
  /-- The role to log in as. -/
  role : Text
  /-- For how many seconds a signed claim is good. -/
  validitySeconds : Int
  /-- The service account id, unless it is read from the credential. -/
  accountId : Option Text
  /-- The project id, unless it is read from the credential. -/
  projectId : Option Text
  /-- The address of the signer. -/
  signerAddress : Text
  /-- For how many seconds an answer is awaited. -/
  timeoutSeconds : Double
deriving DecidableEq, Repr

namespace Settings

/-- The names of the fields, in order. -/
def fieldNames : List String := [
  "service_name", "log_level", "vault_addr", "vault_namespace", "mount_path", "role",
  "jwt_validity_seconds", "service_account_id", "project_id", "iam_credentials_url",
  "http_timeout_seconds"]

/-- What stands before the name of a field in the name of a variable. -/
def variableStem : String := "vault_gcp_"

/-- A name as it is compared. -/
def fold (name : Text) : Text :=
  name.map fun
    | .char c => .char c.toLower
    | .half h => .half h

/-- The keyword that counts for a field: the first under any spelling. -/
def fromKeywords? (keywords : Json.Members) (name : String) : Option Json :=
  (keywords.find? fun k => fold k.1 = Text.ofString name).map Prod.snd

/-- The variable that counts for a field: the last under any spelling. -/
def fromEnvironment? (environment : Environment) (name : String) : Option Text :=
  (environment.reverse.find? fun v => fold v.1 = Text.ofString (variableStem ++ name)).map Prod.snd

/-- The value that counts for a field, unless it is left at its default. -/
def chosen? (keywords : Json.Members) (environment : Environment) (name : String) : Option Json :=
  (fromKeywords? keywords name).or ((fromEnvironment? environment name).map Json.str)

/-- The keywords that name no field. -/
def strangers (keywords : Json.Members) : List Text :=
  (keywords.map Prod.fst).filter fun k => !(fieldNames.map Text.ofString).contains (fold k)

/-- The settings with the given values for fields; the others are left at their defaults. -/
def ofValues (given : String → Option Json) : Checked Settings :=
  let field {α : Type} (name : String) (substitute : α) (read : Json → Except Problem α) :=
    Field.allow name substitute read (given name)
  Settings.mk
    <$> field "service_name" (Text.ofString "vault-gcp-auth") Field.text
    <*> field "log_level" (Text.ofString "INFO") Field.text
    <*> field "vault_addr" (Text.ofString "http://127.0.0.1:8200") Field.text
    <*> field "vault_namespace" none Field.text?
    <*> field "mount_path" defaultMountPath Field.text
    <*> field "role" [] Field.text
    <*> field "jwt_validity_seconds" 900 Field.positiveInteger
    <*> field "service_account_id" none Field.text?
    <*> field "project_id" none Field.text?
    <*> field "iam_credentials_url" Signer.defaultAddress Field.text
    <*> field "http_timeout_seconds" (Double.ofInt 10) Field.positiveDouble

/-- The settings made of keywords and an environment. A keyword that names no field is an issue of
its own. -/
def check (keywords : Json.Members) (environment : Environment) : Checked Settings :=
  (ofValues (chosen? keywords environment)).alongside
    ((strangers keywords).map fun k => ⟨[k], .unexpected⟩)

/-- The settings made of keywords and an environment, or the failure to make them. -/
def read (keywords : Json.Members) (environment : Environment) : Except Failure Settings :=
  match check keywords environment with
  | .valid settings => .ok settings
  | .invalid issues => .error (.invalid .settings issues)

end Settings

end IamLogin
