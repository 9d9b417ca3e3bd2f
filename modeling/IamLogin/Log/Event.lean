import IamLogin.Entries
import IamLogin.Text.Basic

/-!
# Log events

What the parts of a login report about themselves. An event has a level, a name and fields; it says
nothing about where and how it is written.
-/

namespace IamLogin

/-- The level of an event. -/
inductive Level where
  /-- Of use when searching for a fault. -/
  | debug
  /-- Something went as it should. -/
  | info
  /-- Something went wrong, and the program goes on. -/
  | warning
  /-- Something went wrong. -/
  | error
  /-- The program cannot go on. -/
  | critical
deriving DecidableEq, Repr

namespace Level

/-- The name of a level. -/
def name : Level → String
  | debug => "debug"
  | info => "info"
  | warning => "warning"
  | error => "error"
  | critical => "critical"

/-- The level with a name. -/
def ofName? (s : String) : Option Level :=
  [debug, info, warning, error, critical].find? fun l => l.name = s

/-- The number by which levels are compared. -/
def severity : Level → Nat
  | debug => 10
  | info => 20
  | warning => 30
  | error => 40
  | critical => 50

end Level

/-- The parts of a login that report events. -/
inductive Emitter where
  /-- The login as a whole. -/
  | session
  /-- The signer. -/
  | signer
  /-- The vault. -/
  | vault
deriving DecidableEq, Repr

/-- The name of the logger of a part. -/
def Emitter.loggerName : Emitter → String
  | .session => "vault_gcp_auth.auth.iam"
  | .signer => "vault_gcp_auth.auth.signing"
  | .vault => "vault_gcp_auth.vault.login"

/-- An event. -/
structure Event where
  /-- Which part reports it. -/
  emitter : Emitter
  /-- Its level. -/
  level : Level
  /-- Its name. -/
  name : String
  /-- Its fields. -/
  fields : Entries String (Option Text)
deriving DecidableEq, Repr

namespace Event

/-- A claim about an account was signed with a key. -/
def signed (resource : Text) (keyId : Option Text) : Event :=
  ⟨.signer, .debug, "jwt_signed", [("service_account", some resource), ("key_id", keyId)]⟩

/-- The vault exchanged an assertion for a token. -/
def exchanged (method mount : Text) : Event :=
  ⟨.vault, .debug, "vault_login_succeeded",
    [("method", some method), ("mount_path", some mount)]⟩

/-- A login succeeded. -/
def succeeded (mount role : Text) : Event :=
  ⟨.session, .info, "gcp_iam_login_succeeded",
    [("mount_path", some mount), ("role", some role)]⟩

/-- A login failed. The name of the kind of failure is given if a step before the vault failed, or
the vault in an unforeseen way. -/
def failed (mount role : Text) (kind : Option String) : Event :=
  ⟨.session, .warning, "gcp_iam_login_failed",
    [("mount_path", some mount), ("role", some role)] ++
      match kind with
      | none => []
      | some kind => [("error", some (Text.ofString kind))]⟩

end Event

end IamLogin
