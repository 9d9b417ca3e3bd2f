import IamLogin.Signer
import IamLogin.Vault

/-!
# Sessions

A session is opened with options that were checked, and asks once for the credential. Each login
then goes the same way: the project id, the account id, the time, the claim, the signature, and the
exchange of the signed claim for a token. The first step that fails ends the login, and every
failed login is reported as one kind of failure with the failed step behind it.
-/

namespace IamLogin

/-- A login transport of the caller's own: what it gives for a method, an assertion, a mount path
and a role after the given number of other uses. -/
abbrev Handover :=
  Nat → (method assertion mount role : Text) → Except Failure Token

/-- Who exchanges assertions for tokens. -/
inductive Transport where
  /-- A vault. -/
  | vault (vault : Vault)
  /-- A transport of the caller's own. -/
  | custom (handover : Handover)

namespace Transport

/-- The times an assertion was handed over to a transport of the caller's own. -/
def handovers (journal : Journal) : Nat :=
  (journal.filter fun
    | .handover .. => true
    | _ => false).length

/-- Exchange an assertion for a token. -/
def exchange (t : Transport) (method assertion mount role : Text) : Action Token :=
  match t with
  | vault v => v.exchange method assertion mount role
  | custom handover => do
    let earlier := handovers (← get)
    Action.record (.handover method assertion mount role)
    Action.ofExcept (handover earlier method assertion mount role)

end Transport

/-- A session. -/
structure Session where
  /-- Its options. -/
  options : Options
  /-- Its credential, if it has one. -/
  credential : Option Credential
  /-- Who signs its claims. -/
  signer : Signer
  /-- Who exchanges them. -/
  transport : Transport
  /-- What the clock of the system shows after the given number of earlier readings. -/
  systemTime : Nat → Moment

namespace Session

/-- The name of the login method. -/
def methodName : Text := Text.ofString "GCP-IAM"

/-- Ask for the credential of a session. A failure that is no matter of configuration yet becomes
one. -/
def obtainCredential : Option Supplier → Action (Option Credential)
  | none => return none
  | some supplier => tryCatch supplier.ask fun failure =>
    throw (if failure.kind.isConfiguration then failure else .supplierFailed failure)

/-- Open a session. -/
def start (options : Options) (signer : Signer) (transport : Transport)
    (systemTime : Nat → Moment) : Action Session := do
  let credential ← obtainCredential options.supplier
  return { options, credential, signer, transport, systemTime }

/-- Read the clock. -/
def readClock (s : Session) : Action Moment := do
  let earlier := (← get).clockReads
  Action.record .clockRead
  match s.options.clock with
  | .system => return s.systemTime earlier
  | .custom reading => Action.ofExcept (reading earlier)

/-- Have a claim signed. -/
def signedClaim (s : Session) : Action String := do
  let project ← Action.ofExcept (s.options.projectId s.credential)
  let account ← Action.ofExcept (s.options.accountId s.credential)
  let now ← s.readClock
  let claims := Claims.make s.options.role s.options.validity account now
  s.signer.sign project account claims.members (s.credential.bind Credential.token)

/-- A failed step, as the login reports it. -/
def explain (failure : Failure) : Failure :=
  if failure.kind.isAuthentication then failure else .stepFailed methodName failure

/-- The event of a failed login. The kind of failure is named if it does not speak for itself. -/
def failureEvent (o : Options) (failure : Failure) : Event :=
  .failed o.mountPath o.role
    (if failure.kind.isAuthentication then none else some failure.kind.name)

/-- Log in. -/
def login (s : Session) : Action Token := do
  let steps : Action Token := do
    let assertion ← s.signedClaim
    s.transport.exchange methodName (Text.ofString assertion) s.options.mountPath s.options.role
  let token ← tryCatch steps fun failure => do
    Action.report (failureEvent s.options failure)
    throw (explain failure)
  Action.report (.succeeded s.options.mountPath s.options.role)
  return token

end Session

end IamLogin
