import IamLogin.Identity
import IamLogin.Supplier
import IamLogin.Time.Moment

/-!
# Options of a login

What has to be known for a login: as whom, where, for how long, and by which clock. Options are a
value, and whoever holds them can rely on what was checked when they were made.
-/

namespace IamLogin

/-- Where the time of a claim comes from. -/
inductive Clock where
  /-- The clock of the system. -/
  | system
  /-- A clock of the caller's own: what it shows, or how it fails, after the given number of
  earlier readings. -/
  | custom (reading : Nat → Except Failure Moment)

/-- The options of a login. -/
structure Options where
  /-- The role to log in as. -/
  role : Text
  /-- Who supplies the credential. -/
  supplier : Option Supplier
  /-- Where the vault has mounted the login method. -/
  mountPath : Text
  /-- How long a signed claim is good for. -/
  validity : Duration
  /-- The way to the service account id, unless it is read from the credential. -/
  account : Option Accessor
  /-- The way to the project id, unless it is read from the credential. -/
  project : Option Accessor
  /-- Where the time comes from. -/
  clock : Clock

namespace Options

/-- Find out the service account id. -/
def accountId (o : Options) (credential : Option Credential) : Except Failure Text :=
  Subject.account.resolve o.account credential

/-- Find out the project id. -/
def projectId (o : Options) (credential : Option Credential) : Except Failure Text :=
  Subject.project.resolve o.project credential

end Options

end IamLogin
