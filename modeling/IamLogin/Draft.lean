import IamLogin.Options
import IamLogin.Text.Blank

/-!
# Drafts of options

Options are drafted slot by slot and checked once. A draft remembers only the last value written to
each slot; `Draft.build` turns it into options or says which of four conditions is the first that it
fails. Nothing done to a draft later changes the options that were built from it.
-/

namespace IamLogin

/-- The mount path unless another one is written. -/
def defaultMountPath : Text := Text.ofString "gcp"

/-- The validity unless another one is written: fifteen minutes. -/
def defaultValidity : Duration := .ofParts 0 900 0

/-- The least validity. Expiry is counted in whole seconds, so a claim that is good for less would
be expired when it is issued. -/
def leastValidity : Duration := .ofParts 0 1 0

/-- Options that are being drafted. -/
structure Draft where
  /-- The role, if one is written. -/
  role : Option Text := none
  /-- The mount path; it can be unset. -/
  mountPath : Option Text := some defaultMountPath
  /-- How long a signed claim is good for. -/
  validity : Duration := defaultValidity
  /-- Who supplies the credential. -/
  supplier : Option Supplier := none
  /-- The way to the service account id, if one is written. -/
  account : Option Accessor := none
  /-- The way to the project id, if one is written. -/
  project : Option Accessor := none
  /-- Where the time comes from. -/
  clock : Clock := .system

/-- One thing written to a draft. -/
inductive Change where
  /-- The role. -/
  | role (role : Option Text)
  /-- The mount path. -/
  | mountPath (path : Option Text)
  /-- How long a signed claim is good for. -/
  | validity (validity : Duration)
  /-- A credential at hand. -/
  | credential (credential : Option Credential)
  /-- Who supplies the credential. -/
  | supplier (supplier : Option Supplier)
  /-- The service account id itself. -/
  | accountId (id : Option Text)
  /-- The way to the service account id. -/
  | account (accessor : Accessor)
  /-- The project id itself. -/
  | projectId (id : Option Text)
  /-- The way to the project id. -/
  | project (accessor : Accessor)
  /-- Where the time comes from. -/
  | clock (clock : Clock)

namespace Draft

/-- A draft after a change. -/
def apply (d : Draft) : Change → Draft
  | .role role => { d with role }
  | .mountPath mountPath => { d with mountPath }
  | .validity validity => { d with validity }
  | .credential credential => { d with supplier := some (.fixed credential) }
  | .supplier supplier => { d with supplier }
  | .accountId id => { d with account := some (.constant id) }
  | .account accessor => { d with account := some accessor }
  | .projectId id => { d with project := some (.constant id) }
  | .project accessor => { d with project := some accessor }
  | .clock clock => { d with clock }

/-- A draft after changes. -/
def applyAll (d : Draft) (changes : List Change) : Draft := changes.foldl apply d

/-- A mount path without the slashes at its ends. -/
def stripSlashes (path : Text) : Text := trimBoth (· = .char '/') path

/-- The options in a draft. -/
def build (d : Draft) : Except Failure Options :=
  let role := d.role.getD []
  let mountPath := stripSlashes (d.mountPath.getD [])
  if role.allBlank then .error .blankRole
  else if d.supplier.isNone && !(d.account.isSome && d.project.isSome) then .error .noIdentity
  else if d.validity.micros < leastValidity.micros then .error .shortValidity
  else if mountPath.isEmpty then .error .emptyMount
  else .ok {
    role, mountPath
    supplier := d.supplier
    validity := d.validity
    account := d.account
    project := d.project
    clock := d.clock }

end Draft

end IamLogin
