import IamLogin.Draft
import IamLogin.Session
import IamLogin.Settings.Basic

/-!
# From settings to a session

Settings become options by writing them to a draft, so that they are checked like options drafted
by hand. An id that is empty counts as not given.
-/

namespace IamLogin.Setup

/-- What settings and a supplier write to a draft. -/
def changes (settings : Settings) (validity : Duration) (supplier : Option Supplier) :
    List Change :=
  let given (id : Option Text) : List Text := id.toList.filter (!·.isEmpty)
  [.role settings.role, .mountPath settings.mountPath, .validity validity] ++
    supplier.toList.map (fun s => .supplier (some s)) ++
    (given settings.accountId).map (fun id => .accountId (some id)) ++
    (given settings.projectId).map (fun id => .projectId (some id))

/-- The options in settings. -/
def options (settings : Settings) (supplier : Option Supplier) : Except Failure Options := do
  let validity ← (Duration.ofSeconds settings.validitySeconds).mapError .badDuration
  (Draft.applyAll {} (changes settings validity supplier)).build

/-- The session that settings describe, with the services behind their addresses. -/
def session (settings : Settings) (supplier : Option Supplier) (iam vault : Endpoint)
    (systemTime : Nat → Moment) : Action Session := do
  let options ← Action.ofExcept (options settings supplier)
  Session.start options
    { address := settings.signerAddress, endpoint := iam }
    (.vault {
      address := settings.vaultAddress, space := settings.vaultNamespace, endpoint := vault })
    systemTime

end IamLogin.Setup
