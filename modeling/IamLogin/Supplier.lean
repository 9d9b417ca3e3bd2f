import IamLogin.Credential
import IamLogin.Journal

/-!
# Suppliers of credentials

A supplier is asked for a credential when a login is set up. It has one at hand, or makes a lookup.
A guarded lookup reports a refusal of the operating system, a wrong value and the lack of a
credential as one kind of failure; a direct lookup is a supplier of the caller's own, whose failures
and answers are passed on as they are.
-/

namespace IamLogin

/-- What a lookup gives when it is made after the given number of others. -/
abbrev Lookup := Nat → Except Failure (Option Credential)

/-- A supplier of credentials. -/
inductive Supplier where
  /-- A credential at hand. -/
  | fixed (credential : Option Credential)
  /-- A lookup whose failures are sorted out. -/
  | guarded (lookup : Lookup)
  /-- A lookup whose outcome is passed on. -/
  | direct (lookup : Lookup)

namespace Supplier

/-- Make a lookup. -/
def make (lookup : Lookup) : Action (Option Credential) := do
  let earlier := (← get).lookups
  Action.record .lookup
  Action.ofExcept (lookup earlier)

/-- Sort out the outcome of a guarded lookup. -/
def guard : Except Failure (Option Credential) → Except Failure (Option Credential)
  | .ok (some credential) => .ok (some credential)
  | .ok none => .error .noCredential
  | .error failure =>
    if failure.kind.isSystem || failure.kind.isValue then .error (.lookupFailed failure)
    else .error failure

/-- Ask a supplier for a credential. -/
def ask (supplier : Supplier) : Action (Option Credential) := do
  Action.record .inquiry
  match supplier with
  | fixed credential => pure credential
  | guarded lookup => make fun earlier => guard (lookup earlier)
  | direct lookup => make lookup

end Supplier

end IamLogin
