import IamLogin.Credential

/-!
# Identity

A login is for a service account of a project. Each of the two ids is read from the credential, or
given in its own right: by an accessor, which may look at the credential, may fail, and may give
anything. Only a text that is not empty is an id.
-/

namespace IamLogin

/-- A way to an id, from the credential if there is one. -/
abbrev Accessor := Option Credential → Except Failure Json

namespace Accessor

/-- The same value whatever the credential. -/
def constant (value : Option Text) : Accessor := fun _ => .ok (Json.ofText? value)

/-- The part of the credential with a name. -/
def part (name : String) : Accessor
  | none => .error (.noPart false name)
  | some credential => match credential.part? name with
    | none => .error (.noPart true name)
    | some value => .ok value

end Accessor

namespace Subject

/-- The accessor for an id that is not given in its own right. -/
def fromCredential : Subject → Accessor
  | .project => Accessor.part "project_id"
  | .account => Accessor.part "client_email"

/-- The id in what an accessor gave. -/
def check (subject : Subject) : Except Failure Json → Except Failure Text
  | .error failure => .error (.accessorFailed subject failure)
  | .ok (.str id) => if id.isEmpty then .error (.unusableId subject (.str id)) else .ok id
  | .ok value => .error (.unusableId subject value)

/-- Find out an id, by the accessor given for it if there is one. -/
def resolve (subject : Subject) (given : Option Accessor) (credential : Option Credential) :
    Except Failure Text :=
  subject.check ((given.getD subject.fromCredential) credential)

/-- What is found out is never empty. -/
theorem resolve_ne_empty {subject : Subject} {given : Option Accessor}
    {credential : Option Credential} {id : Text}
    (h : subject.resolve given credential = .ok id) : id ≠ [] := by
  simp only [resolve, check] at h
  split at h
  · simp at h
  · split at h
    · simp at h
    · simp_all
  · simp at h

end Subject

end IamLogin
