import IamLogin.Entries
import IamLogin.Number.Double
import IamLogin.Text.Basic

/-!
# JSON values

JSON as it is received and sent. Integers are exact and of any size, numbers with a fraction or an
exponent are floating-point numbers, texts may hold lone surrogate halves, and the members of an
object keep their order.
-/

namespace IamLogin

/-- A JSON value. -/
inductive Json where
  /-- No value. -/
  | null
  /-- A truth value. -/
  | bool (b : Bool)
  /-- A number written without fraction and exponent. -/
  | int (n : Int)
  /-- A number written with a fraction or an exponent. -/
  | float (x : Double)
  /-- A text. -/
  | str (t : Text)
  /-- A list. -/
  | arr (items : List Json)
  /-- An object. -/
  | obj (members : List (Text × Json))
deriving Inhabited

namespace Json

/-- The members of an object. -/
abbrev Members := Entries Text Json

/-- A string as a value. -/
def ofString (s : String) : Json := .str (Text.ofString s)

/-- A text, or nothing. -/
def ofText? : Option Text → Json
  | none => .null
  | some t => .str t

/-- The member of this name. -/
def member? (name : String) (members : Members) : Option Json :=
  Entries.get? (Text.ofString name) members

/-- An object with the named members. -/
def ofMembers (members : List (String × Json)) : Json :=
  .obj (members.map fun m => (Text.ofString m.1, m.2))

/-- The members of an object; no other value has any. -/
def members? : Json → Option Members
  | .obj members => some members
  | _ => none

end Json

end IamLogin
