import IamLogin.Field.Checked
import IamLogin.Json.Basic
import IamLogin.Number.Literal

/-!
# Reading fields

How a received value becomes a text, a truth value, an integer or a floating-point number. A value
of another kind is taken where it says the same thing: a text with digits for an integer, a zero for
a truth value.
-/

namespace IamLogin.Field

/-- A text. It is taken as it is, and no other kind of value is taken for one. -/
def text : Json → Except Problem Text
  | .str t => .ok t
  | _ => .error .notText

/-- A text or nothing. -/
def text? : Json → Except Problem (Option Text)
  | .null => .ok none
  | v => (text v).map some

/-- A text without lone halves. -/
def string (v : Json) : Except Problem String := do
  match (← text v).toString? with
  | some s => .ok s
  | none => .error .brokenText

/-- A text that is not empty. Its characters are counted, so it cannot have lone halves. -/
def nonemptyText (v : Json) : Except Problem String := do
  let s ← string v
  if s.isEmpty then .error .emptyText else .ok s

/-- The truth value that a word stands for. -/
def wordBool? (word : String) : Option Bool :=
  if ["0", "off", "f", "false", "n", "no"].contains word.toLower then some false
  else if ["1", "on", "t", "true", "y", "yes"].contains word.toLower then some true
  else none

/-- The truth value that an integer stands for. -/
def integerBool (n : Int) : Except Problem Bool :=
  if n = 0 then .ok false else if n = 1 then .ok true else .error .unreadableBool

/-- A truth value, or one of the numbers and words that stand for one. -/
def bool : Json → Except Problem Bool
  | .bool b => .ok b
  | .int n => integerBool n
  | .float x => if x.isIntegral then integerBool x.truncate else .error .notBool
  | .str t => match t.toString? with
    | none => .error .brokenText
    | some word => match wordBool? word with
      | some b => .ok b
      | none => .error .unreadableBool
  | _ => .error .notBool

/-- An integer. A floating-point number is taken if it is whole and fits 64 bits. -/
def integer : Json → Except Problem Int
  | .int n => .ok n
  | .bool b => .ok (if b then 1 else 0)
  | .float x =>
    if !x.isFinite then .error .notFinite
    else if !x.isIntegral then .error .fraction
    else if -0x8000000000000000 < x.truncate ∧ x.truncate < 0x8000000000000000 then .ok x.truncate
    else .error .hugeInteger
  | .str t => match t.toChars? with
    | none => .error .brokenText
    | some cs => match Literal.integer cs with
      | .ok n => .ok n
      | .error .malformed => .error .unreadableInteger
      | .error .tooLong => .error .hugeInteger
  | _ => .error .notInteger

/-- A floating-point number. -/
def double : Json → Except Problem Double
  | .float x => .ok x
  | .int n =>
    let x := Double.ofInt n
    if x.isFinite then .ok x else .error .notNumber
  | .bool b => .ok (Double.ofInt (if b then 1 else 0))
  | .str t => match t.toChars? with
    | none => .error .brokenText
    | some cs => match Literal.double? cs with
      | some x => .ok x
      | none => .error .unreadableNumber
  | _ => .error .notNumber

/-- An integer above zero. -/
def positiveInteger (v : Json) : Except Problem Int := do
  let n ← integer v
  if 0 < n then .ok n else .error .notPositive

/-- A floating-point number above zero. -/
def positiveDouble (v : Json) : Except Problem Double := do
  let x ← double v
  if x.isPositive then .ok x else .error .notPositive

/-- The members of an object. -/
def object : Json → Except Problem Json.Members
  | .obj members => .ok members
  | _ => .error .notObject

/-! ## Members -/

variable {α : Type}

/-- A value that has to be there. -/
def need (name : String) (read : Json → Except Problem α) (found : Option Json) : Checked α :=
  Checked.ofField [Text.ofString name] <|
    match found with
    | some v => read v
    | none => .error .missing

/-- A value with a substitute when it is not there. -/
def allow (name : String) (substitute : α) (read : Json → Except Problem α)
    (found : Option Json) : Checked α :=
  Checked.ofField [Text.ofString name] <|
    match found with
    | some v => read v
    | none => .ok substitute

/-- A member that has to be there. -/
def required (name : String) (read : Json → Except Problem α) (members : Json.Members) :
    Checked α :=
  need name read (Json.member? name members)

/-- A member with a substitute when it is absent. -/
def optional (name : String) (substitute : α) (read : Json → Except Problem α)
    (members : Json.Members) : Checked α :=
  allow name substitute read (Json.member? name members)

end IamLogin.Field
