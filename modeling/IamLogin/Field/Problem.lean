import IamLogin.Text.Basic

/-!
# Problems with values

What can be wrong with a value in a place where a value of some kind is wanted. A problem has a
short name for programs and a sentence for people.
-/

namespace IamLogin

/-- What is wrong with a value. -/
inductive Problem where
  /-- There is no value. -/
  | missing
  /-- The value is no text. -/
  | notText
  /-- The text has a lone surrogate half. -/
  | brokenText
  /-- The text is empty. -/
  | emptyText
  /-- The value is no truth value. -/
  | notBool
  /-- The text or number stands for no truth value. -/
  | unreadableBool
  /-- The value is no integer. -/
  | notInteger
  /-- The text is no integer. -/
  | unreadableInteger
  /-- The number has a fraction. -/
  | fraction
  /-- The number is not finite. -/
  | notFinite
  /-- The integer is too large to be read. -/
  | hugeInteger
  /-- The value is no number. -/
  | notNumber
  /-- The text is no number. -/
  | unreadableNumber
  /-- The number is not above zero. -/
  | notPositive
  /-- The value is no object. -/
  | notObject
  /-- There is a value where none is wanted. -/
  | unexpected
deriving DecidableEq, Repr

namespace Problem

/-- The name of a problem. -/
def name : Problem → String
  | missing => "missing"
  | notText => "string_type"
  | brokenText => "string_unicode"
  | emptyText => "string_too_short"
  | notBool => "bool_type"
  | unreadableBool => "bool_parsing"
  | notInteger => "int_type"
  | unreadableInteger => "int_parsing"
  | fraction => "int_from_float"
  | notFinite => "finite_number"
  | hugeInteger => "int_parsing_size"
  | notNumber => "float_type"
  | unreadableNumber => "float_parsing"
  | notPositive => "greater_than"
  | notObject => "model_type"
  | unexpected => "extra_forbidden"

/-- The sentence for a problem. -/
def message : Problem → String
  | missing => "Field required"
  | notText => "Input should be a valid string"
  | brokenText => "Input should be a valid string, unable to parse raw data as a unicode string"
  | emptyText => "String should have at least 1 character"
  | notBool => "Input should be a valid boolean"
  | unreadableBool => "Input should be a valid boolean, unable to interpret input"
  | notInteger => "Input should be a valid integer"
  | unreadableInteger => "Input should be a valid integer, unable to parse string as an integer"
  | fraction => "Input should be a valid integer, got a number with a fractional part"
  | notFinite => "Input should be a finite number"
  | hugeInteger => "Unable to parse input string as an integer, exceeded maximum size"
  | notNumber => "Input should be a valid number"
  | unreadableNumber => "Input should be a valid number, unable to parse string as a number"
  | notPositive => "Input should be greater than 0"
  | notObject => "Input should be a valid dictionary"
  | unexpected => "Extra inputs are not permitted"

end Problem

/-- A problem and the place where it was found. -/
structure Issue where
  /-- The names of the members that lead to the place. -/
  place : List Text
  /-- What is wrong there. -/
  problem : Problem
deriving DecidableEq, Repr

end IamLogin
