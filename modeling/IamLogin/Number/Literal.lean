import IamLogin.Number.Decimal
import IamLogin.Number.Double
import IamLogin.Number.Grouped
import IamLogin.Text.Blank
import IamLogin.Text.Pieces

/-!
# Numbers written as text

Settings and received values can give a number as a text. A plain integer has digits without
leading zeros and perhaps a minus sign. Around it some freedom is allowed: white space, a plus sign,
leading zeros with underscores among them, single underscores between the other digits, a point with
nothing but zeros after it. A floating-point number is written with digits, a point and an exponent,
or as a word for infinity or for no number; it can have white space around it or single underscores
inside, but not both.
-/

namespace IamLogin

namespace Literal

/-- Why a text was not read as an integer. -/
inductive Refusal where
  /-- It is no integer. -/
  | malformed
  /-- It has more digits than are converted. -/
  | tooLong
deriving DecidableEq, Repr

/-- The greatest number of digits that are converted. -/
def digitLimit : Nat := 4300

/-- A minus sign, if there is one, and what follows it. -/
def minus : List Char → Bool × List Char
  | '-' :: rest => (true, rest)
  | rest => (false, rest)

/-- Whether a text begins with a plain integer of too many digits. -/
def beginsHuge (cs : List Char) : Bool :=
  let digits := (minus cs).2.takeWhile Decimal.isDigit
  digits.head? ≠ some '0' ∧ digits.length > digitLimit

/-- The value of a plain integer. -/
def plainInteger? (cs : List Char) : Option Int :=
  let (negative, digits) := minus cs
  let plain := digits = ['0'] ∨ (digits ≠ [] ∧ digits.head? ≠ some '0')
  if plain ∧ digits.all Decimal.isDigit ∧ digits.length ≤ digitLimit then
    some (Decimal.signed negative digits)
  else none

/-- A text without a point and the zeros after it; `none` if something else follows a point. -/
def dropPoint? (cs : List Char) : Option (List Char) :=
  match cutFirst '.' cs with
  | (_, none) => some cs
  | (whole, some zeros) => if zeros ≠ [] ∧ zeros.all (· = '0') then some whole else none

/-- A text without its underscores; `none` if one of them stands at an end or beside another. -/
def dropUnderscores? (cs : List Char) : Option (List Char) :=
  let beside := (cs.zip (cs.drop 1)).contains ('_', '_')
  if cs.head? = some '_' ∨ cs.getLast? = some '_' ∨ beside then none
  else some (cs.filter (· ≠ '_'))

/-- A text without the zeros in front and the underscores among them. If it begins with a zero and
goes on with nothing else, its last character stays. -/
def dropZeros (cs : List Char) : List Char :=
  match cs with
  | '0' :: rest => match rest.dropWhile fun c => c = '0' ∨ c = '_' with
    | [] => cs.getLast?.toList
    | rest => rest
  | _ => cs

/-- A text without a sign, brought into the form of a plain integer. What follows dropped zeros is
as good as a text of its own, so it can begin with a minus sign. -/
def tidy? (cs : List Char) : Option (List Char) :=
  (dropPoint? cs).bind fun whole => dropUnderscores? (dropZeros whole)

/-- A text brought into the form of a plain integer. -/
def normal? (cs : List Char) : Option (List Char) :=
  match trimBoth isWhiteSpace cs with
  | '+' :: '-' :: _ => none
  | '+' :: rest => tidy? rest
  | '-' :: rest => (tidy? rest).map ('-' :: ·)
  | rest => tidy? rest

/-- The integer in a text. Too many digits are told apart from other faults only where the text
begins with them as it is. -/
def integer (cs : List Char) : Except Refusal Int :=
  if beginsHuge cs then .error .tooLong
  else match (normal? cs).bind plainInteger? with
    | some n => .ok n
    | none => .error .malformed

/-- The value of an exponent, if there is one: a letter, an optional sign and digits. -/
def exponent? : List Char → Option Int
  | [] => some 0
  | c :: rest =>
    let (negative, digits) := Grouped.sign rest
    if (c = 'e' ∨ c = 'E') ∧ digits ≠ [] ∧ digits.all Decimal.isDigit then
      some (Decimal.signed negative digits)
    else none

/-- The number in digits, a point and an exponent. There is a digit before or after the point. -/
def decimal? (negative : Bool) (cs : List Char) : Option Double :=
  let whole := cs.takeWhile Decimal.isDigit
  let rest := cs.dropWhile Decimal.isDigit
  let (fraction, rest) := match rest with
    | '.' :: after => (after.takeWhile Decimal.isDigit, after.dropWhile Decimal.isDigit)
    | _ => ([], rest)
  if whole = [] ∧ fraction = [] then none
  else (exponent? rest).map fun e =>
    Double.ofDecimal negative (Decimal.value (whole ++ fraction)) (e - fraction.length)

/-- The floating-point number in a text without white space and underscores. -/
def plainDouble? (cs : List Char) : Option Double :=
  let (negative, rest) := Grouped.sign cs
  match String.ofList (rest.map Char.toLower) with
  | "inf" => some (.infinity negative)
  | "infinity" => some (.infinity negative)
  | "nan" => some .nan
  | _ => decimal? negative rest

/-- The floating-point number in a text. -/
def double? (cs : List Char) : Option Double :=
  (plainDouble? (trimBoth isWhiteSpace cs)).or ((dropUnderscores? cs).bind plainDouble?)

example : integer " +07_0.0 ".toList = .ok 70 := by cbv
example : integer "0__1".toList = .ok 1 := by cbv
example : integer "1__0".toList = .error .malformed := by cbv
example : integer "0-5".toList = .ok (-5) := by cbv
example : integer "-0-5".toList = .error .malformed := by cbv
example : (double? "2_5".toList).isSome = true := by cbv
example : (double? " 2_5".toList).isSome = false := by cbv

end Literal

end IamLogin
