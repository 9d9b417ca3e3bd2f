/-!
# Floating-point numbers

Binary floating-point numbers of 64 bits, as exact values: a finite number is
`significand * 2 ^ exponent` with a sign. Reading a decimal, dividing two integers and taking an
integer over all round the exact quotient to the nearest such number, a tie to the even
significand, so there is one rounding rule and it is stated on natural numbers.
-/

namespace IamLogin

/-- A binary floating-point number of 64 bits. -/
inductive Double where
  /-- Not a number. -/
  | nan
  /-- Beyond every finite number, on either side. -/
  | infinity (negative : Bool)
  /-- The number `significand * 2 ^ exponent`, or its negative. -/
  | finite (negative : Bool) (significand : Nat) (exponent : Int)
deriving DecidableEq, Repr

namespace Double

/-- Significands stay below `2 ^ precision`. -/
def precision : Nat := 53

/-- The least exponent. -/
def leastExponent : Int := -1074

/-- The greatest exponent. -/
def greatestExponent : Int := 971

/-- The quotient rounded to the nearest natural number, a tie to the even one. -/
def roundHalfEven (num den : Nat) : Nat :=
  let quotient := num / den
  let rest := num % den
  if 2 * rest < den ∨ (2 * rest = den ∧ quotient % 2 = 0) then quotient else quotient + 1

/-- The quotient divided by `2 ^ exponent`, rounded. -/
def roundScaled (num den : Nat) (exponent : Int) : Nat :=
  match exponent with
  | .ofNat e => roundHalfEven num (den <<< e)
  | .negSucc e => roundHalfEven (num <<< (e + 1)) den

/-- The greatest power of two that is not above a positive quotient. -/
def quotientLog2 (num den : Nat) : Int :=
  let guess : Int := num.log2 - den.log2
  let below : Bool := match guess with
    | .ofNat e => num < den <<< e
    | .negSucc e => num <<< (e + 1) < den
  if below then guess - 1 else guess

/-- Zero with a sign. -/
def zero (negative : Bool) : Double := .finite negative 0 leastExponent

/-- The number nearest to the quotient of two natural numbers, the second of them positive. -/
def ofRatio (negative : Bool) (num den : Nat) : Double :=
  if num = 0 then zero negative
  else
    let exponent := max (quotientLog2 num den - (precision - 1)) leastExponent
    let significand := roundScaled num den exponent
    let (significand, exponent) :=
      if significand = 1 <<< precision then (1 <<< (precision - 1), exponent + 1)
      else (significand, exponent)
    if exponent > greatestExponent then .infinity negative
    else .finite negative significand exponent

/-- The number nearest to `digits * 10 ^ exponent`. Exponents far outside the range are settled
at once, so that the power of ten that is computed stays small. -/
def ofDecimal (negative : Bool) (digits : Nat) (exponent : Int) : Double :=
  if digits = 0 then zero negative
  else match exponent with
    | .ofNat e => if e > 310 then .infinity negative else ofRatio negative (digits * Nat.pow 10 e) 1
    | .negSucc e =>
      if e > digits.log2 + 400 then zero negative else ofRatio negative digits (Nat.pow 10 (e + 1))

/-- The number nearest to an integer. -/
def ofInt (n : Int) : Double := ofRatio (n < 0) n.natAbs 1

/-- The magnitude of `significand * 2 ^ exponent` without what follows the point. -/
def floorMagnitude (significand : Nat) : Int → Nat
  | .ofNat e => significand <<< e
  | .negSucc e => significand >>> (e + 1)

/-- A finite number without what follows the point, so rounded toward zero. -/
def truncate : Double → Int
  | .finite false m q => floorMagnitude m q
  | .finite true m q => -(floorMagnitude m q : Int)
  | _ => 0

/-- Whether nothing follows the point of a finite number. -/
def isIntegral : Double → Bool
  | .finite _ _ (.ofNat _) => true
  | .finite _ m (.negSucc e) => m % 1 <<< (e + 1) = 0
  | _ => false

/-- Whether a number is above zero; one that is not a number is not. -/
def isPositive : Double → Bool
  | .nan => false
  | .infinity negative => !negative
  | .finite negative m _ => !negative && m != 0

/-- Whether a number is finite. -/
def isFinite : Double → Bool
  | .finite .. => true
  | _ => false

end Double

end IamLogin
