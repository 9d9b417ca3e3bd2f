import IamLogin.Number.Decimal
import IamLogin.Number.Double

/-!
# Shortest decimals

A floating-point number is written with the fewest decimal digits that read back as it; of several
such decimals the one nearest to the number is taken, and of two equally near the even one.

The search goes over grids of spacing `10 ^ e` from coarse to fine. Only the two points of a grid
next to the number can be near enough to read back, so the first grid on which one of them lies
in the number's rounding interval gives the digits.
-/

namespace IamLogin.Shortest

/-- The rounding interval of a positive number, over a common denominator: its lower end, the
number itself and its upper end. The ends belong to it when the significand is even. -/
structure Interval where
  /-- The lower end. -/
  low : Nat
  /-- The number. -/
  value : Nat
  /-- The upper end. -/
  high : Nat
  /-- The common denominator. -/
  den : Nat
  /-- Whether the ends read back as the number. -/
  closed : Bool

/-- The rounding interval of `m * 2 ^ q`. Below a power of two the neighbours are closer, except
at the least exponent. -/
def Interval.ofBinary (m : Nat) (q : Int) : Interval :=
  let below := if m = 1 <<< (Double.precision - 1) ∧ q > Double.leastExponent then 1 else 2
  let (num, den) := match q - 2 with
    | .ofNat e => (1 <<< e, 1)
    | .negSucc e => (1, 1 <<< (e + 1))
  { low := (4 * m - below) * num, value := 4 * m * num, high := (4 * m + 2) * num, den,
    closed := m % 2 = 0 }

/-- The point of the grid of spacing `10 ^ e` next to the number that reads back as it, nearest
first; `none` if neither neighbour does. -/
def Interval.point? (i : Interval) (e : Int) : Option Nat :=
  let (up, down) := match e with
    | .ofNat e => (Nat.pow 10 e, 1)
    | .negSucc e => (1, Nat.pow 10 (e + 1))
  let unit := i.den * up
  let value := i.value * down
  let inside (point : Nat) : Bool :=
    let point := point * unit
    if i.closed then i.low * down ≤ point ∧ point ≤ i.high * down
    else i.low * down < point ∧ point < i.high * down
  let first := value / unit
  let second := first + 1
  match inside first, inside second with
  | false, false => none
  | true, false => some first
  | false, true => some second
  | true, true =>
    let toFirst := value - first * unit
    let toSecond := second * unit - value
    if toFirst < toSecond ∨ (toFirst = toSecond ∧ first % 2 = 0) then some first else some second

/-- Try grids from the spacing `10 ^ e` on, each ten times finer than the last. -/
def Interval.search (i : Interval) : Nat → Int → Nat × Int
  | 0, e => (i.value / i.den, e)
  | fuel + 1, e =>
    match i.point? e with
    | some point => (point, e)
    | none => i.search fuel (e - 1)

/-- The shortest decimal of a positive number `m * 2 ^ q`, as digits and a power of ten. The search
starts above the number's own magnitude, and seventeen digits always suffice. -/
def ofBinary (m : Nat) (q : Int) : Nat × Int :=
  let start := ((m.log2 + q + 1) * 30103).fdiv 100000 + 2
  (Interval.ofBinary m q).search 24 start

/-- Digits with the point after the first `point` of them. Between `10 ^ -4` and `10 ^ 16` the
number is written out, with at least one digit on each side of the point; outside, it has one
digit before the point and an exponent of at least two digits. -/
def layout (digits : List Char) (point : Int) : List Char :=
  let exponent := point - 1
  if exponent < -4 ∨ 16 ≤ exponent then
    let fraction := match digits.drop 1 with
      | [] => []
      | rest => '.' :: rest
    let magnitude := Decimal.ofNat exponent.natAbs
    digits.take 1 ++ fraction ++ ['e', if exponent < 0 then '-' else '+'] ++
      List.replicate (2 - magnitude.length) '0' ++ magnitude
  else if point ≤ 0 then '0' :: '.' :: (List.replicate point.natAbs '0' ++ digits)
  else
    let whole := point.toNat
    let fraction := digits.drop whole
    digits.take whole ++ List.replicate (whole - digits.length) '0' ++
      '.' :: (if fraction.isEmpty then ['0'] else fraction)

/-- A finite magnitude in decimal. -/
def magnitude (m : Nat) (q : Int) : List Char :=
  if m = 0 then ['0', '.', '0']
  else
    let (digits, e) := ofBinary m q
    let digits := Decimal.ofNat digits
    layout digits (digits.length + e)

end IamLogin.Shortest

namespace IamLogin.Double

/-- Words for the numbers that have no digits. -/
structure Words where
  /-- The word for what is not a number. -/
  nan : String
  /-- The word for infinity. -/
  infinity : String

/-- A number in its shortest decimal form. -/
def render (words : Words) : Double → List Char
  | .nan => words.nan.toList
  | .infinity negative => (if negative then ['-'] else []) ++ words.infinity.toList
  | .finite negative m q => (if negative then ['-'] else []) ++ Shortest.magnitude m q

example : render ⟨"nan", "inf"⟩ (ofRatio false 1 10) = "0.1".toList := by decide +kernel
example : render ⟨"nan", "inf"⟩ (ofDecimal false 5 (-324)) = "5e-324".toList := by decide +kernel
example : render ⟨"nan", "inf"⟩ (ofInt 9007199254740993) = "9007199254740992.0".toList := by
  decide +kernel
example : render ⟨"nan", "inf"⟩ (ofDecimal true 1 16) = "-1e+16".toList := by decide +kernel
example : render ⟨"nan", "inf"⟩ (ofDecimal false 17976931348623157 292) =
    "1.7976931348623157e+308".toList := by decide +kernel
example : render ⟨"nan", "inf"⟩ (ofDecimal false 1 (-4)) = "0.0001".toList := by decide +kernel

end IamLogin.Double
