import IamLogin.Text.Blank

/-!
# Decimal numerals

Integers in base ten, without leading zeros and with a minus sign below zero, and the value of a
run of digits. What is written is read back.
-/

namespace IamLogin.Decimal

/-- The ten ASCII digits. -/
def isDigit (c : Char) : Bool := '0' ≤ c ∧ c ≤ '9'

/-- The digits by their codes. -/
theorem isDigit_iff {c : Char} : isDigit c = true ↔ 0x30 ≤ c.toNat ∧ c.toNat ≤ 0x39 := by
  rw [isDigit, decide_eq_true_eq]
  rfl

/-- No digit is blank. -/
theorem isBlank_of_isDigit {c : Char} (h : isDigit c = true) : isBlank c = false := by
  have hcode := isDigit_iff.mp h
  simp only [isBlank, isWhiteSpace, decide_eq_false_iff_not, decide_eq_true_eq]
  omega

/-- The value of a run of digits. -/
def value (digits : List Char) : Nat := Nat.ofDigitChars 10 digits 0

/-- The numeral of a natural number. -/
def ofNat (n : Nat) : List Char := Nat.toDigits 10 n

/-- The numeral of an integer. -/
def ofInt : Int → List Char
  | .ofNat n => ofNat n
  | .negSucc n => '-' :: ofNat (n + 1)

/-- The value of a run of digits with a sign in front. -/
def signed (negative : Bool) (digits : List Char) : Int :=
  if negative then -(value digits : Int) else value digits

/-- Reading the digits of a number gives it back. -/
@[simp] theorem value_ofNat (n : Nat) : value (ofNat n) = n :=
  Nat.ofDigitChars_toDigits (by decide) (by decide)

/-- A number is written in digits. -/
theorem isDigit_of_mem_ofNat {n : Nat} {c : Char} (h : c ∈ ofNat n) : isDigit c = true := by
  have := Nat.isDigit_of_mem_toDigits (b := 10) (by decide) (by decide) h
  simpa [isDigit, Char.isDigit, Char.le_def] using this

/-- In the numeral of an integer there are digits, and perhaps a minus sign. -/
theorem eq_minus_or_isDigit_of_mem_ofInt {n : Int} {c : Char} (h : c ∈ ofInt n) :
    c = '-' ∨ isDigit c = true := by
  cases n with
  | ofNat n => exact .inr (isDigit_of_mem_ofNat h)
  | negSucc n => exact (List.mem_cons.mp h).imp_right isDigit_of_mem_ofNat

/-- A number has at least one digit. -/
theorem ofNat_ne_nil (n : Nat) : ofNat n ≠ [] := Nat.toDigits_ne_nil

/-- A string with the numeral of an integer. -/
def text (n : Int) : String := String.ofList (ofInt n)

end IamLogin.Decimal
