/-!
# Hexadecimal digits

Digits are read in either case and written in the one the place asks for.
-/

namespace IamLogin.Hex

/-- The value of a hexadecimal digit in either case. -/
def value? (c : Char) : Option Nat :=
  if '0' ≤ c ∧ c ≤ '9' then some (c.toNat - '0'.toNat)
  else if 'a' ≤ c ∧ c ≤ 'f' then some (c.toNat - 'a'.toNat + 10)
  else if 'A' ≤ c ∧ c ≤ 'F' then some (c.toNat - 'A'.toNat + 10)
  else none

/-- A digit in lower case. -/
def lower (n : Nat) : Char := Nat.digitChar (n % 16)

/-- A digit in upper case. -/
def upper (n : Nat) : Char := (Nat.digitChar (n % 16)).toUpper

/-- The last `width` digits of a number, in lower case. -/
def padded : Nat → Nat → List Char
  | 0, _ => []
  | width + 1, n => padded width (n / 16) ++ [lower n]

/-- A padded number has its width. -/
@[simp] theorem padded_length (width n : Nat) : (padded width n).length = width := by
  induction width generalizing n with
  | zero => rfl
  | succ width ih => simp [padded, ih]

/-- A digit is read back as its number. -/
theorem value?_lower (n : Nat) : value? (lower n) = some (n % 16) := by
  have h : ∀ k, k < 16 → value? (Nat.digitChar k) = some k := by decide
  exact h _ (Nat.mod_lt _ (by decide))

/-- A digit is read back as its number. -/
theorem value?_upper (n : Nat) : value? (upper n) = some (n % 16) := by
  have h : ∀ k, k < 16 → value? (Nat.digitChar k).toUpper = some k := by decide
  exact h _ (Nat.mod_lt _ (by decide))

end IamLogin.Hex
