import IamLogin.Number.Double
import Mathlib

/-!
# Rounding to a floating-point number

Around every floating-point number lie the numbers that are rounded to it. This file says which they
are, in exact arithmetic, and proves that a quotient of two natural numbers and a decimal are rounded to
the number around which they lie. The width of the interval to the left depends on where the number is:
below a power of two the numbers are closer, except at the least exponent. The ends belong to a number
with an even significand.

A number just below a power of two may have to be carried over it when it is rounded; that is the one
case in which the exponent found first is not the exponent of the result.
-/

namespace IamLogin.Double

/-- Whether this is a number of 64 bits: its significand and exponent are in their ranges, and the
significand fills its places unless the exponent is the least. -/
def IsProper : Double → Prop
  | nan | infinity _ => True
  | finite _ m q =>
    m < 2 ^ precision ∧ leastExponent ≤ q ∧ q ≤ greatestExponent ∧
      (m < 2 ^ (precision - 1) → q = leastExponent)

instance : DecidablePred IsProper
  | nan | infinity _ => inferInstanceAs (Decidable True)
  | finite .. => inferInstanceAs (Decidable (_ ∧ _))

/-- The distance to the left end of the interval around `m * 2 ^ q`, in quarters of `2 ^ q`. -/
def quartersBelow (m : ℕ) (q : ℤ) : ℕ :=
  if m = 2 ^ (precision - 1) ∧ leastExponent < q then 1 else 2

/-- Whether a number lies in the interval around `m * 2 ^ q`. -/
structure RoundsTo (m : ℕ) (q : ℤ) (x : ℚ) : Prop where
  /-- The left end is not above it. -/
  low : (m - quartersBelow m q / 4 : ℚ) * 2 ^ q ≤ x
  /-- The right end is not below it. -/
  high : x ≤ (m + 1 / 2 : ℚ) * 2 ^ q
  /-- If the significand is odd, it is neither end. -/
  inner : m % 2 = 1 → (m - quartersBelow m q / 4 : ℚ) * 2 ^ q < x ∧ x < (m + 1 / 2 : ℚ) * 2 ^ q

/-- A neighbour below is at most half a spacing away. -/
theorem quartersBelow_le (m : ℕ) (q : ℤ) : quartersBelow m q ≤ 2 := by
  unfold quartersBelow
  split <;> omega

/-! ## Rounding to natural numbers -/

/-- A quotient within a half of a natural number is rounded to it; at a distance of one half, if it is
even. -/
theorem roundHalfEven_eq {num den r : ℕ} (hden : 0 < den) (hlow : 2 * r * den ≤ 2 * num + den)
    (hhigh : 2 * num ≤ (2 * r + 1) * den)
    (htie : r % 2 = 1 → 2 * r * den < 2 * num + den ∧ 2 * num < (2 * r + 1) * den) :
    roundHalfEven num den = r := by
  obtain ⟨quotient, hquotient⟩ : ∃ n, num / den = n := ⟨_, rfl⟩
  obtain ⟨rest, hrest⟩ : ∃ n, num % den = n := ⟨_, rfl⟩
  have hnum : den * quotient + rest = num := by
    rw [← hquotient, ← hrest]
    exact Nat.div_add_mod num den
  have hlt : rest < den := hrest ▸ Nat.mod_lt num hden
  rw [roundHalfEven, hquotient, hrest]
  -- The quotient is the number that is rounded to, or the one before it.
  have hle : quotient ≤ r := by
    by_contra hgt
    have : den * (r + 1) ≤ den * quotient := Nat.mul_le_mul_left den (by omega)
    nlinarith
  have hge : r ≤ quotient + 1 := by
    by_contra hless
    have : den * (quotient + 2) ≤ den * r := Nat.mul_le_mul_left den (by omega)
    nlinarith
  obtain rfl | rfl : quotient = r ∨ r = quotient + 1 := by omega
  · have hrest : 2 * rest ≤ den := by nlinarith
    have heven : 2 * rest = den → quotient % 2 = 0 := by
      intro heq
      by_contra hodd
      have := (htie (by omega)).2
      nlinarith
    rw [if_pos (by omega)]
  · have hrest : den ≤ 2 * rest := by nlinarith
    have hodd : 2 * rest = den → quotient % 2 = 1 := by
      intro heq
      by_contra heven
      have := (htie (by omega)).1
      nlinarith
    rw [if_neg (by omega)]

/-- A quotient scaled by a power of two is rounded like the exact quotient. -/
theorem roundScaled_eq {num den r : ℕ} (hden : 0 < den) {e : ℤ}
    (hlow : (r - 1 / 2 : ℚ) * 2 ^ e ≤ num / den) (hhigh : (num / den : ℚ) ≤ (r + 1 / 2) * 2 ^ e)
    (htie : r % 2 = 1 → (r - 1 / 2 : ℚ) * 2 ^ e < num / den ∧ (num / den : ℚ) < (r + 1 / 2) * 2 ^ e) :
    roundScaled num den e = r := by
  have hden' : (0 : ℚ) < den := by exact_mod_cast hden
  cases e with
  | ofNat e =>
    simp only [Int.ofNat_eq_natCast, zpow_natCast, le_div_iff₀ hden', div_le_iff₀ hden',
      lt_div_iff₀ hden', div_lt_iff₀ hden'] at hlow hhigh htie
    rw [roundScaled, Nat.shiftLeft_eq]
    refine roundHalfEven_eq (by positivity) ?_ ?_ fun hodd => ⟨?_, ?_⟩
    · have : (2 * r * (den * 2 ^ e) : ℚ) ≤ 2 * num + den * 2 ^ e := by linarith
      exact_mod_cast this
    · have : (2 * num : ℚ) ≤ (2 * r + 1) * (den * 2 ^ e) := by linarith
      exact_mod_cast this
    · have : (2 * r * (den * 2 ^ e) : ℚ) < 2 * num + den * 2 ^ e := by linarith [(htie hodd).1]
      exact_mod_cast this
    · have : (2 * num : ℚ) < (2 * r + 1) * (den * 2 ^ e) := by linarith [(htie hodd).2]
      exact_mod_cast this
  | negSucc e =>
    have hpow : (0 : ℚ) < 2 ^ (e + 1) := by positivity
    simp only [zpow_negSucc, ← div_eq_mul_inv, div_le_div_iff₀ hpow hden',
      div_le_div_iff₀ hden' hpow, div_lt_div_iff₀ hpow hden', div_lt_div_iff₀ hden' hpow]
      at hlow hhigh htie
    rw [roundScaled, Nat.shiftLeft_eq]
    refine roundHalfEven_eq hden ?_ ?_ fun hodd => ⟨?_, ?_⟩
    · have : (2 * r * den : ℚ) ≤ 2 * (num * 2 ^ (e + 1)) + den := by linarith
      exact_mod_cast this
    · have : (2 * (num * 2 ^ (e + 1)) : ℚ) ≤ (2 * r + 1) * den := by linarith
      exact_mod_cast this
    · have : (2 * r * den : ℚ) < 2 * (num * 2 ^ (e + 1)) + den := by linarith [(htie hodd).1]
      exact_mod_cast this
    · have : (2 * (num * 2 ^ (e + 1)) : ℚ) < (2 * r + 1) * den := by linarith [(htie hodd).2]
      exact_mod_cast this

/-! ## Powers of two below a quotient -/

/-- Comparing with a shifted number is comparing the quotient with a power of two. -/
theorem lt_shift_iff (num : ℕ) {den : ℕ} (hden : 0 < den) (e : ℤ) :
    (match e with
      | .ofNat e => decide (num < den <<< e)
      | .negSucc e => decide (num <<< (e + 1) < den)) = true ↔ (num / den : ℚ) < 2 ^ e := by
  have hden' : (0 : ℚ) < den := by exact_mod_cast hden
  cases e with
  | ofNat e =>
    rw [decide_eq_true_iff, Nat.shiftLeft_eq, Int.ofNat_eq_natCast, zpow_natCast,
      div_lt_iff₀ hden', mul_comm]
    norm_cast
  | negSucc e =>
    have hpow : (0 : ℚ) < 2 ^ (e + 1) := by positivity
    rw [decide_eq_true_iff, Nat.shiftLeft_eq, zpow_negSucc, ← one_div, div_lt_div_iff₀ hden' hpow,
      one_mul]
    norm_cast

/-- The power of two that is found is the greatest that is not above the quotient. -/
theorem quotientLog2_spec {num den : ℕ} (hnum : 0 < num) (hden : 0 < den) :
    (2 : ℚ) ^ quotientLog2 num den ≤ num / den ∧
      (num / den : ℚ) < 2 ^ (quotientLog2 num den + 1) := by
  have hden' : (0 : ℚ) < den := by exact_mod_cast hden
  have hnumLow : (2 : ℚ) ^ (num.log2 : ℤ) ≤ num := by
    exact_mod_cast Nat.log2_self_le hnum.ne'
  have hnumHigh : (num : ℚ) < 2 ^ (num.log2 + 1 : ℤ) := by
    exact_mod_cast Nat.lt_log2_self (n := num)
  have hdenLow : (2 : ℚ) ^ (den.log2 : ℤ) ≤ den := by
    exact_mod_cast Nat.log2_self_le hden.ne'
  have hdenHigh : (den : ℚ) < 2 ^ (den.log2 + 1 : ℤ) := by
    exact_mod_cast Nat.lt_log2_self (n := den)
  have hlow : (2 : ℚ) ^ (num.log2 - den.log2 - 1 : ℤ) ≤ num / den := by
    rw [le_div_iff₀ hden']
    calc (2 : ℚ) ^ (num.log2 - den.log2 - 1 : ℤ) * den
        ≤ 2 ^ (num.log2 - den.log2 - 1 : ℤ) * 2 ^ (den.log2 + 1 : ℤ) := by gcongr
      _ = 2 ^ (num.log2 : ℤ) := by rw [← zpow_add₀ two_ne_zero]; congr 1; ring
      _ ≤ num := hnumLow
  have hhigh : (num / den : ℚ) < 2 ^ (num.log2 - den.log2 + 1 : ℤ) := by
    rw [div_lt_iff₀ hden']
    calc (num : ℚ) < 2 ^ (num.log2 + 1 : ℤ) := hnumHigh
      _ = 2 ^ (num.log2 - den.log2 + 1 : ℤ) * 2 ^ (den.log2 : ℤ) := by
        rw [← zpow_add₀ two_ne_zero]; congr 1; ring
      _ ≤ 2 ^ (num.log2 - den.log2 + 1 : ℤ) * den := by gcongr
  have hbelow := lt_shift_iff num hden (num.log2 - den.log2 : ℤ)
  by_cases h : (num / den : ℚ) < 2 ^ (num.log2 - den.log2 : ℤ)
  · have hlog : quotientLog2 num den = num.log2 - den.log2 - 1 := if_pos (hbelow.mpr h)
    rw [hlog]
    exact ⟨hlow, by simpa using h⟩
  · have hlog : quotientLog2 num den = num.log2 - den.log2 := if_neg fun hlt => h (hbelow.mp hlt)
    rw [hlog]
    exact ⟨not_lt.mp h, hhigh⟩

/-- A quotient below a power of two has a smaller power of two below it. -/
theorem quotientLog2_lt {num den : ℕ} (hnum : 0 < num) (hden : 0 < den) {k : ℤ}
    (h : (num / den : ℚ) < 2 ^ k) : quotientLog2 num den < k :=
  (zpow_lt_zpow_iff_right₀ one_lt_two).mp ((quotientLog2_spec hnum hden).1.trans_lt h)

/-- A power of two that is not above a quotient is not above the one that is found. -/
theorem le_quotientLog2 {num den : ℕ} (hnum : 0 < num) (hden : 0 < den) {k : ℤ}
    (h : (2 : ℚ) ^ k ≤ num / den) : k ≤ quotientLog2 num den := by
  have := (zpow_lt_zpow_iff_right₀ (one_lt_two : (1 : ℚ) < 2)).mp
    (h.trans_lt (quotientLog2_spec hnum hden).2)
  omega

/-! ## Rounding to floating-point numbers -/

variable {m : ℕ} {q : ℤ}

/-- The left end of the interval around a number is at most a half below it. -/
theorem half_le_left (m : ℕ) (q : ℤ) :
    (m - 1 / 2 : ℚ) * 2 ^ q ≤ (m - quartersBelow m q / 4) * 2 ^ q := by
  have hquarters : (quartersBelow m q : ℚ) ≤ 2 := by exact_mod_cast quartersBelow_le m q
  exact mul_le_mul_of_nonneg_right (by linarith) (by positivity)

namespace RoundsTo

variable {x : ℚ}

/-- What rounds to a double is at most half a spacing below it. -/
theorem half_le (h : RoundsTo m q x) : (m - 1 / 2 : ℚ) * 2 ^ q ≤ x := (half_le_left m q).trans h.low

/-- What lies in the interval around a number is positive. -/
theorem pos (h : RoundsTo m q x) (hm : 0 < m) : 0 < x := by
  have hone : (1 : ℚ) ≤ m := by exact_mod_cast hm
  have hleft : (0 : ℚ) < (m - 1 / 2) * 2 ^ q := mul_pos (by linarith) (by positivity)
  exact hleft.trans_le h.half_le

/-- What lies in the interval around a number is below the limit of its exponent. -/
theorem lt_limit (h : RoundsTo m q x) (hm : m < 2 ^ precision) : x < 2 ^ (q + precision) := by
  have hlimit : (m + 1 : ℚ) ≤ 2 ^ precision := by exact_mod_cast hm
  calc x ≤ (m + 1 / 2) * 2 ^ q := h.high
    _ < 2 ^ precision * 2 ^ q := by gcongr; linarith
    _ = 2 ^ (q + precision) := by rw [zpow_add₀ two_ne_zero, zpow_natCast, mul_comm]

/-- What lies in the interval around a number and below its power of two shows that the number is the
power of two. -/
theorem eq_of_lt (h : RoundsTo m q x) (hm : 2 ^ (precision - 1) ≤ m)
    (hx : x < 2 ^ (precision - 1) * 2 ^ q) : m = 2 ^ (precision - 1) := by
  have hless := lt_of_mul_lt_mul_right (h.half_le.trans_lt hx) (by positivity)
  have hmax : (m : ℚ) < 2 ^ (precision - 1) + 1 := by linarith
  have : m < 2 ^ (precision - 1) + 1 := by exact_mod_cast hmax
  omega

end RoundsTo

/-- A number that does not have to be carried over a power of two has its exponent found at once. -/
theorem exponent_eq {num den : ℕ} (hnum : 0 < num) (hden : 0 < den) (hq : leastExponent ≤ q)
    (hbelow : (num / den : ℚ) < 2 ^ (q + precision))
    (hfull : q = leastExponent ∨ (2 : ℚ) ^ (q + (precision - 1)) ≤ num / den) :
    max (quotientLog2 num den - (precision - 1)) leastExponent = q := by
  have hlt := quotientLog2_lt hnum hden hbelow
  rcases hfull with rfl | hfull
  · omega
  · have hle := le_quotientLog2 hnum hden hfull
    omega

/-- A rounded significand that stays below its limit is the significand. -/
theorem ofRatio_of_lt {num den : ℕ} (negative : Bool) (hnum : 0 < num)
    (hexponent : max (quotientLog2 num den - (precision - 1)) leastExponent = q)
    (hround : roundScaled num den q = m) (hm : m < 2 ^ precision) (hq : q ≤ greatestExponent) :
    ofRatio negative num den = finite negative m q := by
  have hcarry : m ≠ 1 <<< precision := by
    rw [Nat.one_shiftLeft]
    exact hm.ne
  rw [ofRatio, if_neg hnum.ne']
  simp only [hexponent, hround, if_neg hcarry, if_neg (Int.not_lt.mpr hq)]

/-- A rounded significand that reaches its limit is carried over. -/
theorem ofRatio_of_eq {num den : ℕ} (negative : Bool) (hnum : 0 < num)
    (hexponent : max (quotientLog2 num den - (precision - 1)) leastExponent = q - 1)
    (hround : roundScaled num den (q - 1) = 2 ^ precision) (hq : q ≤ greatestExponent) :
    ofRatio negative num den = finite negative (2 ^ (precision - 1)) q := by
  rw [ofRatio, if_neg hnum.ne']
  simp only [hexponent, hround, Nat.one_shiftLeft, if_true, Int.sub_add_cancel,
    if_neg (Int.not_lt.mpr hq)]

/-- The least number whose significand fills its places, as a power of two. -/
theorem full_eq (q : ℤ) : (2 : ℚ) ^ (q + (precision - 1)) = 2 ^ (precision - 1) * 2 ^ q := by
  rw [zpow_add₀ two_ne_zero, mul_comm]
  rfl

/-- A quotient just below a power of two is carried over it. -/
theorem ofRatio_of_below {num den : ℕ} (negative : Bool) (hnum : 0 < num) (hden : 0 < den)
    (hleast : leastExponent < q) (hgreatest : q ≤ greatestExponent)
    (h : RoundsTo (2 ^ (precision - 1)) q (num / den))
    (hbelow : (num / den : ℚ) < 2 ^ (precision - 1) * 2 ^ q) :
    ofRatio negative num den = finite negative (2 ^ (precision - 1)) q := by
  have hquarter : quartersBelow (2 ^ (precision - 1)) q = 1 := if_pos ⟨rfl, hleast⟩
  have hlow := h.low
  rw [hquarter] at hlow
  push_cast at hlow
  have hu : (0 : ℚ) < 2 ^ q := by positivity
  have hhalf : (2 : ℚ) ^ (q - 1) = 2 ^ q / 2 := by rw [zpow_sub₀ two_ne_zero, zpow_one]
  have hdouble : (2 ^ precision : ℚ) = 2 * 2 ^ (precision - 1) := by norm_num [precision]
  have hone : (1 : ℚ) ≤ 2 ^ (precision - 1) := by norm_num [precision]
  have hexponent : max (quotientLog2 num den - (precision - 1)) leastExponent = q - 1 := by
    refine exponent_eq hnum hden (by omega) ?_ (.inr ?_)
    · rw [show q - 1 + precision = q + (precision - 1) by ring, full_eq]
      exact hbelow
    · rw [show q - 1 + (precision - 1) = q + (precision - 1) - 1 by ring, zpow_sub₀ two_ne_zero,
        zpow_one, full_eq]
      nlinarith
  have hround : roundScaled num den (q - 1) = 2 ^ precision := by
    refine roundScaled_eq hden ?_ ?_ fun hodd => absurd hodd (by decide)
    · push_cast
      rw [hhalf, hdouble]
      linarith
    · push_cast
      rw [hhalf, hdouble]
      linarith
  exact ofRatio_of_eq negative hnum hexponent hround hgreatest

/-- A quotient is rounded to the number around which it lies. -/
theorem ofRatio_eq {num den : ℕ} (negative : Bool) (hproper : IsProper (finite negative m q))
    (hm : 0 < m) (hden : 0 < den) (h : RoundsTo m q (num / den)) :
    ofRatio negative num den = finite negative m q := by
  obtain ⟨hlt, hleast, hgreatest, hfull⟩ := hproper
  have hnum : 0 < num := by
    have hpos := h.pos hm
    rw [Nat.pos_iff_ne_zero]
    rintro rfl
    simp at hpos
  by_cases hcarry : q = leastExponent ∨ (2 : ℚ) ^ (q + (precision - 1)) ≤ num / den
  · have hround : roundScaled num den q = m :=
      roundScaled_eq hden h.half_le h.high
        fun hodd => ⟨(half_le_left m q).trans_lt (h.inner hodd).1, (h.inner hodd).2⟩
    exact ofRatio_of_lt negative hnum (exponent_eq hnum hden hleast (h.lt_limit hlt) hcarry) hround
      hlt hgreatest
  · -- The quotient is below the power of two that the number is.
    rw [not_or, not_le] at hcarry
    obtain ⟨hq, hbelow⟩ := hcarry
    rw [full_eq] at hbelow
    obtain rfl := h.eq_of_lt (not_lt.mp fun hless => hq (hfull hless)) hbelow
    exact ofRatio_of_below negative hnum hden (by omega) hgreatest h hbelow

/-! ## Reading decimals -/

/-- What lies around a number is within the range of all numbers. -/
theorem RoundsTo.range {x : ℚ} {negative : Bool} (hproper : IsProper (finite negative m q))
    (hm : 0 < m) (h : RoundsTo m q x) :
    (2 : ℚ) ^ (leastExponent - 1) ≤ x ∧ x < 2 ^ (greatestExponent + precision) := by
  obtain ⟨hlt, hleast, hgreatest, -⟩ := hproper
  have hone : (1 : ℚ) ≤ m := by exact_mod_cast hm
  constructor
  · calc (2 : ℚ) ^ (leastExponent - 1) ≤ 2 ^ (q - 1) :=
          zpow_le_zpow_right₀ one_le_two (by omega)
      _ = 1 / 2 * 2 ^ q := by rw [zpow_sub₀ two_ne_zero, zpow_one, mul_comm, mul_one_div]
      _ ≤ (m - 1 / 2) * 2 ^ q := mul_le_mul_of_nonneg_right (by linarith) (by positivity)
      _ ≤ x := h.half_le
  · exact (h.lt_limit hlt).trans_le (zpow_le_zpow_right₀ one_le_two (by omega))

/-- Powers are compared as natural numbers. -/
theorem two_pow_lt_ten_pow {a b : ℕ} (h : 2 ^ a < 10 ^ b) : (2 : ℚ) ^ a < 10 ^ b := by
  exact_mod_cast h

/-- A decimal in the range of all numbers has no exponent that is beyond the range above. -/
theorem exponent_le_of_lt {digits e : ℕ} (hdigits : 0 < digits)
    (h : (digits * 10 ^ e : ℚ) < 2 ^ (greatestExponent + precision)) : e ≤ 310 := by
  by_contra hgt
  have hlimit : (2 : ℚ) ^ 1024 < 10 ^ 311 := two_pow_lt_ten_pow (by decide +kernel)
  have hpow : (2 : ℚ) ^ (greatestExponent + precision) = 2 ^ 1024 := zpow_natCast 2 1024
  have hone : (1 : ℚ) ≤ digits := by exact_mod_cast hdigits
  have hle : (10 : ℚ) ^ 311 ≤ digits * 10 ^ e :=
    calc (10 : ℚ) ^ 311 ≤ 10 ^ e := pow_le_pow_right₀ (by norm_num) (by omega)
      _ ≤ digits * 10 ^ e := le_mul_of_one_le_left (by positivity) hone
  rw [hpow] at h
  exact lt_irrefl _ ((hle.trans_lt h).trans hlimit)

/-- A decimal in the range of all numbers has no exponent that is beyond the range below. -/
theorem exponent_le_of_le {digits e : ℕ}
    (h : (2 : ℚ) ^ (leastExponent - 1) ≤ digits / 10 ^ (e + 1)) : e ≤ digits.log2 + 400 := by
  by_contra hgt
  have hlimit : (2 : ℚ) ^ 1075 < 10 ^ 400 := two_pow_lt_ten_pow (by decide +kernel)
  have hpow : (2 : ℚ) ^ (leastExponent - 1) = 1 / 2 ^ 1075 := by
    rw [one_div]
    exact zpow_negSucc 2 1074
  have hdigits : (digits : ℚ) < 10 ^ (digits.log2 + 1) := by
    exact_mod_cast Nat.lt_log2_self.trans_le (Nat.pow_le_pow_left (by decide) _)
  rw [hpow, div_le_div_iff₀ (by positivity) (by positivity), one_mul] at h
  have hlt : (digits : ℚ) * 2 ^ 1075 < 10 ^ (e + 1) :=
    calc (digits : ℚ) * 2 ^ 1075 ≤ digits * 10 ^ 400 := by gcongr
      _ < 10 ^ (digits.log2 + 1) * 10 ^ 400 := by gcongr
      _ = 10 ^ (digits.log2 + 1 + 400) := (pow_add ..).symm
      _ ≤ 10 ^ (e + 1) := pow_le_pow_right₀ (by norm_num) (by omega)
  exact lt_irrefl _ (h.trans_lt hlt)

/-- A decimal is read as the number around which it lies. -/
theorem ofDecimal_eq {digits : ℕ} {e : ℤ} (negative : Bool)
    (hproper : IsProper (finite negative m q)) (hm : 0 < m)
    (h : RoundsTo m q (digits * 10 ^ e)) : ofDecimal negative digits e = finite negative m q := by
  have hdigits : 0 < digits := by
    have hpos := h.pos hm
    rw [Nat.pos_iff_ne_zero]
    rintro rfl
    simp at hpos
  obtain ⟨hlow, hhigh⟩ := h.range hproper hm
  cases e with
  | ofNat e =>
    rw [Int.ofNat_eq_natCast, zpow_natCast] at h hhigh
    have hle : ¬ e > 310 := Nat.not_lt.mpr (exponent_le_of_lt hdigits hhigh)
    simp only [ofDecimal, if_neg hdigits.ne', if_neg hle]
    refine ofRatio_eq negative hproper hm Nat.one_pos ?_
    simpa using h
  | negSucc e =>
    rw [zpow_negSucc, ← div_eq_mul_inv] at h hlow
    have hle : ¬ e > digits.log2 + 400 := Nat.not_lt.mpr (exponent_le_of_le hlow)
    simp only [ofDecimal, if_neg hdigits.ne', if_neg hle]
    refine ofRatio_eq negative hproper hm (Nat.pow_pos (by decide)) ?_
    simpa using h

end IamLogin.Double
