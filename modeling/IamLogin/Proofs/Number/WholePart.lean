import IamLogin.Proofs.Number.Rounding

/-!
# The whole part of a rounded quotient

A quotient is rounded to a floating-point number, and then what follows the point is dropped. What is
left is the floor of the quotient, unless the quotient lies so closely below a whole number that it is
rounded to it. How closely that is depends on the distance between floating-point numbers, and so on the
magnitude of the quotient: it is half of that distance, the end included, because whole numbers have even
significands as long as they leave a place free.

A negative quotient is rounded as its magnitude is, so it is cut off toward zero.
-/

namespace IamLogin.Double

/-- Whether a positive number is rounded to the whole number after it: there is no more than half the
distance of floating-point numbers between them. -/
def IsCarried (x : ℚ) : Prop := ⌊x⌋ + 1 - x ≤ (2 : ℚ) ^ (Int.log 2 x - precision)

instance : DecidablePred IsCarried := fun _ => inferInstanceAs (Decidable (_ ≤ _))

/-- What is left of a number that is not negative when it was rounded and cut off. -/
def wholeMagnitude (x : ℚ) : ℤ := if IsCarried x then ⌊x⌋ + 1 else ⌊x⌋

/-- What is left of a number when it was rounded and cut off. -/
def wholePart (x : ℚ) : ℤ := if 0 ≤ x then wholeMagnitude x else -wholeMagnitude (-x)

/-! ## Numbers that are carried -/

variable {x y : ℚ}

/-- The distance of floating-point numbers is known below a power of two. -/
theorem half_distance_le {k : ℤ} (hx : 0 < x) (h : x < 2 ^ k) :
    (2 : ℚ) ^ (Int.log 2 x - precision) ≤ 2 ^ (k - 1 - precision) := by
  have hlog : Int.log 2 x < k := (Int.lt_zpow_iff_log_lt (by decide) hx).mp (by exact_mod_cast h)
  exact zpow_le_zpow_right₀ one_le_two (by omega)

/-- Zero is not carried. -/
theorem not_isCarried_zero : ¬ IsCarried 0 := by
  unfold IsCarried
  rw [Int.log_zero_right]
  norm_num [precision]

/-- What is carried stays carried when it grows without reaching a whole number. -/
theorem IsCarried.mono (h : IsCarried x) (hx : 0 < x) (hle : x ≤ y) (hfloor : ⌊x⌋ = ⌊y⌋) :
    IsCarried y := by
  have hlog : Int.log 2 x ≤ Int.log 2 y := Int.log_mono_right hx hle
  calc (⌊y⌋ : ℚ) + 1 - y
      ≤ ⌊x⌋ + 1 - x := by rw [hfloor]; linarith
    _ ≤ 2 ^ (Int.log 2 x - precision) := h
    _ ≤ 2 ^ (Int.log 2 y - precision) := zpow_le_zpow_right₀ one_le_two (by omega)

/-- The whole magnitude is the floor, or more where rounding carries over. -/
theorem floor_le_wholeMagnitude (x : ℚ) : ⌊x⌋ ≤ wholeMagnitude x := by
  unfold wholeMagnitude
  split <;> omega

/-- Rounding carries over to the next whole number at most. -/
theorem wholeMagnitude_le (x : ℚ) : wholeMagnitude x ≤ ⌊x⌋ + 1 := by
  unfold wholeMagnitude
  split <;> omega

/-- The more there is, the more is left. -/
theorem wholeMagnitude_mono (hx : 0 ≤ x) (h : x ≤ y) : wholeMagnitude x ≤ wholeMagnitude y := by
  rcases (Int.floor_le_floor h).lt_or_eq with hfloor | hfloor
  · have hupper := wholeMagnitude_le x
    have hlower := floor_le_wholeMagnitude y
    omega
  · by_cases hcarry : IsCarried x
    · have hpos : 0 < x := hx.lt_of_ne (by rintro rfl; exact not_isCarried_zero hcarry)
      unfold wholeMagnitude
      rw [if_pos hcarry, if_pos (hcarry.mono hpos h hfloor), hfloor]
    · unfold wholeMagnitude
      rw [if_neg hcarry, hfloor]
      exact floor_le_wholeMagnitude y

/-- It never goes below zero. -/
theorem wholeMagnitude_nonneg (hx : 0 ≤ x) : 0 ≤ wholeMagnitude x :=
  (Int.floor_nonneg.mpr hx).trans (floor_le_wholeMagnitude x)

/-! ## Numbers of either sign -/

/-- The whole part grows with the number. -/
theorem wholePart_mono (h : x ≤ y) : wholePart x ≤ wholePart y := by
  unfold wholePart
  split
  · case isTrue hx =>
    rw [if_pos (hx.trans h)]
    exact wholeMagnitude_mono hx h
  · case isFalse hx =>
    have hleft := wholeMagnitude_nonneg (x := -x) (by linarith)
    split
    · case isTrue hy =>
      have hright := wholeMagnitude_nonneg hy
      omega
    · case isFalse hy =>
      exact neg_le_neg (wholeMagnitude_mono (by linarith) (by linarith))

/-- Whether nothing but the part after the point is lost: a number from zero on is not carried, and a
negative one has nothing to lose or is carried. -/
def KeepsWhole (x : ℚ) : Prop := 0 ≤ x ∧ ¬ IsCarried x ∨ x < 0 ∧ (x = ⌊x⌋ ∨ IsCarried (-x))

instance : DecidablePred KeepsWhole := fun _ => inferInstanceAs (Decidable (_ ∨ _))

/-- Whole numbers are not carried as long as they leave a place of the significand free. -/
theorem not_isCarried_intCast {n : ℤ} (hn : 0 < n) (h : (n : ℚ) < 2 ^ (precision : ℤ)) :
    ¬ IsCarried (n : ℚ) := by
  have hpos : (0 : ℚ) < n := by exact_mod_cast hn
  have hcarry := half_distance_le hpos h
  have hhalf : (2 : ℚ) ^ ((precision : ℤ) - 1 - precision) = 1 / 2 := by
    rw [show (precision : ℤ) - 1 - precision = -1 by ring]
    norm_num
  rw [hhalf] at hcarry
  unfold IsCarried
  rw [Int.floor_intCast]
  linarith

/-- A quotient is not carried if its denominator is too small for it to come that close to a whole
number. -/
theorem not_isCarried_div {n : ℤ} {den : ℕ} (hden : 0 < den) {k : ℤ} (hx : 0 ≤ (n / den : ℚ))
    (h : (n / den : ℚ) < 2 ^ k) (hfine : (2 : ℚ) ^ (k - 1 - precision) * den < 1) :
    ¬ IsCarried (n / den) := by
  have hden' : (0 : ℚ) < den := by exact_mod_cast hden
  rcases hx.eq_or_lt with hzero | hpos
  · rw [← hzero]
    exact not_isCarried_zero
  · intro hcarry
    have hgap : (1 : ℚ) ≤ (⌊(n / den : ℚ)⌋ + 1 - n / den) * den := by
      have hlt : (n : ℚ) < (⌊(n / den : ℚ)⌋ + 1) * den :=
        (div_lt_iff₀ hden').mp (Int.lt_floor_add_one _)
      have hle : (n + 1 : ℚ) ≤ (⌊(n / den : ℚ)⌋ + 1) * den := by exact_mod_cast hlt
      rw [sub_mul, div_mul_cancel₀ _ hden'.ne']
      linarith
    have hclose : (⌊(n / den : ℚ)⌋ + 1 - n / den : ℚ) * den ≤ 2 ^ (k - 1 - precision) * den :=
      mul_le_mul_of_nonneg_right (hcarry.trans (half_distance_le hpos h)) hden'.le
    linarith

/-- What is left is the floor if nothing else is lost, and otherwise one more. -/
theorem wholePart_eq (h : -x < 2 ^ (precision : ℤ)) :
    (KeepsWhole x → wholePart x = ⌊x⌋) ∧ (¬ KeepsWhole x → wholePart x = ⌊x⌋ + 1) := by
  unfold KeepsWhole wholePart wholeMagnitude
  by_cases hx : 0 ≤ x
  · have hnot : ¬ x < 0 := not_lt.mpr hx
    by_cases hcarry : IsCarried x <;> simp [hx, hnot, hcarry]
  · have hneg : x < 0 := not_le.mp hx
    by_cases hwhole : x = ⌊x⌋
    · have hpos : 0 < -⌊x⌋ := by
        have : (⌊x⌋ : ℚ) < 0 := hwhole ▸ hneg
        have : ⌊x⌋ < 0 := by exact_mod_cast this
        omega
      have hcast : ((-⌊x⌋ : ℤ) : ℚ) = -x := by
        push_cast
        rw [← hwhole]
      have hcarry : ¬ IsCarried (-x) := by
        rw [← hcast]
        exact not_isCarried_intCast hpos (by rw [hcast]; exact h)
      have hfloor : ⌊-x⌋ = -⌊x⌋ := by rw [← hcast, Int.floor_intCast]
      simp [hx, hneg, hcarry, ← hwhole, hfloor]
    · have hceil : ⌈x⌉ = ⌊x⌋ + 1 := by
        refine Int.ceil_eq_iff.mpr ⟨?_, ?_⟩
        · push_cast
          have := (Int.floor_le x).lt_of_ne' hwhole
          linarith
        · push_cast
          exact (Int.lt_floor_add_one x).le
      rw [Int.floor_neg, hceil]
      by_cases hcarry : IsCarried (-x) <;> simp [hx, hneg, hcarry, hwhole]

/-! ## Rounding and cutting off -/

variable {num den : ℕ}

/-- Rounding stays within a half above the quotient and does not fall below its floor. -/
theorem roundHalfEven_bounds (num : ℕ) (hden : 0 < den) :
    num / den ≤ roundHalfEven num den ∧ 2 * roundHalfEven num den * den ≤ 2 * num + den := by
  have hsum : den * (num / den) + num % den = num := Nat.div_add_mod num den
  have hrest : num % den < den := Nat.mod_lt num hden
  unfold roundHalfEven
  dsimp only
  split
  · refine ⟨le_rfl, ?_⟩
    calc 2 * (num / den) * den
        = 2 * (den * (num / den)) := by ring
      _ ≤ 2 * num + den := by omega
  · refine ⟨Nat.le_succ _, ?_⟩
    calc 2 * (num / den + 1) * den
        = 2 * (den * (num / den)) + 2 * den := by ring
      _ ≤ 2 * num + den := by omega

/-- A quotient that is scaled up, rounded and cut back is its floor, or the number after it. -/
theorem roundHalfEven_shiftRight (hden : 0 < den) {shift : ℕ} (hshift : 0 < shift) :
    roundHalfEven (num <<< shift) den >>> shift =
      if 2 * ((num / den + 1) * 2 ^ shift) * den ≤ 2 * (num * 2 ^ shift) + den then num / den + 1
      else num / den := by
  have hpow : 0 < 2 ^ shift := Nat.two_pow_pos shift
  have hnum : den * (num / den) ≤ num ∧ num < den * (num / den + 1) :=
    ⟨Nat.mul_div_le num den, Nat.lt_mul_div_succ num hden⟩
  rw [Nat.shiftLeft_eq, Nat.shiftRight_eq_div_pow]
  split
  · case isTrue hcarry =>
    have hbelow : num * 2 ^ shift < (num / den + 1) * 2 ^ shift * den := by
      calc num * 2 ^ shift
          < den * (num / den + 1) * 2 ^ shift := Nat.mul_lt_mul_of_pos_right hnum.2 hpow
        _ = (num / den + 1) * 2 ^ shift * den := by ring
    have heven : (num / den + 1) * 2 ^ shift % 2 ≠ 1 := by
      obtain ⟨rest, rfl⟩ : ∃ rest, shift = rest + 1 := ⟨shift - 1, by omega⟩
      rw [pow_succ, ← mul_assoc, Nat.mul_mod_left]
      decide
    have hround : roundHalfEven (num * 2 ^ shift) den = (num / den + 1) * 2 ^ shift :=
      roundHalfEven_eq hden hcarry (by linarith) fun hodd => absurd hodd heven
    rw [hround, Nat.mul_div_cancel _ hpow]
  · case isFalse hcarry =>
    obtain ⟨hfloor, hhalf⟩ := roundHalfEven_bounds (num * 2 ^ shift) hden
    have hlow : num / den * 2 ^ shift ≤ roundHalfEven (num * 2 ^ shift) den := by
      refine le_trans ((Nat.le_div_iff_mul_le hden).mpr ?_) hfloor
      calc num / den * 2 ^ shift * den
          = den * (num / den) * 2 ^ shift := by ring
        _ ≤ num * 2 ^ shift := Nat.mul_le_mul_right _ hnum.1
    have hhigh : roundHalfEven (num * 2 ^ shift) den < (num / den + 1) * 2 ^ shift := by
      by_contra hle
      refine hcarry (le_trans ?_ hhalf)
      exact Nat.mul_le_mul_right den (Nat.mul_le_mul_left 2 (not_lt.mp hle))
    exact Nat.div_eq_of_lt_le hlow hhigh

/-- A quotient that is not far from one has its exponent found at once, and it is negative. -/
theorem exists_shift (hnum : 0 < num) (hden : 0 < den)
    (hleast : (2 : ℚ) ^ (leastExponent + (precision - 1)) ≤ num / den)
    (hgreatest : (num / den : ℚ) < 2 ^ ((precision : ℤ) - 1)) :
    ∃ shift : ℕ, Int.log 2 (num / den : ℚ) = (precision : ℤ) - 1 - (shift + 1) ∧
      max (quotientLog2 num den - (precision - 1)) leastExponent = Int.negSucc shift := by
  have hx : (0 : ℚ) < num / den := by positivity
  have hlog : Int.log 2 (num / den : ℚ) = quotientLog2 num den := by
    obtain ⟨hlow, hhigh⟩ := quotientLog2_spec hnum hden
    have hle := (Int.zpow_le_iff_le_log (b := 2) (by decide) hx).mp (by exact_mod_cast hlow)
    have hlt := (Int.lt_zpow_iff_log_lt (b := 2) (by decide) hx).mp (by exact_mod_cast hhigh)
    omega
  have hle := le_quotientLog2 hnum hden hleast
  have hlt := quotientLog2_lt hnum hden hgreatest
  refine ⟨(precision - 2 - quotientLog2 num den : ℤ).toNat, ?_, ?_⟩
  · rw [hlog]
    omega
  · rw [Int.negSucc_eq]
    omega

/-- A number with a sign. -/
def withSign (negative : Bool) (magnitude : ℕ) : ℤ := if negative then -magnitude else magnitude

/-- Truncation drops the fraction of the magnitude. -/
theorem truncate_finite (negative : Bool) (m : ℕ) (q : ℤ) :
    truncate (finite negative m q) = withSign negative (floorMagnitude m q) := by
  cases negative <;> rfl

/-- The whole part of a rounded significand does not depend on whether it has to be carried over. -/
theorem truncate_ofRatio (negative : Bool) (hnum : 0 < num) {shift : ℕ}
    (hexponent : max (quotientLog2 num den - (precision - 1)) leastExponent = Int.negSucc shift) :
    truncate (ofRatio negative num den) =
      withSign negative (roundHalfEven (num <<< (shift + 1)) den >>> (shift + 1)) := by
  have hnot : ∀ e : ℤ, e ≤ 0 → ¬ e > greatestExponent := fun e he hgt => by
    unfold greatestExponent at hgt
    omega
  rw [ofRatio, if_neg hnum.ne']
  simp only [hexponent, roundScaled]
  split
  · case isTrue hcarry =>
    rw [if_neg (hnot _ (by omega)), truncate_finite, hcarry]
    congr 1
    cases shift with
    | zero => rfl
    | succ shift =>
      change 2 ^ 52 >>> (shift + 1) = 2 ^ 53 >>> (shift + 1 + 1)
      rw [Nat.shiftRight_eq_div_pow, Nat.shiftRight_eq_div_pow, pow_succ 2 52,
        pow_succ 2 (shift + 1), Nat.mul_div_mul_right _ _ (by decide)]
  · rw [if_neg (hnot _ (by omega)), truncate_finite]
    rfl

/-- Being carried, over the common denominator of the quotient and the distance. -/
theorem isCarried_div_iff (hden : 0 < den) {shift : ℕ}
    (hlog : Int.log 2 (num / den : ℚ) = (precision : ℤ) - 1 - shift) :
    IsCarried (num / den) ↔
      2 * ((num / den + 1) * 2 ^ shift) * den ≤ 2 * (num * 2 ^ shift) + den := by
  have hden' : (0 : ℚ) < den := by exact_mod_cast hden
  have hpow : (2 : ℚ) ^ ((precision : ℤ) - 1 - shift - precision) = 1 / (2 * 2 ^ shift) := by
    rw [show (precision : ℤ) - 1 - shift - precision = -((shift : ℤ) + 1) by ring, zpow_neg,
      ← one_div, zpow_add₀ two_ne_zero, zpow_natCast, zpow_one, mul_comm]
  have hfloor : ⌊(num / den : ℚ)⌋ = ((num / den : ℕ) : ℤ) := by
    exact_mod_cast Rat.floor_natCast_div_natCast num den
  rw [IsCarried, hlog, hpow, hfloor, Int.cast_natCast, le_div_iff₀ (by positivity)]
  have hscale : ((num / den : ℕ) + 1 - num / den : ℚ) * (2 * 2 ^ shift) ≤ 1 ↔
      (2 * (((num / den : ℕ) + 1) * 2 ^ shift) * den : ℚ) ≤ 2 * (num * 2 ^ shift) + den := by
    have hproduct : ((num / den : ℕ) + 1 - num / den : ℚ) * (2 * 2 ^ shift) * den =
        2 * (((num / den : ℕ) + 1) * 2 ^ shift) * den - 2 * (num * 2 ^ shift) := by
      field_simp
    rw [← mul_le_mul_iff_of_pos_right hden', hproduct, one_mul, sub_le_iff_le_add']
  rw [hscale]
  exact_mod_cast Iff.rfl

/-- A quotient that is scaled up so far that its significand is filled, rounded and cut back is what is
left of it when it was rounded and cut off. -/
theorem roundHalfEven_shiftRight_eq (hden : 0 < den) {shift : ℕ} (hshift : 0 < shift)
    (hlog : Int.log 2 (num / den : ℚ) = (precision : ℤ) - 1 - shift) :
    ((roundHalfEven (num <<< shift) den >>> shift : ℕ) : ℤ) = wholeMagnitude (num / den) := by
  have hiff := isCarried_div_iff hden hlog
  rw [roundHalfEven_shiftRight hden hshift, wholeMagnitude, Rat.floor_natCast_div_natCast]
  by_cases hcarry : IsCarried (num / den)
  · rw [if_pos (hiff.mp hcarry), if_pos hcarry]
    rfl
  · rw [if_neg fun h => hcarry (hiff.mpr h), if_neg hcarry]
    rfl

/-- A quotient of an integer by a natural number that is rounded and cut off leaves its whole part, if it
is small enough for whole numbers to leave a place of the significand free, and no quotient by that
number is too small to fill the significand. -/
theorem truncate_ofRatio_eq_wholePart {n : ℤ} (hden : 0 < den)
    (hleast : (2 : ℚ) ^ (leastExponent + (precision - 1)) * den ≤ 1)
    (hgreatest : |(n / den : ℚ)| < 2 ^ ((precision : ℤ) - 1)) :
    truncate (ofRatio (n < 0) n.natAbs den) = wholePart (n / den) := by
  have hden' : (0 : ℚ) < den := by exact_mod_cast hden
  rcases eq_or_ne n 0 with rfl | hn
  · have hzero : wholePart 0 = 0 := by
      simp [wholePart, wholeMagnitude, not_isCarried_zero]
    rw [Int.cast_zero, zero_div, hzero]
    rfl
  · have hnum : 0 < n.natAbs := Int.natAbs_pos.mpr hn
    have habs : |(n / den : ℚ)| = n.natAbs / den := by
      rw [abs_div, abs_of_pos hden', Nat.cast_natAbs, Int.cast_abs]
    have hmagnitude : (2 : ℚ) ^ (leastExponent + (precision - 1)) ≤ n.natAbs / den := by
      have hone : (1 : ℚ) ≤ n.natAbs := by exact_mod_cast hnum
      rw [le_div_iff₀ hden']
      exact hleast.trans hone
    rw [habs] at hgreatest
    obtain ⟨shift, hlog, hexponent⟩ := exists_shift hnum hden hmagnitude hgreatest
    have hleft := roundHalfEven_shiftRight_eq hden (Nat.succ_pos shift) (by exact_mod_cast hlog)
    rw [truncate_ofRatio _ hnum hexponent, withSign, hleft, ← habs, wholePart]
    by_cases hneg : n < 0
    · have hquotient : (n / den : ℚ) < 0 := div_neg_of_neg_of_pos (by exact_mod_cast hneg) hden'
      rw [if_pos (decide_eq_true hneg), if_neg (not_le.mpr hquotient), abs_of_neg hquotient]
    · have hquotient : (0 : ℚ) ≤ n / den := div_nonneg (by exact_mod_cast not_lt.mp hneg) hden'.le
      rw [if_neg (by simpa using hneg), if_pos hquotient, abs_of_nonneg hquotient]

end IamLogin.Double
