import IamLogin.Time.Moment

/-!
# How large a timestamp can be

A timestamp goes through a floating-point number, so no bound on it can be read off the calendar alone.
But the exponent of a floating-point number lies between two limits, and with it so does the number, as
soon as the quotient that it rounds does. The bound is far from sharp; all that is used of it is that a
timestamp has no more digits than are ever converted.
-/

namespace IamLogin

namespace Double

/-- Rounding adds one at most. -/
theorem roundHalfEven_le (num den : Nat) : roundHalfEven num den ≤ num + 1 := by
  have hquotient := Nat.div_le_self num den
  unfold roundHalfEven
  dsimp only
  split <;> omega

/-- Scaling up by a power of two makes no number less. -/
theorem le_shiftLeft (n shift : Nat) : n ≤ n <<< shift := by
  rw [Nat.shiftLeft_eq]
  exact Nat.le_mul_of_pos_right n (Nat.two_pow_pos shift)

/-- Scaling up by a greater power of two gives more. -/
theorem shiftLeft_le (n : Nat) {shift shift' : Nat} (h : shift ≤ shift') :
    n <<< shift ≤ n <<< shift' := by
  rw [Nat.shiftLeft_eq, Nat.shiftLeft_eq]
  exact Nat.mul_le_mul_left n (Nat.pow_le_pow_right (by decide) h)

/-- Scaling up keeps the order. -/
theorem shiftLeft_mono {m n : Nat} (h : m ≤ n) (shift : Nat) : m <<< shift ≤ n <<< shift := by
  rw [Nat.shiftLeft_eq, Nat.shiftLeft_eq]
  exact Nat.mul_le_mul_right _ h

/-- Scaling up by a power of two is what makes a significand larger than what it rounds. -/
theorem roundScaled_le (num den : Nat) {exponent : Int} {limit : Nat}
    (h : -(limit : Int) ≤ exponent) :
    roundScaled num den exponent ≤ num <<< limit + 1 := by
  cases exponent with
  | ofNat e =>
    have hround := roundHalfEven_le num (den <<< e)
    have hscale := le_shiftLeft num limit
    rw [roundScaled]
    omega
  | negSucc e =>
    have hround := roundHalfEven_le (num <<< (e + 1)) den
    have hscale : num <<< (e + 1) ≤ num <<< limit := shiftLeft_le num (by omega)
    rw [roundScaled]
    omega

/-- The magnitude of a number whose exponent does not go too far. -/
theorem floorMagnitude_le (significand : Nat) {exponent : Int} {limit : Nat}
    (h : exponent ≤ limit) : floorMagnitude significand exponent ≤ significand <<< limit := by
  cases exponent with
  | ofNat e => exact shiftLeft_le significand (Int.ofNat_le.mp h)
  | negSucc e =>
    calc significand >>> (e + 1)
      _ ≤ significand := Nat.shiftRight_le significand _
      _ ≤ significand <<< limit := le_shiftLeft significand limit

/-- Zero times any power of two is zero. -/
theorem floorMagnitude_zero (exponent : Int) : floorMagnitude 0 exponent = 0 := by
  cases exponent with
  | ofNat e => exact Nat.zero_shiftLeft _
  | negSucc e => exact Nat.zero_shiftRight _

/-- The whole part of a number has the magnitude of what comes before the point. -/
theorem natAbs_truncate_finite (negative : Bool) (significand : Nat) (exponent : Int) :
    (truncate (.finite negative significand exponent)).natAbs =
      floorMagnitude significand exponent := by
  cases negative with
  | false => exact Int.natAbs_natCast _
  | true => rw [truncate, Int.natAbs_neg, Int.natAbs_natCast]

/-- The whole part of a rounded quotient is bounded by what was divided. -/
theorem natAbs_truncate_ofRatio_le (negative : Bool) (num den : Nat) {least greatest : Nat}
    (hleast : leastExponent = -least) (hgreatest : greatestExponent = greatest) (hnum : 0 < num) :
    (truncate (ofRatio negative num den)).natAbs ≤ (num <<< least + 1) <<< greatest := by
  rw [ofRatio, if_neg (Nat.ne_of_gt hnum)]
  generalize hexponent : max (quotientLog2 num den - (precision - 1)) leastExponent = exponent
  have hround : roundScaled num den exponent ≤ num <<< least + 1 := by
    refine roundScaled_le num den ?_
    rw [← hleast, ← hexponent]
    exact Int.le_max_right _ _
  have hfinite : ∀ m q, m ≤ num <<< least + 1 →
      (truncate (if q > greatestExponent then infinity negative
        else finite negative m q)).natAbs ≤ (num <<< least + 1) <<< greatest := by
    intro m q hm
    split
    · exact Nat.zero_le _
    · case isFalse hq =>
      rw [natAbs_truncate_finite]
      rw [hgreatest] at hq
      exact Nat.le_trans (floorMagnitude_le m (Int.not_lt.mp hq)) (shiftLeft_mono hm _)
  dsimp only
  split
  · case isTrue hcarry =>
    have hhalf : 1 <<< (precision - 1) ≤ 1 <<< precision := by decide
    exact hfinite _ _ (Nat.le_trans hhalf (hcarry ▸ hround))
  · exact hfinite _ _ hround

end Double

namespace Moment

/-- The days of a year before a month are a part of the year. -/
theorem daysBeforeMonth_bounds (year : Int) (month : Nat) :
    0 ≤ daysBeforeMonth year month ∧ daysBeforeMonth year month ≤ 366 := by
  have hlengths : ∀ february ∈ [28, 29], ∀ k, k < 13 →
      let days := (([31, february, 31, 30, 31, 30, 31, 31, 30, 31, 30, 31] : List Int).take k).foldl
        (· + ·) 0
      0 ≤ days ∧ days ≤ 366 := by decide
  have hall : ∀ february ∈ [28, 29], ∀ k,
      let days := (([31, february, 31, 30, 31, 30, 31, 31, 30, 31, 30, 31] : List Int).take k).foldl
        (· + ·) 0
      0 ≤ days ∧ days ≤ 366 := by
    intro february hfebruary k
    by_cases hk : k < 13
    · exact hlengths february hfebruary k hk
    · have htake : ([31, february, 31, 30, 31, 30, 31, 31, 30, 31, 30, 31] : List Int).take k =
          ([31, february, 31, 30, 31, 30, 31, 31, 30, 31, 30, 31] : List Int).take 12 := by
        rw [List.take_of_length_le (by simp; omega), List.take_of_length_le (by simp)]
      rw [htake]
      exact hlengths february hfebruary 12 (by decide)
  unfold daysBeforeMonth
  cases isLeap year with
  | false => exact hall 28 (by simp) (month - 1)
  | true => exact hall 29 (by simp) (month - 1)

/-- A valid reading is fewer microseconds from the epoch than 64 bits can hold. -/
theorem natAbs_sinceEpoch_lt {m : Moment} (h : m.isValid = true) :
    m.sinceEpoch.micros.natAbs < 0x8000000000000000 := by
  simp only [isValid, Bool.and_eq_true, decide_eq_true_eq] at h
  obtain ⟨⟨⟨⟨⟨⟨⟨⟨⟨⟨⟨⟨⟨⟨⟨hyear₁, hyear₂⟩, hmonth₁⟩, hmonth₂⟩, hday₁⟩, hday₂⟩, hhour₁⟩, hhour₂⟩,
    hminute₁⟩, hminute₂⟩, hsecond₁⟩, hsecond₂⟩, hmicro₁⟩, hmicro₂⟩, hoffset₁⟩, hoffset₂⟩ := h
  have hmonth := daysBeforeMonth_bounds m.year m.month
  have hnext := daysBeforeMonth_bounds m.year (m.month + 1)
  have hdays : -1000000 ≤ m.dayNumber ∧ m.dayNumber ≤ 4000000 := by
    unfold dayNumber daysBeforeYear epochDay
    dsimp only
    omega
  unfold sinceEpoch Duration.ofParts Duration.secondsPerDay Duration.microsPerSecond
  dsimp only
  omega

/-- The timestamp of a valid reading is bounded. -/
theorem natAbs_timestamp_le {m : Moment} (h : m.isValid = true) {least greatest : Nat}
    (hleast : Double.leastExponent = -least) (hgreatest : Double.greatestExponent = greatest) :
    m.timestamp.natAbs ≤ (0x8000000000000000 <<< least + 1) <<< greatest := by
  have hmicros := natAbs_sinceEpoch_lt h
  unfold timestamp seconds
  dsimp only
  generalize m.sinceEpoch.micros.natAbs = num at hmicros ⊢
  by_cases hnum : num = 0
  · have hzero : ∀ negative den, (Double.truncate (Double.ofRatio negative 0 den)).natAbs = 0 := by
      intro negative den
      rw [Double.ofRatio, if_pos rfl, Double.zero, Double.natAbs_truncate_finite,
        Double.floorMagnitude_zero]
    rw [hnum, hzero]
    exact Nat.zero_le _
  · refine Nat.le_trans (Double.natAbs_truncate_ofRatio_le _ num _ hleast hgreatest
      (Nat.pos_of_ne_zero hnum)) ?_
    exact Double.shiftLeft_mono
      (Nat.add_le_add_right (Double.shiftLeft_mono (Nat.le_of_lt hmicros) least) 1) greatest

end Moment

namespace Duration

/-- Whether a duration has a number of days within the limit on either side of zero. -/
def IsValid (d : Duration) : Prop := -dayLimit ≤ d.days ∧ d.days ≤ dayLimit

/-- A valid duration has fewer whole seconds than 64 bits can hold. -/
theorem natAbs_wholeSeconds_lt {d : Duration} (h : d.IsValid) :
    d.wholeSeconds.natAbs < 0x8000000000000000 := by
  unfold IsValid days dayLimit secondsPerDay at h
  rw [Int.fdiv_eq_ediv_of_nonneg _ (by decide)] at h
  omega

end Duration

/-- The sum of a timestamp and a valid number of seconds has no more digits than are ever converted. -/
theorem Moment.digits_expiry_le {m : Moment} (hm : m.isValid = true) {d : Duration}
    (hd : d.IsValid) {digits : Nat} (h : 4300 ≤ digits) :
    (Decimal.ofNat (m.timestamp + d.wholeSeconds).natAbs).length ≤ digits := by
  have htimestamp := Moment.natAbs_timestamp_le hm
    (show Double.leastExponent = -(1074 : Nat) from rfl)
    (show Double.greatestExponent = (971 : Nat) from rfl)
  have hseconds := Duration.natAbs_wholeSeconds_lt hd
  have hdigits : (0x8000000000000000 <<< 1074 + 1) <<< 971 + 0x8000000000000000 < 10 ^ 4300 := by
    decide +kernel
  have hsum : (m.timestamp + d.wholeSeconds).natAbs < 10 ^ 4300 := by
    calc (m.timestamp + d.wholeSeconds).natAbs
      _ ≤ m.timestamp.natAbs + d.wholeSeconds.natAbs := Int.natAbs_add_le _ _
      _ ≤ (0x8000000000000000 <<< 1074 + 1) <<< 971 + 0x8000000000000000 :=
        Nat.add_le_add htimestamp (Nat.le_of_lt hseconds)
      _ < 10 ^ 4300 := hdigits
  exact Nat.le_trans ((Nat.length_toDigits_le_iff (by decide) (by decide)).mpr hsum) h

end IamLogin
