import IamLogin.Number.Shortest
import IamLogin.Proofs.Number.Rounding

/-!
# Shortest decimals are read back

The digits that are found for a floating-point number make a decimal that is rounded to the number.
Every point that the search takes lies in the interval around the number, because only such points are
taken; and the search takes one, because a grid that is finer than half the distance to the next number
has a point in the interval. The search reaches such a grid in time: it starts above the magnitude of
the number, which has seventeen digits at most.
-/

namespace IamLogin.Shortest

open Double (RoundsTo IsProper quartersBelow)

variable {m : ℕ} {q : ℤ}

namespace Interval

/-- Whether a number is in an interval. -/
structure Holds (i : Interval) (x : ℚ) : Prop where
  /-- It is not below the interval. -/
  low : (i.low / i.den : ℚ) ≤ x
  /-- It is not above the interval. -/
  high : x ≤ i.high / i.den
  /-- It is no end of an open interval. -/
  inner : i.closed = false → (i.low / i.den : ℚ) < x ∧ x < i.high / i.den

/-- An interval holds what lies between its bounds, and the bounds if it is closed. -/
theorem holds_iff {i : Interval} {x : ℚ} : i.Holds x ↔
    ((i.low / i.den : ℚ) ≤ x ∧ x ≤ i.high / i.den) ∧
      (i.closed = false → (i.low / i.den : ℚ) < x ∧ x < i.high / i.den) :=
  ⟨fun h => ⟨⟨h.low, h.high⟩, h.inner⟩, fun h => ⟨h.1.1, h.1.2, h.2⟩⟩

/-- The interval of a number has a denominator that goes with the exponent. -/
theorem exists_ofBinary (m : ℕ) (q : ℤ) : ∃ num den : ℕ, 0 < den ∧ (num / den : ℚ) = 2 ^ (q - 2) ∧
    ofBinary m q = ⟨(4 * m - quartersBelow m q) * num, 4 * m * num, (4 * m + 2) * num, den,
      m % 2 = 0⟩ := by
  have hquarters : (if m = 1 <<< (Double.precision - 1) ∧ q > Double.leastExponent then 1 else 2) =
      quartersBelow m q := by
    rw [Nat.one_shiftLeft]
    rfl
  unfold ofBinary
  rw [hquarters]
  cases q - 2 with
  | ofNat e => exact ⟨1 <<< e, 1, Nat.one_pos, by simp [Nat.shiftLeft_eq], rfl⟩
  | negSucc e =>
    refine ⟨1, 1 <<< (e + 1), ?_, ?_, rfl⟩
    · rw [Nat.one_shiftLeft]
      positivity
    · simp [Nat.shiftLeft_eq, zpow_negSucc]

/-- The interval of a number lies around it. -/
theorem ofBinary_spec (hm : 0 < m) (q : ℤ) :
    0 < (ofBinary m q).den ∧
      ((ofBinary m q).low / (ofBinary m q).den : ℚ) = (m - quartersBelow m q / 4) * 2 ^ q ∧
      ((ofBinary m q).value / (ofBinary m q).den : ℚ) = m * 2 ^ q ∧
      ((ofBinary m q).high / (ofBinary m q).den : ℚ) = (m + 1 / 2) * 2 ^ q ∧
      ((ofBinary m q).closed = false ↔ m % 2 = 1) := by
  obtain ⟨num, den, hden, hscale, hinterval⟩ := exists_ofBinary m q
  have hfour : (2 : ℚ) ^ q = 4 * (num / den) := by
    rw [hscale, zpow_sub₀ two_ne_zero]
    norm_num
    ring
  have hsub : ((4 * m - quartersBelow m q : ℕ) : ℚ) = 4 * m - quartersBelow m q := by
    have := Double.quartersBelow_le m q
    rw [Nat.cast_sub (by omega)]
    push_cast
    rfl
  rw [hinterval, hfour]
  refine ⟨hden, ?_, ?_, ?_, ?_⟩
  · push_cast
    rw [hsub]
    ring
  · push_cast
    ring
  · push_cast
    ring
  · simp

/-- What is in the interval of a number is rounded to it, and nothing else. -/
theorem holds_ofBinary_iff (hm : 0 < m) {x : ℚ} : (ofBinary m q).Holds x ↔ RoundsTo m q x := by
  obtain ⟨-, hlow, -, hhigh, hclosed⟩ := ofBinary_spec hm q
  rw [holds_iff, hlow, hhigh, hclosed]
  exact ⟨fun h => ⟨h.1.1, h.1.2, h.2⟩, fun h => ⟨⟨h.low, h.high⟩, h.inner⟩⟩

/-- The spacing of a grid as a quotient. -/
def spacing : ℤ → ℕ × ℕ
  | .ofNat e => (Nat.pow 10 e, 1)
  | .negSucc e => (1, Nat.pow 10 (e + 1))

/-- The spacing is a power of ten. -/
theorem spacing_eq (e : ℤ) : ((spacing e).1 / (spacing e).2 : ℚ) = 10 ^ e := by
  cases e with
  | ofNat e => simp [spacing]
  | negSucc e => simp [spacing, zpow_negSucc]

/-- It is written as a fraction of positive numbers. -/
theorem spacing_pos (e : ℤ) : 0 < (spacing e).1 ∧ 0 < (spacing e).2 := by
  cases e with
  | ofNat e => exact ⟨Nat.pow_pos (by decide), Nat.one_pos⟩
  | negSucc e => exact ⟨Nat.one_pos, Nat.pow_pos (by decide)⟩

/-- Whether a point of a grid is seen to be in an interval. -/
def inside (i : Interval) (e : ℤ) (point : ℕ) : Bool :=
  let point := point * (i.den * (spacing e).1)
  if i.closed then i.low * (spacing e).2 ≤ point ∧ point ≤ i.high * (spacing e).2
  else i.low * (spacing e).2 < point ∧ point < i.high * (spacing e).2

/-- The point of a grid that is next to the number from below. -/
def floorPoint (i : Interval) (e : ℤ) : ℕ := i.value * (spacing e).2 / (i.den * (spacing e).1)

/-- Of the two points next to the number, one that is seen to be in the interval is taken. -/
theorem point?_eq (i : Interval) (e : ℤ) :
    i.point? e =
      match i.inside e (i.floorPoint e), i.inside e (i.floorPoint e + 1) with
      | false, false => none
      | true, false => some (i.floorPoint e)
      | false, true => some (i.floorPoint e + 1)
      | true, true =>
        let value := i.value * (spacing e).2
        let unit := i.den * (spacing e).1
        let toFirst := value - i.floorPoint e * unit
        let toSecond := (i.floorPoint e + 1) * unit - value
        if toFirst < toSecond ∨ (toFirst = toSecond ∧ i.floorPoint e % 2 = 0) then
          some (i.floorPoint e)
        else some (i.floorPoint e + 1) := by
  cases e <;> rfl

/-- A point that is taken was seen to be in the interval. -/
theorem inside_of_point? {i : Interval} {e : ℤ} {point : ℕ} (h : i.point? e = some point) :
    i.inside e point = true := by
  rw [point?_eq] at h
  split at h
  · cases h
  · case h_2 hfirst _ =>
    obtain rfl := Option.some.inj h
    exact hfirst
  · case h_3 _ hsecond =>
    obtain rfl := Option.some.inj h
    exact hsecond
  · case h_4 hfirst hsecond =>
    dsimp only at h
    split at h
    · obtain rfl := Option.some.inj h
      exact hfirst
    · obtain rfl := Option.some.inj h
      exact hsecond

/-- If no point is taken, the next one above the number was not seen to be in the interval. -/
theorem inside_eq_false_of_point? {i : Interval} {e : ℤ} (h : i.point? e = none) :
    i.inside e (i.floorPoint e + 1) = false := by
  rw [point?_eq] at h
  split at h
  · case h_1 hsecond => exact hsecond
  · case h_2 hsecond => exact hsecond
  · cases h
  · dsimp only at h
    split at h <;> cases h

/-- A point of a grid over the common denominator of the grid and an interval. -/
theorem point_eq {i : Interval} (hden : 0 < i.den) (e : ℤ) (point : ℕ) :
    (point * 10 ^ e : ℚ) = (point * (i.den * (spacing e).1) : ℕ) / (i.den * (spacing e).2 : ℕ) := by
  have hden' : (0 : ℚ) < i.den := by exact_mod_cast hden
  have hdown : (0 : ℚ) < (spacing e).2 := by exact_mod_cast (spacing_pos e).2
  rw [← spacing_eq]
  push_cast
  field_simp

/-- A point of an interval over the common denominator of a grid and the interval. -/
theorem div_den_eq {i : Interval} (hden : 0 < i.den) (e : ℤ) (n : ℕ) :
    (n / i.den : ℚ) = (n * (spacing e).2 : ℕ) / (i.den * (spacing e).2 : ℕ) := by
  have hden' : (0 : ℚ) < i.den := by exact_mod_cast hden
  have hdown : (0 : ℚ) < (spacing e).2 := by exact_mod_cast (spacing_pos e).2
  push_cast
  field_simp

/-- The common denominator is positive. -/
theorem common_pos {i : Interval} (hden : 0 < i.den) (e : ℤ) :
    (0 : ℚ) < (i.den * (spacing e).2 : ℕ) := by
  exact_mod_cast Nat.mul_pos hden (spacing_pos e).2

/-- A point that is seen to be in an interval is in it, and the other way round. -/
theorem inside_iff {i : Interval} (hden : 0 < i.den) (e : ℤ) (point : ℕ) :
    i.inside e point = true ↔ i.Holds (point * 10 ^ e) := by
  rw [holds_iff, point_eq hden, div_den_eq hden e, div_den_eq hden e, inside]
  simp only [div_le_div_iff_of_pos_right (common_pos hden e),
    div_lt_div_iff_of_pos_right (common_pos hden e), Nat.cast_le, Nat.cast_lt]
  cases i.closed with
  | true => simp
  | false =>
    simp only [Bool.false_eq_true, if_false, decide_eq_true_eq, true_implies]
    omega

/-- The number lies between the two points next to it. -/
theorem floorPoint_bounds {i : Interval} (hden : 0 < i.den) (e : ℤ) :
    (i.floorPoint e * 10 ^ e : ℚ) ≤ i.value / i.den ∧
      (i.value / i.den : ℚ) < (i.floorPoint e + 1 : ℕ) * 10 ^ e := by
  have hunit : 0 < i.den * (spacing e).1 := Nat.mul_pos hden (spacing_pos e).1
  rw [point_eq hden, point_eq hden, div_den_eq hden e, div_le_div_iff_of_pos_right (common_pos hden e),
    div_lt_div_iff_of_pos_right (common_pos hden e), Nat.cast_le, Nat.cast_lt, floorPoint]
  refine ⟨Nat.div_mul_le_self _ _, ?_⟩
  rw [Nat.add_one_mul]
  exact Nat.lt_div_mul_add hunit

/-- A point that is taken is rounded to the number. -/
theorem roundsTo_of_point? (hm : 0 < m) {e : ℤ} {point : ℕ}
    (h : (ofBinary m q).point? e = some point) : RoundsTo m q (point * 10 ^ e) := by
  rw [← holds_ofBinary_iff hm, ← inside_iff (ofBinary_spec hm q).1]
  exact inside_of_point? h

/-- On a grid that is finer than half the distance to the next number, a point is taken. -/
theorem exists_point? (hm : 0 < m) {e : ℤ} (hfine : (10 : ℚ) ^ e < 2 ^ (q - 1)) :
    ∃ point, (ofBinary m q).point? e = some point := by
  obtain ⟨hden, -, hvalue, -, -⟩ := ofBinary_spec hm q
  obtain ⟨hfloor, habove⟩ := floorPoint_bounds hden e
  rw [hvalue] at hfloor habove
  have hquarters : (quartersBelow m q : ℚ) ≥ 0 := Nat.cast_nonneg _
  have hu : (0 : ℚ) < 2 ^ q := by positivity
  have hleft : (m - quartersBelow m q / 4 : ℚ) * 2 ^ q ≤ m * 2 ^ q :=
    mul_le_mul_of_nonneg_right (by linarith) hu.le
  have hhalf : (2 : ℚ) ^ (q - 1) = 1 / 2 * 2 ^ q := by
    rw [zpow_sub₀ two_ne_zero, zpow_one, mul_comm, mul_one_div]
  have hright : ((ofBinary m q).floorPoint e + 1 : ℕ) * (10 : ℚ) ^ e < (m + 1 / 2) * 2 ^ q := by
    push_cast
    linarith
  have hrounds : RoundsTo m q (((ofBinary m q).floorPoint e + 1 : ℕ) * 10 ^ e) :=
    { low := (hleft.trans_lt habove).le
      high := hright.le
      inner := fun _ => ⟨hleft.trans_lt habove, hright⟩ }
  cases hpoint : (ofBinary m q).point? e with
  | some point => exact ⟨point, rfl⟩
  | none =>
    have hfalse := inside_eq_false_of_point? hpoint
    rw [← holds_ofBinary_iff hm, ← inside_iff hden, hfalse] at hrounds
    cases hrounds

/-- A search that comes to a grid with a point to take takes a point. -/
theorem search_spec {i : Interval} {fuel steps : ℕ} {e : ℤ} (hsteps : steps < fuel)
    (h : ∃ point, i.point? (e - steps) = some point) :
    i.point? (i.search fuel e).2 = some (i.search fuel e).1 := by
  induction fuel generalizing steps e with
  | zero => omega
  | succ fuel ih =>
    rw [search]
    cases hpoint : i.point? e with
    | some point => exact hpoint
    | none =>
      cases steps with
      | zero =>
        obtain ⟨point, h⟩ := h
        rw [Nat.cast_zero, Int.sub_zero, hpoint] at h
        cases h
      | succ steps =>
        refine ih (Nat.lt_of_succ_lt_succ hsteps) ?_
        rw [show e - 1 - steps = e - (steps + 1 : ℕ) by omega]
        exact h

end Interval

/-! ## Where the search ends -/

/-- Powers of two numbers are compared by one power of each. -/
theorem pow_lt_pow_of_pow_le {a b x y n k : ℕ} (hb : 1 < b) (hpow : a ^ x ≤ b ^ y)
    (h : y * n < x * k) : a ^ n < b ^ k := by
  refine lt_of_pow_lt_pow_left₀ x (Nat.zero_le _) ?_
  calc (a ^ n) ^ x = (a ^ x) ^ n := by rw [← pow_mul, ← pow_mul, Nat.mul_comm]
    _ ≤ (b ^ y) ^ n := Nat.pow_le_pow_left hpow n
    _ = b ^ (y * n) := by rw [← pow_mul]
    _ < b ^ (x * k) := Nat.pow_lt_pow_right hb h
    _ = (b ^ k) ^ x := by rw [← pow_mul, Nat.mul_comm]

/-- A power of ten whose exponent is well below that of a power of two is below the power of two. -/
theorem ten_zpow_lt {e : ℤ} (hleast : -1074 ≤ q) (hgreatest : q ≤ 971)
    (h : 100000 * (e + 21) ≤ 30103 * (q + 53)) : (10 : ℚ) ^ e < 2 ^ (q - 1) := by
  cases e with
  | ofNat n =>
    rw [Int.ofNat_eq_natCast] at h
    obtain ⟨k, hk⟩ : ∃ k : ℕ, q - 1 = k := ⟨(q - 1).toNat, by omega⟩
    rw [hk, Int.ofNat_eq_natCast, zpow_natCast, zpow_natCast]
    exact_mod_cast pow_lt_pow_of_pow_le (x := 3) (y := 10) Nat.one_lt_two (by decide)
      (by omega : 10 * n < 3 * k)
  | negSucc n =>
    have hten : (1 : ℚ) < 10 ^ (n + 1) := one_lt_pow₀ (by norm_num) (Nat.succ_ne_zero n)
    rw [zpow_negSucc]
    rcases le_or_gt 1 q with hq | hq
    · exact (inv_lt_one_of_one_lt₀ hten).trans_le (one_le_zpow₀ one_le_two (by omega))
    · obtain ⟨k, hk⟩ : ∃ k : ℕ, q - 1 = -(k : ℤ) := ⟨(1 - q).toNat, by omega⟩
      have hlt : 2 ^ k < 10 ^ (n + 1) :=
        pow_lt_pow_of_pow_le (x := 93) (y := 28) (by decide) (by decide) (by omega)
      rw [hk, zpow_neg, zpow_natCast]
      refine inv_strictAnti₀ (by positivity) ?_
      exact_mod_cast hlt

/-- The digits that are found make a decimal that is rounded to the number. -/
theorem roundsTo_ofBinary {negative : Bool} (hproper : IsProper (.finite negative m q))
    (hm : 0 < m) : RoundsTo m q ((ofBinary m q).1 * 10 ^ (ofBinary m q).2) := by
  obtain ⟨hlt, hleast, hgreatest, -⟩ := hproper
  have hlog : m.log2 ≤ 52 := Nat.lt_succ_iff.mp ((Nat.log2_lt hm.ne').mpr hlt)
  obtain ⟨start, hstart⟩ : ∃ e, e = ((m.log2 + q + 1) * 30103).fdiv 100000 + 2 := ⟨_, rfl⟩
  have hfound : ∃ point, (Interval.ofBinary m q).point? (start - 23) = some point := by
    refine Interval.exists_point? hm (ten_zpow_lt hleast hgreatest ?_)
    rw [Int.fdiv_eq_ediv_of_nonneg _ (by decide)] at hstart
    omega
  rw [ofBinary, ← hstart]
  exact Interval.roundsTo_of_point? hm (Interval.search_spec (by decide : 23 < 24) hfound)

end IamLogin.Shortest
