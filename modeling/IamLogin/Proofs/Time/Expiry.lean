import IamLogin.Claims
import IamLogin.Draft
import IamLogin.Proofs.Action
import IamLogin.Proofs.Number.WholePart
import IamLogin.Proofs.Time.Timestamp

/-!
# When a claim expires

A claim expires at the second of its moment and the seconds of its validity after it. The second of a
moment is found by way of a floating-point number that is cut off, so it is the second in which the
moment lies or the one after. It is the one after for a moment before the epoch, unless nothing is cut
off, and for a moment so far from the epoch that floating-point numbers do not tell it from the next
second. No more than this is needed for a claim to outlive the moment of its issue.
-/

namespace IamLogin

/-- The length of a duration in seconds, with what follows the point. -/
def Duration.exactSeconds (d : Duration) : ℚ := d.micros / 1000000

/-- A longer duration has no fewer seconds. -/
theorem Duration.exactSeconds_le_iff {d d' : Duration} :
    d.exactSeconds ≤ d'.exactSeconds ↔ d.micros ≤ d'.micros := by
  unfold exactSeconds
  rw [div_le_div_iff_of_pos_right (by norm_num), Int.cast_le]

/-- The whole seconds of a duration are the floor of its length. -/
theorem Duration.floor_exactSeconds (d : Duration) : ⌊d.exactSeconds⌋ = d.wholeSeconds := by
  rw [exactSeconds, wholeSeconds, Int.fdiv_eq_ediv_of_nonneg _ (by decide)]
  exact Rat.floor_intCast_div_natCast d.micros 1000000

namespace Moment

/-- The time from the epoch in seconds, with what follows the point. -/
def instant (m : Moment) : ℚ := m.sinceEpoch.exactSeconds

/-- An instant is a count of microseconds. -/
theorem instant_eq (m : Moment) : m.instant = m.sinceEpoch.micros / (1000000 : ℕ) := rfl

/-- An instant is what the clock shows less what it is ahead of universal time. -/
theorem instant_eq_sub_offset (m : Moment) :
    m.instant = { m with offset := none }.instant - (m.offset.getD 0 : ℤ) / 1000000 := by
  simp only [instant, Duration.exactSeconds, sinceEpoch, Duration.ofParts, dayNumber,
    Duration.microsPerSecond, Option.getD_none]
  push_cast
  ring

/-- A timestamp depends on nothing but the instant. -/
theorem timestamp_eq_of_instant {m m' : Moment} (h : m.instant = m'.instant) :
    m.timestamp = m'.timestamp := by
  have hmicros : m.sinceEpoch.micros = m'.sinceEpoch.micros :=
    le_antisymm (Duration.exactSeconds_le_iff.mp h.le) (Duration.exactSeconds_le_iff.mp h.ge)
  unfold timestamp seconds
  rw [hmicros]

/-- A valid reading is so near to the epoch that whole seconds leave a place of the significand free. -/
theorem abs_instant_lt {m : Moment} (h : m.isValid = true) :
    |m.instant| < 2 ^ ((Double.precision : ℤ) - 1) := by
  have hmicros : ((m.sinceEpoch.micros.natAbs : ℕ) : ℚ) < 0x8000000000000000 := by
    exact_mod_cast natAbs_sinceEpoch_lt h
  have hlimit : (2 : ℚ) ^ ((Double.precision : ℤ) - 1) = 4503599627370496 := by
    norm_num [Double.precision]
  rw [hlimit, instant, Duration.exactSeconds, abs_div, ← Int.cast_abs, ← Nat.cast_natAbs,
    abs_of_pos (by norm_num), div_lt_iff₀ (by norm_num)]
  linarith

/-- The timestamp of a valid reading is what is left of its instant. -/
theorem timestamp_eq {m : Moment} (h : m.isValid = true) :
    m.timestamp = Double.wholePart m.instant := by
  have hleast : (2 : ℚ) ^ (Double.leastExponent + (Double.precision - 1)) * (1000000 : ℕ) ≤ 1 := by
    have hexponent : (2 : ℚ) ^ (Double.leastExponent + (Double.precision - 1)) ≤ 2 ^ (-20 : ℤ) :=
      zpow_le_zpow_right₀ one_le_two (by decide)
    calc (2 : ℚ) ^ (Double.leastExponent + (Double.precision - 1)) * (1000000 : ℕ)
        ≤ 2 ^ (-20 : ℤ) * (1000000 : ℕ) := mul_le_mul_of_nonneg_right hexponent (by norm_num)
      _ ≤ 1 := by norm_num
  have hgreatest := abs_instant_lt h
  rw [instant_eq] at hgreatest ⊢
  exact Double.truncate_ofRatio_eq_wholePart (by decide) hleast hgreatest

/-- Up to the year 2514 an instant is too far from the next second to be carried to it. -/
theorem timestamp_eq_floor {m : Moment} (h : m.isValid = true) (hleast : 0 ≤ m.instant)
    (hgreatest : m.instant < 2 ^ 34) : m.timestamp = ⌊m.instant⌋ := by
  have hcarry : ¬ Double.IsCarried m.instant := by
    rw [instant_eq] at hleast hgreatest ⊢
    exact Double.not_isCarried_div (k := 34) (by decide) hleast hgreatest
      (by norm_num [Double.precision])
  rw [timestamp_eq h, Double.wholePart, if_pos hleast, Double.wholeMagnitude, if_neg hcarry]

/-- What is left of the instant of a valid reading is its second if this is kept, and the next one
otherwise. -/
theorem wholePart_instant {m : Moment} (h : m.isValid = true) :
    (Double.KeepsWhole m.instant → Double.wholePart m.instant = ⌊m.instant⌋) ∧
      (¬ Double.KeepsWhole m.instant → Double.wholePart m.instant = ⌊m.instant⌋ + 1) := by
  refine Double.wholePart_eq ((neg_le_abs _).trans_lt ((abs_instant_lt h).trans_le ?_))
  exact zpow_le_zpow_right₀ one_le_two (by omega)

end Moment

/-- Options that are built from a draft have a validity of one second at least. -/
theorem Draft.one_le_exactSeconds_of_build {d : Draft} {o : Options} (h : d.build = .ok o) :
    1 ≤ o.validity.exactSeconds := by
  have hleast : leastValidity.exactSeconds = 1 := by
    norm_num [leastValidity, Duration.ofParts, Duration.exactSeconds, Duration.microsPerSecond]
  rw [← hleast, Duration.exactSeconds_le_iff]
  unfold build at h
  dsimp only at h
  split at h
  · cases h
  · split at h
    · cases h
    · split at h
      · cases h
      · case isFalse hshort =>
        split at h
        · cases h
        · cases h
          exact not_lt.mp hshort

namespace Claims

variable (role account : Text) (validity : Duration) {now : Moment}

/-- A claim expires the whole seconds of its validity after what is left of its moment. -/
theorem expiry_make (h : now.isValid = true) :
    (make role validity account now).expiry =
      Double.wholePart now.instant + ⌊validity.exactSeconds⌋ := by
  rw [make, Moment.timestamp_eq h, Duration.floor_exactSeconds]

/-- A claim expires at the second in which its moment lies and the whole seconds of its validity after it
if the second of the moment is kept, and one second later otherwise. -/
theorem make_expiry_eq_iff (h : now.isValid = true) :
    ((make role validity account now).expiry = ⌊now.instant⌋ + ⌊validity.exactSeconds⌋ ↔
        Double.KeepsWhole now.instant) ∧
      (¬ Double.KeepsWhole now.instant →
        (make role validity account now).expiry = ⌊now.instant⌋ + ⌊validity.exactSeconds⌋ + 1) := by
  obtain ⟨hkeeps, hloses⟩ := Moment.wholePart_instant h
  rw [expiry_make role account validity h]
  by_cases hwhole : Double.KeepsWhole now.instant
  · have heq := hkeeps hwhole
    simp [heq, hwhole]
  · have heq := hloses hwhole
    simp only [heq, hwhole, iff_false, not_false_eq_true, true_implies]
    omega

/-- Half a second before the epoch. -/
def halfBefore : Moment := ⟨1969, 12, 31, 23, 59, 59, 500000, some 0⟩

/-- A claim that is issued half a second before the epoch for one second expires at the first second
after it, though the second of its moment and the second of its validity end at the epoch. -/
theorem make_expiry_halfBefore :
    halfBefore.isValid = true ∧ (make "role" ⟨1000000⟩ "account" halfBefore).expiry = 1 ∧
      ⌊halfBefore.instant⌋ + ⌊Duration.exactSeconds ⟨1000000⟩⌋ = 0 := by
  refine ⟨by decide, by decide +kernel, by decide +kernel⟩

/-- Half a second before the year 2024, on a clock that is two hours ahead. -/
def halfAhead : Moment := ⟨2024, 1, 1, 1, 59, 59, 500000, some 7200000000⟩

/-- Its second is kept, and half a second of the validity does not count. -/
theorem make_expiry_eq_iff_halfAhead :
    halfAhead.isValid = true ∧
      (make "role" ⟨1500000⟩ "account" halfAhead).expiry =
        ⌊halfAhead.instant⌋ + ⌊Duration.exactSeconds ⟨1500000⟩⌋ := by
  have hvalid : halfAhead.isValid = true := by decide
  exact ⟨hvalid, (make_expiry_eq_iff "role" "account" ⟨1500000⟩ hvalid).1.mpr (by decide +kernel)⟩

/-! ## Bounds -/

/-- What can be relied on about the expiry of a claim in spite of the floating-point number. -/
structure IsPunctual (role account : Text) (validity : Duration) (now : Moment) : Prop where
  /-- It is counted from the second of the moment or the one after. -/
  second : (make role validity account now).expiry - ⌊validity.exactSeconds⌋ = ⌊now.instant⌋ ∨
    (make role validity account now).expiry - ⌊validity.exactSeconds⌋ = ⌊now.instant⌋ + 1
  /-- From the epoch to the year 2514 it is counted from the second of the moment. -/
  ourDays : 0 ≤ now.instant → now.instant < 2 ^ 34 →
    (make role validity account now).expiry - ⌊validity.exactSeconds⌋ = ⌊now.instant⌋
  /-- How the instant of the moment is written does not matter to the claim. -/
  instant : ∀ other : Moment, other.instant = now.instant →
    make role validity account other = make role validity account now
  /-- A clock without an offset shows universal time. -/
  universal : make role validity account { now with offset := none } =
    make role validity account { now with offset := some 0 }
  /-- A claim that is issued later for as long or longer does not expire earlier. -/
  mono : ∀ (later : Moment) (longer : Duration), later.isValid = true →
    now.instant ≤ later.instant → validity.exactSeconds ≤ longer.exactSeconds →
    (make role validity account now).expiry ≤ (make role longer account later).expiry
  /-- With a validity that is accepted no claim is expired when it is issued. -/
  unexpired : ∀ (draft : Draft) (options : Options), draft.build = .ok options →
    options.validity = validity → now.instant < (make role validity account now).expiry

/-- Every valid reading makes claims that are punctual. -/
theorem make_isPunctual (h : now.isValid = true) : IsPunctual role account validity now := by
  have hsame : ∀ m m' : Moment, m.instant = m'.instant →
      make role validity account m = make role validity account m' := by
    intro m m' heq
    rw [make, make, Moment.timestamp_eq_of_instant heq]
  have hsecond : (make role validity account now).expiry - ⌊validity.exactSeconds⌋ = ⌊now.instant⌋ ∨
      (make role validity account now).expiry - ⌊validity.exactSeconds⌋ = ⌊now.instant⌋ + 1 := by
    obtain ⟨hkept, hlost⟩ := Moment.wholePart_instant h
    rw [expiry_make role account validity h, add_sub_cancel_right]
    by_cases hkeeps : Double.KeepsWhole now.instant
    · exact .inl (hkept hkeeps)
    · exact .inr (hlost hkeeps)
  refine ⟨hsecond, fun hleast hgreatest => ?_, fun other heq => hsame other now heq, ?_, ?_, ?_⟩
  · rw [make, Moment.timestamp_eq_floor h hleast hgreatest, Duration.floor_exactSeconds]
    exact add_sub_cancel_right _ _
  · refine hsame _ _ ?_
    rw [Moment.instant_eq_sub_offset { now with offset := some 0 }]
    simp
  · intro later longer hlater hinstant hlonger
    rw [expiry_make role account validity h, expiry_make role account longer hlater]
    exact Int.add_le_add (Double.wholePart_mono hinstant) (Int.floor_le_floor hlonger)
  · rintro draft options hbuild rfl
    have hone : (1 : ℤ) ≤ ⌊options.validity.exactSeconds⌋ :=
      Int.le_floor.mpr (by exact_mod_cast Draft.one_le_exactSeconds_of_build hbuild)
    have hnext : ⌊now.instant⌋ + 1 ≤ (make role options.validity account now).expiry := by omega
    calc now.instant < ⌊now.instant⌋ + 1 := Int.lt_floor_add_one _
      _ ≤ (make role options.validity account now).expiry := by exact_mod_cast hnext

/-- The last microsecond of the last year that a clock can show. -/
def lastMoment : Moment := ⟨9999, 12, 31, 23, 59, 59, 999999, some 0⟩

/-- A draft of options with the least validity. -/
def shortest : Draft where
  role := some "role"
  validity := leastValidity
  supplier := some (.fixed (some ⟨"account", "project", none, none⟩))

/-- Even so late, where floating-point numbers do not tell the moment from the next second, and for a
validity of one second, a claim is punctual, and so it is not expired when it is issued. -/
theorem make_isPunctual_last :
    lastMoment.isValid = true ∧ ¬ Double.KeepsWhole lastMoment.instant ∧
      IsPunctual "role" "account" leastValidity lastMoment ∧
      ∃ options, shortest.build = .ok options ∧
        lastMoment.instant < (make "role" options.validity "account" lastMoment).expiry := by
  have hvalid : lastMoment.isValid = true := by decide
  have hpunctual := make_isPunctual "role" "account" leastValidity hvalid
  have hbuild : ∃ options, shortest.build = .ok options ∧ options.validity = leastValidity :=
    toOption_map_eq_some.mp (by decide +kernel)
  obtain ⟨options, hbuild, hvalidity⟩ := hbuild
  refine ⟨hvalid, by decide +kernel, hpunctual, options, hbuild, ?_⟩
  rw [hvalidity]
  exact hpunctual.unexpired shortest options hbuild hvalidity

end Claims

end IamLogin
