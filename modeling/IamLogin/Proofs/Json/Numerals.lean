import IamLogin.Json.Reader
import IamLogin.Json.Writer
import IamLogin.Proofs.Json.Strings
import IamLogin.Proofs.Number.Shortest

/-!
# Reading the numerals that were written

An integer is written with its digits and read as the number they make, as long as it is followed by
something that ends a number. A floating-point number is laid out in one of three ways: with an
exponent, with zeros after the point, or with the point among the digits or after them. However it is
laid out, what is read makes the decimal that the digits were found for, and so the number.
-/

namespace IamLogin

namespace Decimal

/-- Only zero is written with a zero in front. -/
theorem head?_ofNat_ne {n : Nat} (h : 0 < n) : (ofNat n).head? ≠ some '0' := by
  induction n using Nat.strongRecOn with
  | _ n ih =>
    unfold ofNat at ih ⊢
    by_cases hlt : n < 10
    · have hdigit : ∀ k, k < 10 → 0 < k → Nat.digitChar k ≠ '0' := by decide
      rw [Nat.toDigits_of_lt_base hlt, List.head?_cons]
      exact fun heq => hdigit n hlt h (Option.some.inj heq)
    · have hrest := ih (n / 10) (by omega) (by omega)
      obtain ⟨c, digits, hcons⟩ :=
        List.exists_cons_of_ne_nil (Nat.toDigits_ne_nil (n := n / 10) (b := 10))
      rw [hcons, List.head?_cons] at hrest
      rw [Nat.toDigits_of_base_le (by decide) (by omega), hcons, List.cons_append,
        List.head?_cons]
      exact hrest

/-- Whether all characters are digits. -/
def AreDigits (cs : List Char) : Prop := ∀ c ∈ cs, isDigit c = true

/-- A number is written in digits. -/
theorem areDigits_ofNat (n : Nat) : AreDigits (ofNat n) := fun _ => isDigit_of_mem_ofNat

/-- Zeros are digits. -/
theorem areDigits_zeros (k : Nat) : AreDigits (List.replicate k '0') := by
  intro c hc
  rw [List.eq_of_mem_replicate hc]
  rfl

/-- Digits can be joined. -/
theorem AreDigits.append {cs ds : List Char} (hcs : AreDigits cs) (hds : AreDigits ds) :
    AreDigits (cs ++ ds) := fun c hc => (List.mem_append.mp hc).elim (hcs c) (hds c)

/-- Zeros after digits multiply by ten each. -/
theorem value_append_zeros (digits : List Char) (k : Nat) :
    value (digits ++ List.replicate k '0') = value digits * 10 ^ k := by
  unfold value
  rw [Nat.ofDigitChars_append]
  generalize Nat.ofDigitChars 10 digits 0 = n
  induction k generalizing n with
  | zero => simp
  | succ k ih =>
    rw [List.replicate_succ, Nat.ofDigitChars_cons, ih]
    simp only [Nat.sub_self, Nat.add_zero]
    ring

/-- Zeros before digits do not count. -/
theorem value_zeros_append (k : Nat) (digits : List Char) :
    value (List.replicate k '0' ++ digits) = value digits := by
  have hzeros := value_append_zeros [] k
  rw [List.nil_append] at hzeros
  unfold value at hzeros ⊢
  rw [Nat.ofDigitChars_append, hzeros]
  simp

end Decimal

namespace Json.Reader

open Decimal (AreDigits)

/-! ## Runs of digits -/

/-- Whether a run of digits that stands before a text ends there. -/
def endsDigits : Text → Bool
  | .char c :: _ => !Decimal.isDigit c
  | _ => true

/-- Whether a number that stands before a text ends there. -/
def endsNumber : Text → Bool
  | .char c :: _ => !(Decimal.isDigit c || c = '.' || c = 'e' || c = 'E')
  | _ => true

/-- What ends a number ends its digits. -/
theorem endsDigits_of_endsNumber {rest : Text} (h : endsNumber rest = true) :
    endsDigits rest = true := by
  unfold endsNumber at h
  unfold endsDigits
  split
  · simp only [Bool.not_eq_true', Bool.or_eq_false_iff] at h ⊢
    exact h.1.1.1
  · rfl

/-- Digits are read as far as they go. -/
theorem digitRun_eq {digits : List Char} (hdigits : AreDigits digits) {rest : Text}
    (hrest : endsDigits rest = true) (done : List Char) :
    digitRun done (Text.ofChars digits ++ rest) = (done.reverse ++ digits, rest) := by
  induction digits generalizing done with
  | nil =>
    rw [Text.ofChars_nil, List.nil_append, List.append_nil]
    unfold digitRun
    split
    · case h_1 c rest =>
      have hc : Decimal.isDigit c = false := by simpa [endsDigits] using hrest
      rw [hc]
      rfl
    · rfl
  | cons c digits ih =>
    rw [Text.ofChars_cons, List.cons_append, digitRun, if_pos (hdigits c List.mem_cons_self),
      ih fun d hd => hdigits d (List.mem_cons_of_mem c hd), List.reverse_cons, List.append_assoc]
    rfl

/-- Digits that do not begin with a zero are the digits before a point. -/
theorem wholeDigits_eq {digits : List Char} (hdigits : AreDigits digits) (hne : digits ≠ [])
    (hhead : digits.head? ≠ some '0') {rest : Text} (hrest : endsDigits rest = true) :
    wholeDigits (Text.ofChars digits ++ rest) = some (digits, rest) := by
  obtain ⟨c, more, rfl⟩ := List.exists_cons_of_ne_nil hne
  have hrun := digitRun_eq hdigits hrest []
  rw [wholeDigits]
  · rw [hrun]
    rfl
  · intro tail heq
    injection heq with heq _
    injection heq with heq
    exact hhead (congrArg some heq)

/-- The digits of a numeral are its digits before a point. -/
theorem wholeDigits_ofNat (n : Nat) {rest : Text} (hrest : endsDigits rest = true) :
    wholeDigits (Text.ofChars (Decimal.ofNat n) ++ rest) = some (Decimal.ofNat n, rest) := by
  rcases Nat.eq_zero_or_pos n with rfl | hpos
  · rfl
  · exact wholeDigits_eq (Decimal.areDigits_ofNat n) (Decimal.ofNat_ne_nil n)
      (Decimal.head?_ofNat_ne hpos) hrest

/-- Digits after a point are a fraction. -/
theorem fraction?_eq {digits : List Char} (hdigits : AreDigits digits) (hne : digits ≠ [])
    {rest : Text} (hrest : endsDigits rest = true) :
    fraction? (.char '.' :: (Text.ofChars digits ++ rest)) = some (digits, rest) := by
  rw [fraction?, digitRun_eq hdigits hrest, List.reverse_nil, List.nil_append]
  cases digits with
  | nil => exact absurd rfl hne
  | cons => rfl

/-- Where a number ends there is no fraction. -/
theorem fraction?_of_endsNumber {rest : Text} (h : endsNumber rest = true) :
    fraction? rest = none := by
  unfold fraction?
  split
  · cases h
  · rfl

/-- Where a number ends there is no exponent. -/
theorem exponent?_of_endsNumber {rest : Text} (h : endsNumber rest = true) :
    exponent? rest = none := by
  unfold exponent?
  split
  · cases h
  · cases h
  · rfl

/-- The signs of an exponent, and whether it is negative with them. -/
def signs : List (List Char × Bool) := [([], false), (['+'], false), (['-'], true)]

/-- Digits are read with the sign before them. -/
theorem signedDigits_eq {sign digits : List Char} {negative : Bool} (hsign : (sign, negative) ∈ signs)
    (hdigits : AreDigits digits) (hne : digits ≠ []) {rest : Text} (hrest : endsDigits rest = true) :
    signedDigits (Text.ofChars sign ++ (Text.ofChars digits ++ rest)) =
      some (Decimal.signed negative digits, rest) := by
  have hrun := digitRun_eq hdigits hrest []
  rw [List.reverse_nil, List.nil_append] at hrun
  obtain ⟨c, more, rfl⟩ := List.exists_cons_of_ne_nil hne
  have hc : Decimal.isDigit c = true := hdigits c List.mem_cons_self
  simp only [signs, List.mem_cons, Prod.mk.injEq, List.not_mem_nil, or_false] at hsign
  rcases hsign with ⟨rfl, rfl⟩ | ⟨rfl, rfl⟩ | ⟨rfl, rfl⟩
  · have hminus : c ≠ '-' := by
      rintro rfl
      cases hc
    have hplus : c ≠ '+' := by
      rintro rfl
      cases hc
    rw [Text.ofChars_cons, List.cons_append] at hrun
    simp [signedDigits, hminus, hplus, hrun]
  all_goals
    generalize Text.ofChars (c :: more) ++ rest = t at hrun
    simp [signedDigits, hrun]

/-- Digits after a sign are an exponent. -/
theorem exponent?_eq (negative : Bool) {digits : List Char} (hdigits : AreDigits digits)
    (hne : digits ≠ []) {rest : Text} (hrest : endsDigits rest = true) :
    exponent? (.char 'e' :: .char (if negative then '-' else '+') ::
        (Text.ofChars digits ++ rest)) = some (Decimal.signed negative digits, rest) := by
  have hsign : ([if negative then '-' else '+'], negative) ∈ signs := by cases negative <;> decide
  rw [exponent?]
  exact signedDigits_eq hsign hdigits hne hrest

/-! ## Numbers -/

section Number

variable {negative : Bool} {t after rest : Text} {whole fraction : List Char} {exponent : Int}

/-- A number with a point and no exponent. -/
theorem number_of_fraction (hwhole : wholeDigits t = some (whole, after))
    (hfraction : fraction? after = some (fraction, rest)) (hexponent : exponent? rest = none) :
    number negative t =
      .ok (.float (.ofDecimal negative (Decimal.value (whole ++ fraction)) (0 - fraction.length)),
        rest) := by
  simp only [number, hwhole, hfraction, hexponent, Option.getD_none]

/-- A number with a point and an exponent. -/
theorem number_of_fraction_exponent {last : Text} (hwhole : wholeDigits t = some (whole, after))
    (hfraction : fraction? after = some (fraction, last))
    (hexponent : exponent? last = some (exponent, rest)) :
    number negative t =
      .ok (.float (.ofDecimal negative (Decimal.value (whole ++ fraction))
        (exponent - fraction.length)), rest) := by
  simp only [number, hwhole, hfraction, hexponent, Option.getD_some]

/-- A number with an exponent and no point. -/
theorem number_of_exponent (hwhole : wholeDigits t = some (whole, after))
    (hfraction : fraction? after = none) (hexponent : exponent? after = some (exponent, rest)) :
    number negative t =
      .ok (.float (.ofDecimal negative (Decimal.value whole) exponent), rest) := by
  simp only [number, hwhole, hfraction, hexponent]

/-- The numeral of a natural number is read as the number, with its sign. -/
theorem number_ofNat (negative : Bool) {n : Nat}
    (h : (Decimal.ofNat n).length ≤ digitLimit) (hrest : endsNumber rest = true) :
    number negative (Text.ofChars (Decimal.ofNat n) ++ rest) =
      .ok (.int (if negative then -(n : Int) else n), rest) := by
  have hlength : ¬ (Decimal.ofNat n).length > digitLimit := by omega
  rw [number, wholeDigits_ofNat n (endsDigits_of_endsNumber hrest)]
  simp only [fraction?_of_endsNumber hrest, exponent?_of_endsNumber hrest, if_neg hlength,
    Decimal.signed, Decimal.value_ofNat]

end Number

/-! ## Layouts of digits -/

/-- Digits with a point before them, if there are any. -/
def pointed : List Char → List Char
  | [] => []
  | more => '.' :: more

section Layout

variable (negative : Bool) {rest : Text}

/-- Digits on both sides of a point. -/
theorem number_point (whole : List Char) {fraction : List Char}
    (hwhole : ∀ after, endsDigits after = true →
      wholeDigits (Text.ofChars whole ++ after) = some (whole, after))
    (hfraction : AreDigits fraction) (hne : fraction ≠ []) (hrest : endsNumber rest = true) :
    number negative (Text.ofChars (whole ++ '.' :: fraction) ++ rest) =
      .ok (.float (.ofDecimal negative (Decimal.value (whole ++ fraction)) (0 - fraction.length)),
        rest) := by
  rw [Text.ofChars_append, List.append_assoc, Text.ofChars_cons, List.cons_append]
  exact number_of_fraction (hwhole _ rfl)
    (fraction?_eq hfraction hne (endsDigits_of_endsNumber hrest)) (exponent?_of_endsNumber hrest)

/-- A sign and the digits of a magnitude give an integer. -/
theorem signed_eq {digits : List Char} {x : Int} (h : Decimal.value digits = x.natAbs) :
    Decimal.signed (decide (x < 0)) digits = x := by
  rw [Decimal.signed, h]
  by_cases hneg : x < 0
  · rw [if_pos (decide_eq_true hneg)]
    omega
  · rw [if_neg (by simpa using hneg)]
    omega

/-- One digit before a point, and an exponent. The point is left out if there is no digit after it. -/
theorem number_exponent {d : Char} {fraction exponent : List Char} (x : Int) (hd : d ≠ '0')
    (hdigits : AreDigits (d :: fraction)) (hexponent : AreDigits exponent) (hne : exponent ≠ [])
    (hvalue : Decimal.value exponent = x.natAbs) (hrest : endsNumber rest = true) :
    number negative (Text.ofChars ([d] ++ pointed fraction ++
        ['e', if x < 0 then '-' else '+'] ++ exponent) ++ rest) =
      .ok (.float (.ofDecimal negative (Decimal.value (d :: fraction)) (x - fraction.length)),
        rest) := by
  have hfirst : ∀ after, endsDigits after = true →
      wholeDigits (Text.ofChars [d] ++ after) = some ([d], after) := fun after hafter =>
    wholeDigits_eq (fun c hc => hdigits c (List.mem_cons.mpr (.inl (List.mem_singleton.mp hc))))
      (List.cons_ne_nil d []) (fun heq => hd (Option.some.inj heq)) hafter
  have hfraction : AreDigits fraction := fun c hc => hdigits c (List.mem_cons_of_mem d hc)
  have hread := exponent?_eq (decide (x < 0)) hexponent hne (endsDigits_of_endsNumber hrest)
  simp only [decide_eq_true_eq] at hread
  rw [signed_eq hvalue] at hread
  cases fraction with
  | nil =>
    have hnone : ∀ t, fraction? (.char 'e' :: t) = none := fun _ => rfl
    simpa [pointed] using number_of_exponent (hfirst _ rfl) (hnone _) hread
  | cons c more =>
    have hpoint := fraction?_eq hfraction (List.cons_ne_nil c more)
      (show endsDigits (.char 'e' :: .char (if x < 0 then '-' else '+') ::
        (Text.ofChars exponent ++ rest)) = true from rfl)
    simpa [pointed] using number_of_fraction_exponent (hfirst _ rfl) hpoint hread

/-- Whether a text begins with a numeral that is read as a decimal of this value. -/
def ReadsAs (t rest : Text) (x : ℚ) : Prop :=
  ∃ (p : Nat) (e : Int), (p * 10 ^ e : ℚ) = x ∧
    number negative t = .ok (.float (.ofDecimal negative p e), rest)

variable {digits : List Char} (hdigits : AreDigits digits) (hne : digits ≠ [])
  (hrest : endsNumber rest = true) {point : Int}
include hdigits hne hrest

/-- Digits that are laid out with an exponent. -/
theorem readsAs_exponent (hhead : digits.head? ≠ some '0')
    (hfar : point - 1 < -4 ∨ 16 ≤ point - 1) :
    ReadsAs negative (Text.ofChars (Shortest.layout digits point) ++ rest) rest
      (Decimal.value digits * 10 ^ (point - digits.length)) := by
  obtain ⟨d, fraction, rfl⟩ := List.exists_cons_of_ne_nil hne
  have hnumber := number_exponent negative (point - 1) (fun heq => hhead (congrArg some heq)) hdigits
    ((Decimal.areDigits_zeros (2 - (Decimal.ofNat (point - 1).natAbs).length)).append
      (Decimal.areDigits_ofNat (point - 1).natAbs))
    (List.append_ne_nil_of_right_ne_nil _ (Decimal.ofNat_ne_nil _))
    (by rw [Decimal.value_zeros_append, Decimal.value_ofNat]) hrest
  rw [← List.append_assoc] at hnumber
  rw [Shortest.layout]
  simp only [if_pos hfar]
  refine ⟨_, _, ?_, hnumber⟩
  congr 2
  rw [List.length_cons]
  omega

/-- Digits that are laid out after the point. -/
theorem readsAs_after (hnear : ¬ (point - 1 < -4 ∨ 16 ≤ point - 1)) (hpoint : point ≤ 0) :
    ReadsAs negative (Text.ofChars (Shortest.layout digits point) ++ rest) rest
      (Decimal.value digits * 10 ^ (point - digits.length)) := by
  have hnumber := number_point negative ['0'] (fun _ _ => rfl)
    ((Decimal.areDigits_zeros point.natAbs).append hdigits)
    (List.append_ne_nil_of_right_ne_nil _ hne) hrest
  have hvalue : Decimal.value (['0'] ++ (List.replicate point.natAbs '0' ++ digits)) =
      Decimal.value digits :=
    (Decimal.value_zeros_append 1 _).trans (Decimal.value_zeros_append _ _)
  rw [Shortest.layout]
  simp only [if_neg hnear, if_pos hpoint]
  refine ⟨_, _, ?_, hnumber⟩
  rw [hvalue, List.length_append, List.length_replicate]
  congr 2
  omega

/-- Digits that are laid out around the point, or before it. -/
theorem readsAs_around (hhead : digits.head? ≠ some '0')
    (hnear : ¬ (point - 1 < -4 ∨ 16 ≤ point - 1)) (hpoint : ¬ point ≤ 0) :
    ReadsAs negative (Text.ofChars (Shortest.layout digits point) ++ rest) rest
      (Decimal.value digits * 10 ^ (point - digits.length)) := by
  obtain ⟨n, rfl⟩ : ∃ n : Nat, point = n := ⟨point.toNat, by omega⟩
  have hwhole : ∀ zeros : Nat, ∀ after, endsDigits after = true →
      wholeDigits (Text.ofChars (digits.take n ++ List.replicate zeros '0') ++ after) =
        some (digits.take n ++ List.replicate zeros '0', after) := by
    intro zeros after hafter
    obtain ⟨k, rfl⟩ : ∃ k, n = k + 1 := ⟨n - 1, by omega⟩
    obtain ⟨d, more, rfl⟩ := List.exists_cons_of_ne_nil hne
    have htake : AreDigits ((d :: more).take (k + 1)) :=
      fun c hc => hdigits c (List.mem_of_mem_take hc)
    have hfirst : ((d :: more).take (k + 1) ++ List.replicate zeros '0').head? ≠ some '0' := hhead
    exact wholeDigits_eq (htake.append (Decimal.areDigits_zeros zeros)) (List.cons_ne_nil d _) hfirst
      hafter
  rw [Shortest.layout]
  simp only [if_neg hnear, if_neg hpoint, Int.toNat_natCast]
  cases hfraction : digits.drop n with
  | nil =>
    have hlength : digits.length ≤ n := List.drop_eq_nil_iff.mp hfraction
    have hexponent : (n : Int) - digits.length = (n - digits.length : Nat) := by omega
    have hnumber := number_point negative _ (hwhole (n - digits.length))
      (Decimal.areDigits_zeros 1) (List.cons_ne_nil '0' []) hrest
    refine ⟨_, _, ?_, hnumber⟩
    -- The zero after the point is one more zero after the digits.
    rw [List.take_of_length_le hlength, List.append_assoc, List.replicate_append_replicate,
      Decimal.value_append_zeros, hexponent, zpow_natCast, List.length_replicate, Nat.cast_mul,
      Nat.cast_pow, pow_succ]
    norm_num
    ring
  | cons c more =>
    have hlength : digits.length - n = more.length + 1 := by
      rw [← List.length_drop, hfraction, List.length_cons]
    have hzeros : n - digits.length = 0 := by omega
    have hnumber := number_point negative _ (hwhole 0)
      (fun d hd => hdigits d (List.mem_of_mem_drop (hfraction ▸ hd))) (List.cons_ne_nil c more) hrest
    rw [hzeros]
    refine ⟨_, _, ?_, hnumber⟩
    rw [List.replicate_zero, List.append_nil, ← hfraction, List.take_append_drop, List.length_drop]
    congr 2
    omega

/-- However digits are laid out, they are read as a decimal of the same value. -/
theorem readsAs_layout (hhead : digits.head? ≠ some '0') (point : Int) :
    ReadsAs negative (Text.ofChars (Shortest.layout digits point) ++ rest) rest
      (Decimal.value digits * 10 ^ (point - digits.length)) := by
  by_cases hfar : point - 1 < -4 ∨ 16 ≤ point - 1
  · exact readsAs_exponent negative hdigits hne hrest hhead hfar
  by_cases hpoint : point ≤ 0
  · exact readsAs_after negative hdigits hne hrest hfar hpoint
  · exact readsAs_around negative hdigits hne hrest hhead hfar hpoint

end Layout

/-! ## Floating-point numbers -/

/-- The magnitude of a number is read back, with its sign. -/
theorem number_magnitude {negative : Bool} {m : Nat} {q : Int}
    (h : Double.IsProper (.finite negative m q)) {rest : Text} (hrest : endsNumber rest = true) :
    number negative (Text.ofChars (Shortest.magnitude m q) ++ rest) =
      .ok (.float (.finite negative m q), rest) := by
  rcases Nat.eq_zero_or_pos m with rfl | hm
  · have hq : q = Double.leastExponent := h.2.2.2 (by decide)
    have hnumber := number_point negative ['0'] (fun _ _ => rfl)
      (Decimal.areDigits_zeros 1) (List.cons_ne_nil '0' []) hrest
    rw [hq]
    exact hnumber
  · have hrounds := Shortest.roundsTo_ofBinary h hm
    obtain ⟨p, e, hfound⟩ : ∃ p e, Shortest.ofBinary m q = (p, e) := ⟨_, _, rfl⟩
    rw [hfound] at hrounds
    have hp : 0 < p := by
      rw [Nat.pos_iff_ne_zero]
      rintro rfl
      simpa using hrounds.pos hm
    obtain ⟨digits, e', hvalue, hnumber⟩ := readsAs_layout negative (Decimal.areDigits_ofNat p)
      (Decimal.ofNat_ne_nil p) hrest (Decimal.head?_ofNat_ne hp) ((Decimal.ofNat p).length + e)
    rw [Decimal.value_ofNat, add_sub_cancel_left] at hvalue
    rw [Shortest.magnitude, if_neg hm.ne', hfound, hnumber,
      Double.ofDecimal_eq negative h hm (hvalue ▸ hrounds)]

/-- What is laid out begins with a digit. -/
theorem exists_layout_cons {digits : List Char} (hdigits : AreDigits digits) (hne : digits ≠ [])
    (point : Int) :
    ∃ c cs, Shortest.layout digits point = c :: cs ∧ Decimal.isDigit c = true := by
  obtain ⟨d, more, rfl⟩ := List.exists_cons_of_ne_nil hne
  have hd : Decimal.isDigit d = true := hdigits d List.mem_cons_self
  unfold Shortest.layout
  dsimp only
  split
  · exact ⟨d, _, rfl, hd⟩
  split
  · exact ⟨'0', _, rfl, rfl⟩
  · obtain ⟨n, hn⟩ : ∃ n, point.toNat = n + 1 := ⟨point.toNat - 1, by omega⟩
    rw [hn]
    exact ⟨d, _, rfl, hd⟩

/-- Whether a character stands in numerals. -/
def InNumeral (c : Char) : Prop := Decimal.isDigit c = true ∨ c ∈ ['.', 'e', '-', '+']

/-- Digits with a point among them stay within a numeral. -/
theorem inNumeral_pointed {digits : List Char} (hdigits : AreDigits digits) :
    ∀ c ∈ pointed digits, InNumeral c := by
  intro c hc
  cases digits with
  | nil => cases hc
  | cons d more =>
    rcases List.mem_cons.mp hc with rfl | hc
    · exact .inr (by decide)
    · exact .inl (hdigits c hc)

/-- What is laid out consists of characters that stand in numerals. -/
theorem inNumeral_layout {digits : List Char} (hdigits : AreDigits digits) (point : Int) :
    ∀ c ∈ Shortest.layout digits point, InNumeral c := by
  have htake (n : Nat) : ∀ c ∈ digits.take n, InNumeral c :=
    fun c hc => .inl (hdigits c (List.mem_of_mem_take hc))
  have hdrop (n : Nat) : AreDigits (digits.drop n) := fun c hc => hdigits c (List.mem_of_mem_drop hc)
  have hzeros (n : Nat) : ∀ c ∈ List.replicate n '0', InNumeral c :=
    fun c hc => .inl (Decimal.areDigits_zeros n c hc)
  have hdot : InNumeral '.' := .inr (by decide)
  unfold Shortest.layout
  dsimp only
  split
  · have hmark : ∀ c ∈ ['e', if point - 1 < 0 then '-' else '+'], InNumeral c := by
      intro c hc
      simp only [List.mem_cons, List.not_mem_nil, or_false] at hc
      rcases hc with rfl | rfl
      · exact .inr (by decide)
      · split <;> exact .inr (by decide)
    have hfraction := inNumeral_pointed (hdrop 1)
    have hexponent : ∀ c ∈ Decimal.ofNat (point - 1).natAbs, InNumeral c :=
      fun c hc => .inl (Decimal.areDigits_ofNat _ c hc)
    simp only [List.forall_mem_append]
    exact ⟨⟨⟨⟨htake 1, hfraction⟩, hmark⟩, hzeros _⟩, hexponent⟩
  split
  · simp only [List.forall_mem_cons, List.forall_mem_append]
    exact ⟨.inl rfl, hdot, hzeros _, fun c hc => .inl (hdigits c hc)⟩
  · have hfraction : ∀ c ∈ (if (digits.drop point.toNat).isEmpty then ['0'] else
        digits.drop point.toNat), InNumeral c := by
      split
      · exact hzeros 1
      · exact fun c hc => .inl (hdrop _ c hc)
    simp only [List.forall_mem_append, List.forall_mem_cons]
    exact ⟨⟨htake _, hzeros _⟩, hdot, hfraction⟩

/-- The magnitude of a number is laid out from digits. -/
theorem exists_magnitude_eq (m : Nat) (q : Int) :
    ∃ digits point, AreDigits digits ∧ digits ≠ [] ∧
      Shortest.magnitude m q = Shortest.layout digits point := by
  rcases Nat.eq_zero_or_pos m with rfl | hm
  · exact ⟨['0'], 1, Decimal.areDigits_zeros 1, List.cons_ne_nil '0' [], rfl⟩
  · exact ⟨Decimal.ofNat (Shortest.ofBinary m q).1,
      (Decimal.ofNat (Shortest.ofBinary m q).1).length + (Shortest.ofBinary m q).2,
      Decimal.areDigits_ofNat _, Decimal.ofNat_ne_nil _, by rw [Shortest.magnitude, if_neg hm.ne']⟩

/-- The magnitude of a number begins with a digit. -/
theorem exists_magnitude_cons (m : Nat) (q : Int) :
    ∃ c cs, Shortest.magnitude m q = c :: cs ∧ Decimal.isDigit c = true := by
  obtain ⟨digits, point, hdigits, hne, hlayout⟩ := exists_magnitude_eq m q
  rw [hlayout]
  exact exists_layout_cons hdigits hne point

/-- The magnitude of a number consists of characters that stand in numerals. -/
theorem inNumeral_magnitude (m : Nat) (q : Int) :
    ∀ c ∈ Shortest.magnitude m q, InNumeral c := by
  obtain ⟨digits, point, hdigits, -, hlayout⟩ := exists_magnitude_eq m q
  rw [hlayout]
  exact inNumeral_layout hdigits point

end Json.Reader

end IamLogin
