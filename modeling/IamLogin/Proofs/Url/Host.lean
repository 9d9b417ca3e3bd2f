import IamLogin.Proofs.Url.Authority
import Mathlib

/-!
# How hosts and ports are sent

A host is sent as it is written, but for the case of a name and the brackets of an address, and a port as
the number that it is, unless it is the one that the scheme has anyway. What was made ready for sending is
read once more before it is, and nothing changes then: a name in lower case stays as it is, an address gets
back the brackets that it lost, and a port is printed so that it is read as the same number.
-/

namespace IamLogin

/-! ## Ports -/

/-- A digit is worth what it shows. -/
theorem decimalDigit?_of_isDigit {c : Char} (h : Decimal.isDigit c = true) :
    decimalDigit? c = some (c.toNat - '0'.toNat) := by
  have hcode := Decimal.isDigit_iff.mp h
  have hfirst : (fun first => decide (first ≤ c.toNat ∧ c.toNat < first + 10)) 0x30 = true :=
    decide_eq_true (by omega)
  have hzero : digitZeros.find? (fun first => first ≤ c.toNat ∧ c.toNat < first + 10) = some 0x30 :=
    List.find?_cons_of_pos hfirst
  rw [decimalDigit?, hzero]
  rfl

/-- A run of digits is worth what they show. -/
theorem Grouped.digits?_eq {digits : List Char} (hne : digits ≠ [])
    (hdigits : ∀ c ∈ digits, Decimal.isDigit c = true) :
    digits? decimalDigit? digits = some (digits.map fun c => c.toNat - '0'.toNat) := by
  induction digits with
  | nil => exact absurd rfl hne
  | cons c rest ih =>
    have hc := decimalDigit?_of_isDigit (hdigits c List.mem_cons_self)
    cases rest with
    | nil => rw [digits?, hc, Option.map_some, List.map_singleton]
    | cons d more =>
      have hrest := ih (List.cons_ne_nil d more) fun e he => hdigits e (List.mem_cons_of_mem c he)
      have hd : d ≠ '_' := by
        rintro rfl
        exact absurd (hdigits '_' (by simp)) (by decide)
      rw [digits?, hc, hrest]
      · rfl
      · exact List.cons_ne_nil d more
      · intro rest heq
        exact hd (List.cons.inj heq).1

namespace Url

/-- A number in digits is read as it is written. -/
theorem number?_eq {digits : List Char} (hne : digits ≠ [])
    (hdigits : ∀ c ∈ digits, Decimal.isDigit c = true) (hlength : digits.length ≤ 4300) :
    number? digits = some (Decimal.value digits : Int) := by
  have hnothing : ∀ c ∈ ([] : List Char), isBlank c = true := List.forall_mem_nil _
  have htrim : trimBoth isBlank digits = digits := by
    have h := @trimBoth_append_append _ isBlank [] digits [] hnothing hnothing
      (fun c hc => Decimal.isBlank_of_isDigit (hdigits c (List.mem_of_mem_head? hc)))
      (fun c hc => Decimal.isBlank_of_isDigit (hdigits c (List.mem_of_getLast? hc)))
    rwa [List.nil_append, List.append_nil] at h
  have hsign : Grouped.sign digits = (false, digits) := by
    unfold Grouped.sign
    split
    · exact absurd (hdigits '-' (by simp)) (by decide)
    · exact absurd (hdigits '+' (by simp)) (by decide)
    · rfl
  have hvalue : Grouped.value (digits.map fun c => c.toNat - '0'.toNat) = Decimal.value digits := by
    rw [Grouped.value, List.foldl_map]
    rfl
  have hshort : ¬ (digits.map fun c => c.toNat - '0'.toNat).length > 4300 := by
    rw [List.length_map]
    omega
  simp only [number?, htrim, hsign, Grouped.digits?_eq hne hdigits, hvalue, if_neg hshort]
  rfl

/-- Whether digits can be read as a port; there may be none. -/
structure IsPort (digits : List Char) : Prop where
  /-- They are digits. -/
  all_digits : ∀ c ∈ digits, Decimal.isDigit c = true
  /-- There are not too many. -/
  length_le : digits.length ≤ 4300

/-- The port in digits, unless it is the scheme's own. -/
def portIn (scheme digits : List Char) : Option Int :=
  if digits = [] ∨ defaultPort? scheme = some (Decimal.value digits : Int) then none
  else some (Decimal.value digits : Int)

/-- The digits of a port as it is sent. -/
def portDigits : Option Int → List Char
  | none => []
  | some port => Decimal.ofInt port

/-- A port is read from its digits. -/
theorem normalPort_eq (scheme : List Char) {digits : List Char} (h : IsPort digits) :
    normalPort scheme digits = .ok (portIn scheme digits) := by
  by_cases hne : digits = []
  · subst hne
    rfl
  · have hempty : ¬ digits.isEmpty = true := by simpa using hne
    rw [normalPort, if_neg hempty, number?_eq hne h.all_digits h.length_le]
    simp only [portIn, hne, false_or]

/-- A run of digits is worth less than the power of ten with as many zeros. -/
theorem value_lt_pow {digits : List Char} (hdigits : ∀ c ∈ digits, Decimal.isDigit c = true) :
    Decimal.value digits < 10 ^ digits.length := by
  have hfrom : ∀ first, Nat.ofDigitChars 10 digits first < (first + 1) * 10 ^ digits.length := by
    induction digits with
    | nil => simp
    | cons c rest ih =>
      intro first
      have hcode := Decimal.isDigit_iff.mp (hdigits c List.mem_cons_self)
      have hrest := ih (fun d hd => hdigits d (List.mem_cons_of_mem c hd))
        (10 * first + (c.toNat - '0'.toNat))
      have hdigit : c.toNat - '0'.toNat ≤ 9 := by
        have hzero : '0'.toNat = 0x30 := rfl
        omega
      rw [Nat.ofDigitChars_cons]
      calc Nat.ofDigitChars 10 rest (10 * first + (c.toNat - '0'.toNat))
          < (10 * first + (c.toNat - '0'.toNat) + 1) * 10 ^ rest.length := hrest
        _ ≤ (first + 1) * 10 * 10 ^ rest.length := Nat.mul_le_mul_right _ (by omega)
        _ = (first + 1) * 10 ^ (c :: rest).length := by
          rw [List.length_cons, Nat.pow_succ', Nat.mul_assoc]
  simpa [Decimal.value] using hfrom 0

/-- A port is sent as the number that it is, or not at all. -/
theorem portIn_cases (scheme digits : List Char) :
    portIn scheme digits = none ∨
      digits ≠ [] ∧ portIn scheme digits = some (Decimal.value digits : Int) := by
  unfold portIn
  split
  · exact .inl rfl
  · case isFalse h => exact .inr ⟨(not_or.mp h).1, rfl⟩

/-- What is sent of a port is no longer than what was written. -/
theorem length_portDigits_le (scheme : List Char) {digits : List Char} (h : IsPort digits) :
    (portDigits (portIn scheme digits)).length ≤ digits.length := by
  rcases portIn_cases scheme digits with hnone | ⟨hne, hsome⟩
  · rw [hnone]
    exact Nat.zero_le _
  · rw [hsome]
    exact (Nat.length_toDigits_le_iff (by decide) (List.length_pos_iff.mpr hne)).mpr
      (value_lt_pow h.all_digits)

/-- What is sent of a port is a port. -/
theorem isPort_portDigits (scheme : List Char) {digits : List Char} (h : IsPort digits) :
    IsPort (portDigits (portIn scheme digits)) := by
  refine ⟨?_, (length_portDigits_le scheme h).trans h.length_le⟩
  rcases portIn_cases scheme digits with hnone | ⟨-, hsome⟩
  · rw [hnone]
    exact List.forall_mem_nil _
  · rw [hsome]
    exact fun c => Decimal.isDigit_of_mem_ofNat

/-- The port of a scheme is its port in lower case, too. -/
theorem defaultPort?_toLower {scheme : List Char} {port : Int} (h : defaultPort? scheme = some port) :
    defaultPort? (scheme.map Char.toLower) = some port := by
  have hscheme : ∀ name : String, String.ofList scheme = name → scheme = name.toList := by
    rintro _ rfl
    exact String.toList_ofList.symm
  unfold defaultPort? at h
  split at h
  · case h_1 heq => rw [hscheme _ heq, ← h]; rfl
  · case h_2 heq => rw [hscheme _ heq, ← h]; rfl
  · case h_3 heq => rw [hscheme _ heq, ← h]; rfl
  · case h_4 heq => rw [hscheme _ heq, ← h]; rfl
  · case h_5 heq => rw [hscheme _ heq, ← h]; rfl
  · cases h

/-- A port that is sent is read as the same port, unless it turns out to be the scheme's own. -/
theorem portIn_portDigits (scheme digits : List Char) :
    portIn (scheme.map Char.toLower) (portDigits (portIn scheme digits)) =
      portIn (scheme.map Char.toLower) digits := by
  by_cases h : digits = [] ∨ defaultPort? scheme = some (Decimal.value digits : Int)
  · have hlower : portIn (scheme.map Char.toLower) digits = none :=
      if_pos (h.imp_right defaultPort?_toLower)
    have hnone : portIn scheme digits = none := if_pos h
    rw [hnone, hlower]
    rfl
  · have hsome : portIn scheme digits = some (Decimal.value digits : Int) := if_neg h
    have hdigits : portDigits (portIn scheme digits) = Decimal.ofNat (Decimal.value digits) := by
      rw [hsome]
      rfl
    rw [hdigits, portIn, portIn, Decimal.value_ofNat]
    simp only [Decimal.ofNat_ne_nil, (not_or.mp h).1]

/-! ## Hosts -/

/-- Lower case by the codes. -/
theorem toNat_toLower (c : Char) :
    c.toLower.toNat = if 65 ≤ c.toNat ∧ c.toNat ≤ 90 then c.toNat + 32 else c.toNat := by
  have hupper : (c.val ≥ 'A'.val ∧ c.val ≤ 'Z'.val) ↔ 65 ≤ c.toNat ∧ c.toNat ≤ 90 := by
    rw [ge_iff_le, UInt32.le_iff_toNat_le, UInt32.le_iff_toNat_le]
    exact Iff.rfl
  unfold Char.toLower
  split
  · case isTrue h =>
    have hcode := hupper.mp h
    rw [if_pos hcode]
    change (c.val + 32).toNat = c.toNat + 32
    rw [UInt32.toNat_add]
    change (c.toNat + 32) % 2 ^ 32 = c.toNat + 32
    omega
  · case isFalse h => rw [if_neg (mt hupper.mpr h)]

/-- What is in lower case stays as it is. -/
theorem toLower_toLower (c : Char) : c.toLower.toLower = c.toLower := by
  rw [← Char.toNat_inj, toNat_toLower, toNat_toLower]
  by_cases h : 65 ≤ c.toNat ∧ c.toNat ≤ 90
  · rw [if_pos h, if_neg (by omega)]
  · rw [if_neg h, if_neg h]

/-- Lower case neither makes nor takes a digit. -/
theorem isDigit_toLower (c : Char) : Decimal.isDigit c.toLower = Decimal.isDigit c := by
  rw [Bool.eq_iff_iff, Decimal.isDigit_iff, Decimal.isDigit_iff, toNat_toLower]
  split <;> omega

/-- Nor a point. -/
theorem toLower_eq_point_iff (c : Char) : c.toLower = '.' ↔ c = '.' := by
  have hpoint : '.'.toNat = 46 := rfl
  rw [← Char.toNat_inj, ← Char.toNat_inj, toNat_toLower, hpoint]
  split <;> omega

/-- Letters and digits by their codes. -/
theorem isAlphanum_iff (c : Char) : c.isAlphanum = true ↔
    (65 ≤ c.toNat ∧ c.toNat ≤ 90 ∨ 97 ≤ c.toNat ∧ c.toNat ≤ 122) ∨
      48 ≤ c.toNat ∧ c.toNat ≤ 57 := by
  simp only [Char.isAlphanum, Char.isAlpha, Char.isUpper, Char.isLower, Char.isDigit, Bool.or_eq_true,
    Bool.and_eq_true, decide_eq_true_eq, ge_iff_le, UInt32.le_iff_toNat_le]
  exact Iff.rfl

/-- What stands for itself in a host does so in lower case. -/
theorem inHost_toLower {c : Char} (h : Percent.inHost c = true) : Percent.inHost c.toLower = true := by
  by_cases hupper : 65 ≤ c.toNat ∧ c.toNat ≤ 90
  · have hcode : c.toLower.toNat = c.toNat + 32 := by rw [toNat_toLower, if_pos hupper]
    rw [Percent.inHost, decide_eq_true_eq]
    exact .inl ((isAlphanum_iff _).mpr (by omega))
  · have hsame : c.toLower = c := by rw [← Char.toNat_inj, toNat_toLower, if_neg hupper]
    rwa [hsame]

/-- Lower-casing stays within a host. -/
theorem inHost_map_toLower {host : List Char} (h : ∀ c ∈ host, Percent.inHost c = true) :
    ∀ c ∈ host.map Char.toLower, Percent.inHost c = true := by
  intro c hc
  obtain ⟨d, hd, rfl⟩ := List.mem_map.mp hc
  exact inHost_toLower (h d hd)

/-- Whether a host looks like four numbers does not depend on the case. -/
theorem looksNumeric_toLower (host : List Char) :
    Address.looksNumeric (host.map Char.toLower) = Address.looksNumeric host := by
  have hparts : pieces '.' (host.map Char.toLower) = (pieces '.' host).map (List.map Char.toLower) :=
    pieces_map fun c _ => toLower_eq_point_iff c
  simp only [Address.looksNumeric, hparts, List.length_map, List.all_map, Function.comp_def,
    List.isEmpty_map, isDigit_toLower]

/-- What stands for itself in a host is visible. -/
theorem isVisible_of_inHost {c : Char} (h : Percent.inHost c = true) :
    Percent.isVisible c = true := by
  rw [Percent.inHost, decide_eq_true_eq] at h
  rcases h with h | h
  · rw [isAlphanum_iff] at h
    rw [Percent.isVisible, decide_eq_true_eq]
    omega
  · have hall : ∀ c ∈ ['-', '.', '_', '~', '!', '$', '&', '\'', '(', ')', '*', '+', ',', ';', '=', '"', '`',
        '{', '}', '%', '|', '\\'], Percent.isVisible c = true := List.all_eq_true.mp (by decide)
    exact hall c (List.contains_iff_mem.mp h)

/-- A hexadecimal digit stands for itself in a host. -/
theorem inHost_of_isHex {c : Char} (h : Percent.isHex c = true) : Percent.inHost c = true := by
  have hcode := (Percent.isHex_iff c).mp h
  rw [Percent.inHost, decide_eq_true_eq]
  exact .inl ((isAlphanum_iff c).mpr (by omega))

/-- So does a digit. -/
theorem inHost_of_isDigit {c : Char} (h : Decimal.isDigit c = true) : Percent.inHost c = true :=
  inHost_of_isHex ((Percent.isHex_iff c).mpr (.inl (Decimal.isDigit_iff.mp h)))

/-- What looks like four numbers begins with a digit. -/
theorem isDigit_of_looksNumeric {c : Char} {rest : List Char}
    (h : Address.looksNumeric (c :: rest) = true) : Decimal.isDigit c = true := by
  simp only [Address.looksNumeric, Bool.and_eq_true, List.all_eq_true, Bool.not_eq_true',
    List.isEmpty_eq_false_iff] at h
  by_cases hc : c = '.'
  · subst hc
    exact absurd rfl (h.2 [] (by simp)).1
  · obtain ⟨part, parts, hparts⟩ := List.exists_cons_of_ne_nil (pieces_ne_nil '.' rest)
    rw [pieces_cons_of_ne hc, hparts, List.modifyHead_cons] at h
    exact (h.2 (c :: part) List.mem_cons_self).2 c List.mem_cons_self

/-- Four numbers look like four numbers. -/
theorem looksNumeric_of_isVersion4 {host : List Char} (h : Address.isVersion4 host = true) :
    Address.looksNumeric host = true := by
  simp only [Address.isVersion4, Address.isOctet, Address.looksNumeric, Bool.and_eq_true,
    List.all_eq_true] at h ⊢
  refine ⟨h.1, fun part hpart => ?_⟩
  obtain ⟨⟨⟨⟨hne, hdigits⟩, -⟩, -⟩, -⟩ := h.2 part hpart
  exact ⟨hne, hdigits⟩

/-- An address of the newer kind has a colon. -/
theorem mem_of_isVersion6 {address : List Char}
    (hchars : ∀ c ∈ address, Percent.isHex c = true ∨ c = ':' ∨ c = '.')
    (h : Address.isVersion6 address = true) : ':' ∈ address := by
  have hzone : '%' ∉ address := by
    intro hmem
    rcases hchars '%' hmem with h | h | h <;> exact absurd h (by decide)
  rw [Address.isVersion6, cutFirst_of_not_mem hzone] at h
  simp only [Address.hasGroups, Bool.and_eq_true, decide_eq_true_eq] at h
  by_contra hmem
  have hparts := h.1
  rw [pieces_eq_splitOn, List.splitOn_eq_singleton hmem, List.length_singleton] at hparts
  omega

/-- A host as it is written in an address, and as it is sent. -/
inductive IsHost : List Char → List Char → Prop
  /-- A name is sent in lower case. -/
  | name {host : List Char} :
    host ≠ [] → (∀ c ∈ host, Percent.inHost c = true) → Address.looksNumeric host = false →
    IsHost host (host.map Char.toLower)
  /-- Four numbers are sent as they are. -/
  | numbers {host : List Char} :
    (∀ c ∈ host, Decimal.isDigit c = true ∨ c = '.') → Address.isVersion4 host = true →
    IsHost host host
  /-- An address of the newer kind is kept without its brackets. -/
  | groups {address : List Char} :
    (∀ c ∈ address, Percent.isHex c = true ∨ c = ':' ∨ c = '.') → Address.isVersion6 address = true →
    IsHost ('[' :: (address ++ [']'])) address

/-- A host as it stands in a URL. -/
def bracketed (host : List Char) : List Char :=
  if host.contains ':' then '[' :: (host ++ [']']) else host

/-- A host without colons needs no brackets. -/
theorem bracketed_of_not_mem {host : List Char} (h : ':' ∉ host) : bracketed host = host := by
  rw [bracketed, if_neg (by simpa using h)]

/-- An address of the newer kind needs them. -/
theorem bracketed_of_mem {host : List Char} (h : ':' ∈ host) :
    bracketed host = '[' :: (host ++ [']']) :=
  if_pos (List.contains_iff_mem.mpr h)

namespace IsHost

variable {host sent : List Char}

/-- What a host is written with. -/
theorem inHost_of_mem (h : IsHost host sent) {c : Char} (hc : c ∈ host) :
    Percent.inHost c = true ∨ c ∈ ['[', ']', ':'] := by
  cases h with
  | name _ hchars _ => exact .inl (hchars c hc)
  | numbers hchars _ =>
    rcases hchars c hc with hdigit | rfl
    · exact .inl (inHost_of_isDigit hdigit)
    · exact .inl (by decide)
  | groups hchars _ =>
    rcases List.mem_cons.mp hc with rfl | hc
    · exact .inr (by decide)
    rcases List.mem_append.mp hc with hc | hc
    · rcases hchars c hc with hhex | rfl | rfl
      · exact .inl (inHost_of_isHex hhex)
      · exact .inr (by decide)
      · exact .inl (by decide)
    · rw [List.mem_singleton.mp hc]
      exact .inr (by decide)

/-- Something is written. -/
theorem ne_nil (h : IsHost host sent) : host ≠ [] := by
  cases h with
  | name hne _ _ => exact hne
  | numbers _ hversion =>
    rintro rfl
    exact absurd hversion (by decide)
  | groups _ _ => exact List.cons_ne_nil _ _

/-- Something is sent. -/
theorem sent_ne_nil (h : IsHost host sent) : sent ≠ [] := by
  have hhost := h.ne_nil
  cases h with
  | name hne _ _ => simpa using hne
  | numbers _ _ => exact hhost
  | groups hchars hversion => exact List.ne_nil_of_mem (mem_of_isVersion6 hchars hversion)

/-- A host is sent as it is meant to be. -/
theorem normalHost_eq (h : IsHost host sent) : normalHost host = .ok sent := by
  have hne : ¬ host.isEmpty = true := by simpa using h.ne_nil
  cases h with
  | name _ hchars hnumeric =>
    have hopen : ¬ (host.head? = some '[' ∧ host.getLast? = some ']') := by
      rintro ⟨hhead, -⟩
      exact absurd (hchars '[' (List.mem_of_mem_head? hhead)) (by decide)
    rw [normalHost, if_neg hne, hnumeric, if_neg Bool.false_ne_true, if_neg hopen,
      Percent.encode_eq_self (inHost_map_toLower hchars)]
  | numbers hchars hversion =>
    rw [normalHost, if_neg hne, if_pos (looksNumeric_of_isVersion4 hversion), if_pos hversion]
  | groups hchars hversion =>
    have hnumeric : ¬ Address.looksNumeric ('[' :: (sent ++ [']'])) = true :=
      fun h => absurd (isDigit_of_looksNumeric h) (by decide)
    have hclosed : ('[' :: (sent ++ [']'])).head? = some '[' ∧
        ('[' :: (sent ++ [']'])).getLast? = some ']' :=
      ⟨rfl, by rw [← List.cons_append, List.getLast?_concat]⟩
    have hinside : (('[' :: (sent ++ [']'])).drop 1).dropLast = sent := by simp
    rw [normalHost, if_neg hne, if_neg hnumeric, if_pos hclosed]
    simp only [hinside, hversion, if_true]

/-- A host that was made ready for sending is a host, and is sent as it is. -/
theorem again (h : IsHost host sent) :
    IsHost (bracketed sent) sent ∧ (bracketed sent).length = host.length := by
  cases h with
  | name hne hchars hnumeric =>
    have hlower := inHost_map_toLower hchars
    have hcolon : ':' ∉ host.map Char.toLower := fun h => absurd (hlower ':' h) (by decide)
    have hagain := name (by simpa using hne) hlower ((looksNumeric_toLower host).trans hnumeric)
    simp only [List.map_map, Function.comp_def, toLower_toLower] at hagain
    rw [bracketed_of_not_mem hcolon]
    exact ⟨hagain, List.length_map _⟩
  | numbers hchars hversion =>
    have hcolon : ':' ∉ host := fun h => by
      rcases hchars ':' h with h | h <;> exact absurd h (by decide)
    rw [bracketed_of_not_mem hcolon]
    exact ⟨.numbers hchars hversion, rfl⟩
  | groups hchars hversion =>
    rw [bracketed_of_mem (mem_of_isVersion6 hchars hversion)]
    exact ⟨.groups hchars hversion, rfl⟩

end IsHost

/-! ## Authorities -/

/-- A host with the digits of a port after a colon, if there are any. -/
def withPort (host digits : List Char) : List Char :=
  host ++ if digits = [] then [] else ':' :: digits

/-- A port is written with a colon in front. -/
theorem length_withPort (host digits : List Char) :
    (withPort host digits).length = host.length + if digits = [] then 0 else digits.length + 1 := by
  rw [withPort, List.length_append]
  split <;> rfl

/-- What is written after a host. -/
theorem mem_port {digits : List Char} (h : IsPort digits) {c : Char}
    (hc : c ∈ if digits = [] then [] else ':' :: digits) : c = ':' ∨ Decimal.isDigit c = true := by
  split at hc
  · cases hc
  · exact (List.mem_cons.mp hc).imp_right (h.all_digits c)

/-- What an authority is written with. -/
theorem inHost_of_mem_withPort {host sent digits : List Char} (hhost : IsHost host sent)
    (hport : IsPort digits) {c : Char} (hc : c ∈ withPort host digits) :
    Percent.inHost c = true ∨ c ∈ ['[', ']', ':'] := by
  rcases List.mem_append.mp hc with hc | hc
  · exact hhost.inHost_of_mem hc
  · rcases mem_port hport hc with rfl | hdigit
    · exact .inr (by decide)
    · exact .inl (inHost_of_isDigit hdigit)

/-- An authority is visible. -/
theorem isVisible_withPort {host sent digits : List Char} (hhost : IsHost host sent)
    (hport : IsPort digits) {c : Char} (hc : c ∈ withPort host digits) :
    Percent.isVisible c = true := by
  have hbrackets : ∀ d ∈ ['[', ']', ':'], Percent.isVisible d = true :=
    List.all_eq_true.mp (by decide)
  exact (inHost_of_mem_withPort hhost hport hc).elim isVisible_of_inHost (hbrackets c)

/-- Host and port as they stand in a URL. -/
theorem netloc_eq {url : Url} {scheme digits : List Char} (hport : url.port = portIn scheme digits) :
    url.netloc = withPort (bracketed url.host) (portDigits (portIn scheme digits)) := by
  rw [netloc, withPort, bracketed, hport]
  rcases portIn_cases scheme digits with hnone | ⟨-, hsome⟩
  · rw [hnone]
    rfl
  · rw [hsome]
    exact congrArg _ (if_neg (Decimal.ofNat_ne_nil _)).symm

/-- A host without brackets is told from its port. -/
theorem cutHost_plain {host digits : List Char} (hne : host ≠ []) (huser : '@' ∉ host)
    (hcolon : ':' ∉ host) (hopen : host.head? ≠ some '[') (hport : IsPort digits) :
    cutHost (withPort host digits) = ([], host, digits) := by
  have hnobody : '@' ∉ withPort host digits := by
    intro hmem
    rcases List.mem_append.mp hmem with hmem | hmem
    · exact huser hmem
    · rcases mem_port hport hmem with h | h <;> exact absurd h (by decide)
  obtain ⟨c, rest, rfl⟩ := List.exists_cons_of_ne_nil hne
  have hc : c ≠ '[' := fun h => hopen (h ▸ rfl)
  have hhead : (withPort (c :: rest) digits).head? = some c := rfl
  have hall : ∀ d ∈ c :: rest, decide (d ≠ ':') = true := by
    intro d hd
    refine decide_eq_true ?_
    rintro rfl
    exact hcolon hd
  have htake : (withPort (c :: rest) digits).takeWhile (· ≠ ':') = c :: rest := by
    rw [withPort, List.takeWhile_append_of_pos hall]
    split <;> simp
  have hdrop : (withPort (c :: rest) digits).dropWhile (· ≠ ':') =
      if digits = [] then [] else ':' :: digits := by
    rw [withPort, List.dropWhile_append_of_pos hall]
    split <;> simp
  simp only [cutHost, cutLast?_of_not_mem hnobody, Option.getD_none, hhead, hc, htake, hdrop,
    Option.some.injEq, false_implies, implies_true]
  by_cases hdigits : digits = []
  · simp [hdigits]
  · simp [hdigits]

/-- A host in brackets is told from its port. -/
theorem cutHost_brackets {address digits : List Char} (huser : '@' ∉ address) (hport : IsPort digits) :
    cutHost (withPort ('[' :: (address ++ [']'])) digits) =
      ([], '[' :: (address ++ [']']), digits) := by
  obtain ⟨port, hport_eq⟩ : ∃ port, port = if digits = [] then [] else ':' :: digits := ⟨_, rfl⟩
  have hwhole : withPort ('[' :: (address ++ [']'])) digits = ('[' :: address) ++ ']' :: port := by
    rw [withPort, ← hport_eq]
    simp
  have hmem : ∀ c ∈ port, c = ':' ∨ Decimal.isDigit c = true := by
    intro c hc
    rw [hport_eq] at hc
    exact mem_port hport hc
  have hnot : ∀ c, c ≠ ':' → Decimal.isDigit c = false → c ∉ port := by
    intro c hcolon hdigit hc
    rcases hmem c hc with h | h
    · exact hcolon h
    · rw [hdigit] at h
      cases h
  have hnobody : '@' ∉ ('[' :: address) ++ ']' :: port := by
    have hafter := hnot '@' (by decide) (by decide)
    simp [huser, hafter]
  have hclosed := cutLast?_append_cons (hnot ']' (by decide) (by decide)) ('[' :: address)
  have hhead : (('[' :: address) ++ ']' :: port).head? = some '[' := rfl
  simp only [cutHost, hwhole, cutLast?_of_not_mem hnobody, Option.getD_none, hhead, hclosed,
    Option.getD_some]
  rw [hport_eq]
  by_cases hdigits : digits = []
  · simp [hdigits]
  · simp [hdigits]

/-- A host is told from its port. -/
theorem IsHost.cutHost_eq {host sent digits : List Char} (h : IsHost host sent)
    (hport : IsPort digits) : cutHost (withPort host digits) = ([], host, digits) := by
  cases h with
  | name hne hchars _ =>
    exact cutHost_plain hne (fun h => absurd (hchars '@' h) (by decide))
      (fun h => absurd (hchars ':' h) (by decide))
      (fun h => absurd (hchars '[' (List.mem_of_mem_head? h)) (by decide)) hport
  | numbers hchars hversion =>
    have hnot : ∀ c, Decimal.isDigit c = false → c ≠ '.' → c ∉ host := by
      intro c hdigit hpoint hc
      rcases hchars c hc with h | h
      · rw [hdigit] at h
        cases h
      · exact hpoint h
    exact cutHost_plain (IsHost.ne_nil (.numbers hchars hversion))
      (hnot '@' (by decide) (by decide)) (hnot ':' (by decide) (by decide))
      (fun h => hnot '[' (by decide) (by decide) (List.mem_of_mem_head? h)) hport
  | groups hchars _ =>
    refine cutHost_brackets (fun h => ?_) hport
    rcases hchars '@' h with h | h | h <;> exact absurd h (by decide)

end Url

end IamLogin
