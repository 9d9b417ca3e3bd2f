import IamLogin.Proofs.Text.Utf8
import IamLogin.Url.Percent

/-!
# What percent-encoding keeps

A percent sign stands for itself in every part of a URL, so encoding never changes what a text
stands for: the escapes that it adds are read back, and those that stood in the text before are read
as escapes with it or without it. What a text stands for is the text itself exactly when it has no
escapes, and otherwise something shorter.
-/

namespace IamLogin

namespace Percent

/-- Whether a character is a hexadecimal digit. -/
def isHex (c : Char) : Bool := (Hex.value? c).isSome

/-- Whether a text begins with two hexadecimal digits. -/
def beginsHex : List Char → Bool
  | [] => false
  | a :: rest => isHex a && rest.head?.any isHex

/-- Whether an escape stands somewhere in a text. -/
def hasEscape : List Char → Bool
  | [] => false
  | c :: rest => (c = '%' && beginsHex rest) || hasEscape rest

/-- There is no escape without a percent sign. -/
theorem hasEscape_of_not_mem {cs : List Char} (h : '%' ∉ cs) : hasEscape cs = false := by
  induction cs with
  | nil => rfl
  | cons c rest ih =>
    rw [List.mem_cons, not_or] at h
    rw [hasEscape, ih h.2, Bool.or_false, decide_eq_false (Ne.symm h.1), Bool.false_and]

/-- A hexadecimal digit is an ASCII letter or digit. -/
theorem isHex_iff (c : Char) :
    isHex c = true ↔ (0x30 ≤ c.toNat ∧ c.toNat ≤ 0x39) ∨ (0x61 ≤ c.toNat ∧ c.toNat ≤ 0x66) ∨
      (0x41 ≤ c.toNat ∧ c.toNat ≤ 0x46) := by
  have hdigit : ('0' ≤ c ∧ c ≤ '9') ↔ (0x30 ≤ c.toNat ∧ c.toNat ≤ 0x39) := Iff.rfl
  have hlower : ('a' ≤ c ∧ c ≤ 'f') ↔ (0x61 ≤ c.toNat ∧ c.toNat ≤ 0x66) := Iff.rfl
  have hupper : ('A' ≤ c ∧ c ≤ 'F') ↔ (0x41 ≤ c.toNat ∧ c.toNat ≤ 0x46) := Iff.rfl
  simp only [isHex, Hex.value?, hdigit, hlower, hupper]
  split
  · case isTrue h => simp [h]
  · split
    · case isTrue h => simp [h]
    · split <;> simp <;> omega

/-- A percent sign is no hexadecimal digit. -/
theorem isHex_ne_percent {c : Char} (h : isHex c = true) : c ≠ '%' := by
  rintro rfl
  exact absurd h (by decide)

/-- Where a text begins with two hexadecimal digits, they have values. -/
theorem exists_of_beginsHex {cs : List Char} (h : beginsHex cs = true) :
    ∃ a b rest, cs = a :: b :: rest ∧ isHex a = true ∧ isHex b = true := by
  cases cs with
  | nil => cases h
  | cons a rest =>
    cases rest with
    | nil => simp [beginsHex] at h
    | cons b rest => exact ⟨a, b, rest, rfl, by simpa [beginsHex] using h⟩

/-! ## Reading -/

/-- What was read before stands in front of what is read. -/
theorem decodeOnto_eq (done : List UInt8) (cs : List Char) :
    decodeOnto done cs = done.reverse ++ decode cs := by
  suffices h : ∀ before, decodeOnto before cs = before.reverse ++ decodeOnto [] cs from h done
  -- the bytes so far change with every step, so they are left open in the induction
  induction done, cs using decodeOnto.induct with
  | case1 done =>
    intro before
    simp [decodeOnto]
  | case2 done a b rest x y hy hx ih =>
    intro before
    simp only [decodeOnto, hx, hy]
    rw [ih, ih [_]]
    simp
  | case3 done a b rest hab ih =>
    intro before
    simp only [decodeOnto]
    rw [ih, ih [_]]
    simp
  | case4 done c rest hc ih =>
    intro before
    simp only [decodeOnto]
    rw [ih, ih (_ ++ [])]
    simp

/-- Nothing decodes to nothing. -/
@[simp] theorem decode_nil : decode [] = [] := rfl

/-- An escape is read as its byte. -/
theorem decode_escape {a b : Char} {x y : Nat} (ha : Hex.value? a = some x)
    (hb : Hex.value? b = some y) (rest : List Char) :
    decode ('%' :: a :: b :: rest) = .ofNat (x * 16 + y) :: decode rest := by
  rw [decode, decodeOnto]
  simp only [ha, hb]
  rw [decodeOnto_eq]
  rfl

/-- An escape is one byte, whatever its digits. -/
theorem exists_decode_escape {a b : Char} (ha : isHex a = true) (hb : isHex b = true) :
    ∃ value, ∀ rest, decode ('%' :: a :: b :: rest) = value :: decode rest := by
  obtain ⟨x, hx⟩ := Option.isSome_iff_exists.mp ha
  obtain ⟨y, hy⟩ := Option.isSome_iff_exists.mp hb
  exact ⟨_, decode_escape hx hy⟩

/-- What begins no escape is read as the bytes of its first character. -/
theorem decode_cons {c : Char} {rest : List Char} (h : (c = '%' && beginsHex rest) = false) :
    decode (c :: rest) = String.utf8EncodeChar c ++ decode rest := by
  by_cases hc : c = '%'
  · subst hc
    match rest, h with
    | [], _ => rfl
    | [a], _ =>
      rw [decode, decodeOnto, decodeOnto_eq]
      · simp
      · simp
    | a :: b :: rest, h =>
      have hab : ¬ (isHex a = true ∧ isHex b = true) := by simpa [beginsHex] using h
      rw [decode, decodeOnto]
      split
      · case h_1 x y hx hy => exact absurd ⟨by simp [isHex, hx], by simp [isHex, hy]⟩ hab
      · rw [decodeOnto_eq]
        rfl
  · rw [decode, decodeOnto, decodeOnto_eq]
    · simp
    · intro a b rest' hc' _
      exact hc hc'

/-- A hexadecimal digit begins no escape. -/
theorem decode_hex_cons {c : Char} (h : isHex c = true) (rest : List Char) :
    decode (c :: rest) = String.utf8EncodeChar c ++ decode rest :=
  decode_cons (by simp [isHex_ne_percent h])

/-- The escape of a byte is read as the byte. -/
theorem decode_byte (b : UInt8) (rest : List Char) : decode (byte b ++ rest) = b :: decode rest := by
  have hb := b.toNat_lt
  rw [byte, List.cons_append, List.cons_append, List.cons_append, List.nil_append,
    decode_escape (Hex.value?_upper _) (Hex.value?_upper _)]
  have hdigits : b.toNat / 16 % 16 * 16 + b.toNat % 16 = b.toNat := by omega
  rw [hdigits, UInt8.ofNat_toNat]

/-- The escapes of bytes are read as the bytes. -/
theorem decode_flatMap_byte (bytes : List UInt8) (rest : List Char) :
    decode (bytes.flatMap byte ++ rest) = bytes ++ decode rest := by
  induction bytes with
  | nil => rfl
  | cons b bytes ih => rw [List.flatMap_cons, List.append_assoc, decode_byte, ih, List.cons_append]

/-! ## Writing -/

variable {plain : Char → Bool}

/-- Nothing is encoded as nothing. -/
@[simp] theorem encode_nil : encode plain [] = [] := rfl

/-- Two texts are encoded one after the other. -/
@[simp] theorem encode_append (cs ds : List Char) :
    encode plain (cs ++ ds) = encode plain cs ++ encode plain ds :=
  List.flatMap_append

/-- A character that stands for itself is kept. -/
theorem encode_cons_of_plain {c : Char} (h : plain c = true) (rest : List Char) :
    encode plain (c :: rest) = c :: encode plain rest := by
  simp [encode, h]

/-- Any other character is replaced by the escapes of its bytes. -/
theorem encode_cons_of_not_plain {c : Char} (h : plain c = false) (rest : List Char) :
    encode plain (c :: rest) =
      (String.utf8EncodeChar c).flatMap byte ++ encode plain rest := by
  simp [encode, h]

/-- Escaping makes no text shorter. -/
theorem length_le_encode (cs : List Char) : cs.length ≤ (encode plain cs).length := by
  induction cs with
  | nil => exact Nat.zero_le _
  | cons c rest ih =>
    cases hplain : plain c with
    | true =>
      rw [encode_cons_of_plain hplain, List.length_cons, List.length_cons]
      omega
    | false =>
      have hbytes := Utf8.utf8EncodeChar_length_pos c
      obtain ⟨b, more, hcons⟩ := List.exists_cons_of_length_pos hbytes
      rw [encode_cons_of_not_plain hplain, hcons, List.flatMap_cons, List.length_append,
        List.length_append, List.length_cons]
      have hbyte : (byte b).length = 3 := rfl
      omega

/-- Text that stands for itself throughout is kept. -/
theorem encode_eq_self {cs : List Char} (h : ∀ c ∈ cs, plain c = true) : encode plain cs = cs := by
  induction cs with
  | nil => rfl
  | cons c rest ih =>
    rw [encode_cons_of_plain (h c List.mem_cons_self),
      ih fun d hd => h d (List.mem_cons_of_mem c hd)]

/-- Escapes begin with a percent sign. -/
theorem exists_flatMap_byte (c : Char) :
    ∃ rest, (String.utf8EncodeChar c).flatMap byte = '%' :: rest := by
  cases hbytes : String.utf8EncodeChar c with
  | nil => exact absurd hbytes String.utf8EncodeChar_ne_nil
  | cons b bytes => exact ⟨_, rfl⟩

/-- Where digits stand for themselves, what is escaped is no digit. -/
theorem isHex_eq_false_of_not_plain (hhex : ∀ c, isHex c = true → plain c = true) {c : Char}
    (hc : plain c = false) : isHex c = false := by
  rw [← Bool.not_eq_true]
  intro h
  rw [hhex c h] at hc
  cases hc

/-- Encoding leaves a hexadecimal digit in front in its place, and puts none there. -/
theorem head?_any_isHex_encode (hhex : ∀ c, isHex c = true → plain c = true) (cs : List Char) :
    (encode plain cs).head?.any isHex = cs.head?.any isHex := by
  cases cs with
  | nil => rfl
  | cons c rest =>
    cases hc : plain c with
    | true => rw [encode_cons_of_plain hc, List.head?_cons, List.head?_cons]
    | false =>
      obtain ⟨tail, htail⟩ := exists_flatMap_byte c
      have hhex' := isHex_eq_false_of_not_plain hhex hc
      rw [encode_cons_of_not_plain hc, htail, List.cons_append, List.head?_cons, List.head?_cons,
        Option.any_some, Option.any_some, hhex']
      decide

/-- Encoding leaves two hexadecimal digits in front in their place, and puts none there. -/
theorem beginsHex_encode (hhex : ∀ c, isHex c = true → plain c = true) (cs : List Char) :
    beginsHex (encode plain cs) = beginsHex cs := by
  cases cs with
  | nil => rfl
  | cons c rest =>
    cases hc : plain c with
    | true => rw [encode_cons_of_plain hc, beginsHex, beginsHex, head?_any_isHex_encode hhex]
    | false =>
      obtain ⟨tail, htail⟩ := exists_flatMap_byte c
      have hhex' := isHex_eq_false_of_not_plain hhex hc
      rw [encode_cons_of_not_plain hc, htail, List.cons_append, beginsHex, beginsHex, hhex']
      rfl

/-- Encoding does not change what a text stands for. -/
theorem decode_encode (hpercent : plain '%' = true) (hhex : ∀ c, isHex c = true → plain c = true)
    (cs : List Char) : decode (encode plain cs) = decode cs := by
  induction cs with
  | nil => rfl
  | cons c rest ih =>
    cases hc : plain c with
    | false =>
      have hne : c ≠ '%' := by
        rintro rfl
        simp [hpercent] at hc
      rw [encode_cons_of_not_plain hc, decode_flatMap_byte, ih, decode_cons (by simp [hne])]
    | true =>
      rw [encode_cons_of_plain hc]
      by_cases hescape : c = '%' ∧ beginsHex rest = true
      · obtain ⟨rfl, hrest⟩ := hescape
        obtain ⟨a, b, tail, rfl, ha, hb⟩ := exists_of_beginsHex hrest
        -- the digits of the escape are kept, so the rest after them is read the same
        rw [encode_cons_of_plain (hhex a ha), encode_cons_of_plain (hhex b hb)] at ih ⊢
        rw [decode_hex_cons ha, decode_hex_cons hb, decode_hex_cons ha, decode_hex_cons hb] at ih
        have htail := List.append_cancel_left (List.append_cancel_left ih)
        obtain ⟨value, hvalue⟩ := exists_decode_escape ha hb
        rw [hvalue, hvalue, htail]
      · rw [decode_cons (by simpa [beginsHex_encode hhex] using hescape),
          decode_cons (by simpa using hescape), ih]

/-! ## Escapes -/

/-- A text without escapes stands for itself. -/
theorem decode_eq_encode {cs : List Char} (h : hasEscape cs = false) :
    decode cs = Utf8.encode cs := by
  induction cs with
  | nil => rfl
  | cons c rest ih =>
    simp only [hasEscape, Bool.or_eq_false_iff] at h
    rw [decode_cons h.1, ih h.2, Utf8.encode_cons]

/-- What a text stands for is no longer than the text, and shorter if the text has escapes. -/
theorem decode_length_le (cs : List Char) :
    (decode cs).length + (if hasEscape cs = true then 1 else 0) ≤ (Utf8.encode cs).length := by
  induction cs with
  | nil => exact Nat.le_refl _
  | cons c rest ih =>
    rw [Utf8.encode_cons, List.length_append]
    by_cases hescape : c = '%' ∧ beginsHex rest = true
    · obtain ⟨rfl, hrest⟩ := hescape
      obtain ⟨a, b, tail, rfl, ha, hb⟩ := exists_of_beginsHex hrest
      obtain ⟨value, hvalue⟩ := exists_decode_escape ha hb
      have hpos := Utf8.utf8EncodeChar_length_pos '%'
      have hpos_a := Utf8.utf8EncodeChar_length_pos a
      have hpos_b := Utf8.utf8EncodeChar_length_pos b
      rw [decode_hex_cons ha, decode_hex_cons hb, List.length_append, List.length_append] at ih
      rw [hvalue, List.length_cons]
      split <;> omega
    · have hcons : (c = '%' && beginsHex rest) = false := by simpa using hescape
      rw [decode_cons hcons, List.length_append]
      simp only [hasEscape, hcons, Bool.false_or]
      omega

/-! ## Parts -/

/-- What follows a text does not complete an escape in front of it unless it begins with a digit. -/
theorem beginsHex_append {ds : List Char} (hds : ds.head?.any isHex = false) (cs : List Char) :
    beginsHex (cs ++ ds) = beginsHex cs := by
  cases cs with
  | nil =>
    cases ds with
    | nil => rfl
    | cons d ds =>
      have hd : isHex d = false := hds
      rw [List.nil_append, beginsHex, beginsHex, hd, Bool.false_and]
  | cons a rest =>
    rw [List.cons_append, beginsHex, beginsHex]
    cases rest with
    | nil => rw [List.nil_append, hds, List.head?_nil, Option.any_none]
    | cons b rest => rfl

/-- The escapes of a text are those of its parts if no part begins with a digit. -/
theorem hasEscape_append {ds : List Char} (hds : ds.head?.any isHex = false) (cs : List Char) :
    hasEscape (cs ++ ds) = (hasEscape cs || hasEscape ds) := by
  induction cs with
  | nil => rfl
  | cons c rest ih =>
    rw [List.cons_append, hasEscape, hasEscape, ih, beginsHex_append hds, Bool.or_assoc]

/-- Parts of a text are read one by one if no part begins with a digit. -/
theorem decode_append {ds : List Char} (hds : ds.head?.any isHex = false) (cs : List Char) :
    decode (cs ++ ds) = decode cs ++ decode ds := by
  induction cs with
  | nil => rfl
  | cons c rest ih =>
    by_cases hescape : c = '%' ∧ beginsHex rest = true
    · obtain ⟨rfl, hrest⟩ := hescape
      obtain ⟨a, b, tail, rfl, ha, hb⟩ := exists_of_beginsHex hrest
      obtain ⟨value, hvalue⟩ := exists_decode_escape ha hb
      simp only [List.cons_append, decode_hex_cons ha, decode_hex_cons hb, List.append_assoc] at ih
      have htail := List.append_cancel_left (List.append_cancel_left ih)
      simp only [List.cons_append, hvalue, htail]
    · have hcons : (c = '%' && beginsHex rest) = false := by simpa using hescape
      have hcons' : (c = '%' && beginsHex (rest ++ ds)) = false := by
        rw [beginsHex_append hds]
        exact hcons
      rw [List.cons_append, decode_cons hcons', decode_cons hcons, ih, List.append_assoc]

end Percent

end IamLogin
