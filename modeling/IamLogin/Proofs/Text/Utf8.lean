import IamLogin.Text.Utf8

/-!
# Reading what was written in UTF-8

The bytes of a character bring the reader from between two characters to between two characters, with
that character read. The first byte says how many more there are, each of the others brings six bits,
and the range that the first leaves to the second is met because the shortest form is written. So the
bytes of a text are read as the text.
-/

namespace IamLogin

/-- The code point of a character is read as the character. -/
@[simp] theorem Symbol.ofCode?_toNat (c : Char) : Symbol.ofCode? c.toNat = some (.char c) := by
  have hvalid : c.toNat.isValidChar := c.valid
  rw [Symbol.ofCode?, dif_pos hvalid]
  rfl

namespace Utf8

/-- No characters have no bytes. -/
@[simp] theorem encode_nil : encode [] = [] := rfl

/-- The bytes of a character come before those of the rest. -/
@[simp] theorem encode_cons (c : Char) (cs : List Char) :
    encode (c :: cs) = String.utf8EncodeChar c ++ encode cs := rfl

/-- The bytes of two texts follow each other. -/
@[simp] theorem encode_append (cs ds : List Char) : encode (cs ++ ds) = encode cs ++ encode ds :=
  List.flatMap_append

/-- An ASCII character is one byte. -/
theorem utf8EncodeChar_of_lt {c : Char} (h : c.toNat < 0x80) :
    String.utf8EncodeChar c = [.ofNat c.toNat] := by
  have hle : c.val.toNat ≤ 0x7f := Nat.le_of_lt_succ h
  simp only [String.utf8EncodeChar, if_pos hle]
  rfl

/-- A character is one byte at least. -/
theorem utf8EncodeChar_length_pos (c : Char) : 0 < (String.utf8EncodeChar c).length := by
  rw [String.length_utf8EncodeChar]
  exact c.utf8Size_pos

/-- No byte of a character is zero but for the one of the zero character. -/
theorem zero_not_mem_utf8EncodeChar {c : Char} (h : 0 < c.toNat) :
    0 ∉ String.utf8EncodeChar c := by
  have hbyte : ∀ n, n < 256 → 0 < n → (0 : UInt8) ≠ .ofNat n := by
    intro n hn hpos heq
    have hvalue := congrArg UInt8.toNat heq
    rw [UInt8.toNat_ofNat_of_lt' hn] at hvalue
    exact absurd hvalue (Nat.ne_of_lt hpos)
  have hvalue : c.val.toNat = c.toNat := rfl
  simp only [String.utf8EncodeChar, hvalue]
  intro hmem
  split at hmem
  · rw [List.mem_singleton] at hmem
    exact hbyte _ (by omega) h hmem
  · have hlow : ∀ n, (0 : UInt8) ≠ .ofNat (n % 0x40 + 0x80) :=
      fun n => hbyte _ (by omega) (by omega)
    split at hmem
    · simp only [List.mem_cons, List.not_mem_nil, or_false, hlow, or_false] at hmem
      exact hbyte _ (by omega) (by omega) hmem
    · split at hmem
      · simp only [List.mem_cons, List.not_mem_nil, or_false, hlow, or_false] at hmem
        exact hbyte _ (by omega) (by omega) hmem
      · simp only [List.mem_cons, List.not_mem_nil, or_false, hlow, or_false] at hmem
        exact hbyte _ (by omega) (by omega) hmem

/-! ## Bytes of a character -/

/-- A first byte of two. -/
theorem start?_two {b : Nat} (hlow : 0xC2 ≤ b) (hhigh : b ≤ 0xDF) :
    start? true b = some { missing := 1, bits := b - 0xC0 } := by
  rw [start?, if_neg (by omega), if_neg (by omega), if_pos hhigh]

/-- A first byte of three. -/
theorem start?_three {b : Nat} (hlow : 0xE0 ≤ b) (hhigh : b ≤ 0xEF) :
    start? true b =
      some { missing := 2, bits := b - 0xE0, low := if b = 0xE0 then 0xA0 else 0x80 } := by
  rw [start?, if_neg (by omega), if_neg (by omega), if_neg (by omega)]
  by_cases hfirst : b = 0xE0
  · subst hfirst
    rfl
  · rw [if_neg hfirst, if_neg (by simp), if_pos hhigh, if_neg hfirst]

/-- A first byte of four. -/
theorem start?_four {b : Nat} (hlow : 0xF0 ≤ b) (hhigh : b ≤ 0xF4) :
    start? true b =
      some { missing := 3, bits := b - 0xF0, low := if b = 0xF0 then 0x90 else 0x80,
             high := if b = 0xF4 then 0x8F else 0xBF } := by
  rw [start?, if_neg (by omega), if_neg (by omega), if_neg (by omega), if_neg (by omega),
    if_neg (by simp), if_neg (by omega)]
  by_cases hfirst : b = 0xF0
  · subst hfirst
    rfl
  · by_cases hlast : b = 0xF4
    · subst hlast
      rfl
    · rw [if_neg hfirst, if_pos (by omega), if_neg hfirst, if_neg hlast]

variable {done : Text} {p : Pending} {b : UInt8}

/-- A first byte that others follow. -/
theorem decodeFrom_start (hstart : start? true b.toNat = some p) (hmissing : p.missing ≠ 0)
    (bytes : List UInt8) :
    decodeFrom done none (b :: bytes) = decodeFrom done (some p) bytes := by
  rw [decodeFrom, hstart]
  simp only [Option.bind_eq_bind, Option.bind_some, settle, if_neg hmissing]

/-- A further byte that is not the last. -/
theorem decodeFrom_next (hlow : p.low ≤ b.toNat) (hhigh : b.toNat ≤ p.high)
    (hmissing : 1 < p.missing) (bytes : List UInt8) :
    decodeFrom done (some p) (b :: bytes) =
      decodeFrom done
        (some { missing := p.missing - 1, bits := p.bits * 64 + (b.toNat - 0x80) }) bytes := by
  have hmore : p.missing - 1 ≠ 0 := by omega
  rw [decodeFrom, Pending.next?, if_pos ⟨hlow, hhigh⟩]
  simp only [Option.bind_eq_bind, Option.bind_some, settle, if_neg hmore]

/-- The last byte of a character. -/
theorem decodeFrom_last {c : Char} (hlow : p.low ≤ b.toNat) (hhigh : b.toNat ≤ p.high)
    (hmissing : p.missing = 1) (hbits : p.bits * 64 + (b.toNat - 0x80) = c.toNat)
    (bytes : List UInt8) :
    decodeFrom done (some p) (b :: bytes) = decodeFrom (.char c :: done) none bytes := by
  have hnone : p.missing - 1 = 0 := by omega
  rw [decodeFrom, Pending.next?, if_pos ⟨hlow, hhigh⟩]
  simp only [Option.bind_eq_bind, Option.bind_some, settle, if_pos hnone, hbits,
    Symbol.ofCode?_toNat, Option.getD_some]

/-! ## Characters and texts -/

variable {a b₂ b₃ b₄ : UInt8} {c : Char}

/-- A character of two bytes. -/
theorem decodeFrom_two (ha : 0xC2 ≤ a.toNat ∧ a.toNat ≤ 0xDF)
    (hb₂ : 0x80 ≤ b₂.toNat ∧ b₂.toNat ≤ 0xBF)
    (hc : (a.toNat - 0xC0) * 64 + (b₂.toNat - 0x80) = c.toNat) (bytes : List UInt8) :
    decodeFrom done none (a :: b₂ :: bytes) = decodeFrom (.char c :: done) none bytes := by
  rw [decodeFrom_start (start?_two ha.1 ha.2) (by simp)]
  refine decodeFrom_last hb₂.1 hb₂.2 rfl ?_ bytes
  dsimp only
  exact hc

/-- A character of three bytes. -/
theorem decodeFrom_three (ha : 0xE0 ≤ a.toNat ∧ a.toNat ≤ 0xEF)
    (hb₂ : 0x80 ≤ b₂.toNat ∧ b₂.toNat ≤ 0xBF) (hshort : a.toNat = 0xE0 → 0xA0 ≤ b₂.toNat)
    (hb₃ : 0x80 ≤ b₃.toNat ∧ b₃.toNat ≤ 0xBF)
    (hc : ((a.toNat - 0xE0) * 64 + (b₂.toNat - 0x80)) * 64 + (b₃.toNat - 0x80) = c.toNat)
    (bytes : List UInt8) :
    decodeFrom done none (a :: b₂ :: b₃ :: bytes) = decodeFrom (.char c :: done) none bytes := by
  have hlow : (if a.toNat = 0xE0 then 0xA0 else 0x80) ≤ b₂.toNat := by
    split
    · case isTrue h => exact hshort h
    · exact hb₂.1
  rw [decodeFrom_start (start?_three ha.1 ha.2) (by simp), decodeFrom_next hlow hb₂.2 (by simp)]
  refine decodeFrom_last hb₃.1 hb₃.2 rfl ?_ bytes
  dsimp only
  exact hc

/-- A character of four bytes. -/
theorem decodeFrom_four (ha : 0xF0 ≤ a.toNat ∧ a.toNat ≤ 0xF4)
    (hb₂ : 0x80 ≤ b₂.toNat ∧ b₂.toNat ≤ 0xBF) (hshort : a.toNat = 0xF0 → 0x90 ≤ b₂.toNat)
    (hvalid : a.toNat = 0xF4 → b₂.toNat ≤ 0x8F) (hb₃ : 0x80 ≤ b₃.toNat ∧ b₃.toNat ≤ 0xBF)
    (hb₄ : 0x80 ≤ b₄.toNat ∧ b₄.toNat ≤ 0xBF)
    (hc : (((a.toNat - 0xF0) * 64 + (b₂.toNat - 0x80)) * 64 + (b₃.toNat - 0x80)) * 64 +
      (b₄.toNat - 0x80) = c.toNat) (bytes : List UInt8) :
    decodeFrom done none (a :: b₂ :: b₃ :: b₄ :: bytes) =
      decodeFrom (.char c :: done) none bytes := by
  have hlow : (if a.toNat = 0xF0 then 0x90 else 0x80) ≤ b₂.toNat := by
    split
    · case isTrue h => exact hshort h
    · exact hb₂.1
  have hhigh : b₂.toNat ≤ (if a.toNat = 0xF4 then 0x8F else 0xBF) := by
    split
    · case isTrue h => exact hvalid h
    · exact hb₂.2
  rw [decodeFrom_start (start?_four ha.1 ha.2) (by simp), decodeFrom_next hlow hhigh (by simp),
    decodeFrom_next hb₃.1 hb₃.2 (by simp)]
  refine decodeFrom_last hb₄.1 hb₄.2 rfl ?_ bytes
  dsimp only
  exact hc

/-- The bytes of a character are read as the character. -/
theorem decodeFrom_utf8EncodeChar (done : Text) (c : Char) (bytes : List UInt8) :
    decodeFrom done none (String.utf8EncodeChar c ++ bytes) =
      decodeFrom (.char c :: done) none bytes := by
  have hbyte : ∀ n, n < 256 → (UInt8.ofNat n).toNat = n := fun n hn => UInt8.toNat_ofNat_of_lt' hn
  have hvalue : c.val.toNat = c.toNat := rfl
  have hvalid : c.toNat < 0x110000 := by
    have := c.valid
    rw [UInt32.isValidChar, Nat.isValidChar] at this
    omega
  simp only [String.utf8EncodeChar, hvalue]
  split
  · case isTrue hone =>
    have hb := hbyte c.toNat (by omega)
    have hstart : start? true c.toNat = some { missing := 0, bits := c.toNat } := by
      rw [start?, if_pos (by omega)]
    rw [List.singleton_append, decodeFrom, hb, hstart]
    simp [settle]
  · split
    · case isTrue hone htwo =>
      have ha := hbyte (c.toNat / 64 % 0x20 + 0xC0) (by omega)
      have hb₂ := hbyte (c.toNat % 0x40 + 0x80) (by omega)
      rw [List.cons_append, List.singleton_append]
      apply decodeFrom_two <;> omega
    · split
      · case isTrue hone htwo hthree =>
        have ha := hbyte (c.toNat / 4096 % 0x10 + 0xE0) (by omega)
        have hb₂ := hbyte (c.toNat / 64 % 0x40 + 0x80) (by omega)
        have hb₃ := hbyte (c.toNat % 0x40 + 0x80) (by omega)
        rw [List.cons_append, List.cons_append, List.singleton_append]
        apply decodeFrom_three <;> omega
      · case isFalse hone htwo hthree =>
        have ha := hbyte (c.toNat / 262144 % 0x08 + 0xF0) (by omega)
        have hb₂ := hbyte (c.toNat / 4096 % 0x40 + 0x80) (by omega)
        have hb₃ := hbyte (c.toNat / 64 % 0x40 + 0x80) (by omega)
        have hb₄ := hbyte (c.toNat % 0x40 + 0x80) (by omega)
        rw [List.cons_append, List.cons_append, List.cons_append, List.singleton_append]
        apply decodeFrom_four <;> omega

/-- The bytes of a text are read as the text. -/
theorem decode?_encode (cs : List Char) : decode? (encode cs) = some (Text.ofChars cs) := by
  suffices h : ∀ done, decodeFrom done none (encode cs) = some (done.reverse ++ Text.ofChars cs) from
    h []
  induction cs with
  | nil =>
    intro done
    simp [encode, decodeFrom, Text.ofChars]
  | cons c rest ih =>
    intro done
    rw [encode_cons, decodeFrom_utf8EncodeChar, ih]
    simp [Text.ofChars]

/-- Different texts have different bytes. -/
theorem encode_injective {cs ds : List Char} (h : encode cs = encode ds) : cs = ds := by
  have hread := congrArg decode? h
  rw [decode?_encode, decode?_encode, Option.some.injEq] at hread
  simpa using congrArg Text.toChars? hread

end Utf8

end IamLogin
