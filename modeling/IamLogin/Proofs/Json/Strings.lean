import IamLogin.Json.Reader
import IamLogin.Json.Writer
import IamLogin.Proofs.Text.Utf8
import Mathlib.Data.List.Chain

/-!
# Reading the strings that were written

What is written for a symbol brings the reader of strings from one plain place to the next, with that
symbol read. It does so in every style, whether a character stands for itself, has an escape of its own,
or is written by its code, which beyond the first plane takes the two halves of a surrogate pair. A lone
half is written by its code too. So a string is read as the text that was written, unless the text has
the two halves of a pair next to each other; they are read as the character that they make.
-/

namespace IamLogin

namespace Text

/-- Whether halves that make a character never stand next to each other. -/
def IsJoined (t : Text) : Prop :=
  t.IsChain fun s s' => (Json.Reader.isHigh s.code && Json.Reader.isLow s'.code) = false

end Text

/-- A character is no half of a pair. -/
theorem Symbol.isHigh_char (c : Char) : Json.Reader.isHigh (Symbol.char c).code = false := by
  have hvalid : c.toNat < 0xD800 ∨ 0xDFFF < c.toNat ∧ c.toNat < 0x110000 := c.valid
  rw [Symbol.code]
  exact decide_eq_false (by omega)

/-- Characters are joined. -/
theorem Text.isJoined_ofChars (cs : List Char) : (Text.ofChars cs).IsJoined := by
  induction cs with
  | nil => exact .nil
  | cons c cs ih =>
    refine List.isChain_cons.mpr ⟨fun s _ => ?_, ih⟩
    rw [Symbol.isHigh_char, Bool.false_and]

/-- A string has no halves to join. -/
theorem Text.isJoined_ofString (s : String) : (Text.ofString s).IsJoined := isJoined_ofChars s.toList

namespace Json

namespace Reader

/-! ## Escapes by code -/

/-- An escape of a 16-bit value by its code, in four hexadecimal digits of either case. -/
inductive CodeEscape : List Char → Nat → Prop
  | mk {a b c d : Char} {i j k l : Nat} :
    Hex.value? a = some i → Hex.value? b = some j → Hex.value? c = some k → Hex.value? d = some l →
    CodeEscape ['\\', 'u', a, b, c, d] (((i * 16 + j) * 16 + k) * 16 + l)

/-- A digit that is not the last of an escape. -/
theorem string_digit {missing : Nat} (h : 1 < missing) {c : Char} {digit : Nat}
    (hdigit : Hex.value? c = some digit) (joinable : Bool) (value : Nat) (done rest : Text) :
    string (.digits joinable missing value) done (.char c :: rest) =
      string (.digits joinable (missing - 1) (value * 16 + digit)) done rest := by
  have hmissing : ¬ missing ≤ 1 := by omega
  rw [string]
  simp only [Symbol.toChar?, Option.bind_some, hdigit, if_neg hmissing]

/-- The last digit of an escape. -/
theorem string_lastDigit {c : Char} {digit : Nat} (hdigit : Hex.value? c = some digit)
    (joinable : Bool) (value : Nat) (done rest : Text) :
    string (.digits joinable 1 value) done (.char c :: rest) =
      string (.plain (isHigh (value * 16 + digit))) (pushUnit joinable done (value * 16 + digit))
        rest := by
  rw [string]
  simp only [Symbol.toChar?, Option.bind_some, hdigit, Nat.le_refl, if_true]

/-- An escape by code is read as the value. -/
theorem string_code {escape : List Char} {n : Nat} (h : CodeEscape escape n) (joinable : Bool)
    (done rest : Text) :
    string (.plain joinable) done (Text.ofChars escape ++ rest) =
      string (.plain (isHigh n)) (pushUnit joinable done n) rest := by
  obtain ⟨ha, hb, hc, hd⟩ := h
  have hopen : ∀ text : Text, string (.plain joinable) done (.char '\\' :: .char 'u' :: text) =
      string (.digits joinable 4 0) done text := fun text => rfl
  simp only [Text.ofChars_cons, Text.ofChars_nil, List.cons_append, List.nil_append]
  rw [hopen, string_digit (by decide) ha, string_digit (by decide) hb, string_digit (by decide) hc,
    string_lastDigit hd, Nat.zero_mul, Nat.zero_add]

/-- The escape that is written for a 16-bit value is one of the value. -/
theorem codeEscape_unit {n : Nat} (h : n < 0x10000) : CodeEscape (Writer.unit n) n := by
  have hpadded : Hex.padded 4 n =
      [Hex.lower (n / 16 / 16 / 16), Hex.lower (n / 16 / 16), Hex.lower (n / 16), Hex.lower n] := rfl
  have hvalue : ((n / 16 / 16 / 16 % 16 * 16 + n / 16 / 16 % 16) * 16 + n / 16 % 16) * 16 + n % 16 =
      n := by omega
  have hescape := CodeEscape.mk (Hex.value?_lower (n / 16 / 16 / 16)) (Hex.value?_lower (n / 16 / 16))
    (Hex.value?_lower (n / 16)) (Hex.value?_lower n)
  rw [hvalue] at hescape
  rw [Writer.unit, hpadded]
  exact hescape

/-- The escape of a 16-bit value is read as the value. -/
theorem string_unit {n : Nat} (h : n < 0x10000) (joinable : Bool) (done rest : Text) :
    string (.plain joinable) done (Text.ofChars (Writer.unit n) ++ rest) =
      string (.plain (isHigh n)) (pushUnit joinable done n) rest :=
  string_code (codeEscape_unit h) joinable done rest

/-- A value that is no low half stands for itself. -/
theorem pushUnit_of_not_isLow {n : Nat} (h : isLow n = false) (joinable : Bool) (done : Text) :
    pushUnit joinable done n = (Symbol.ofCode? n).getD (.char '\uFFFD') :: done := by
  unfold pushUnit
  rw [h, Bool.and_false]

/-- A low half joins the symbol before it, if that may be joined. -/
theorem pushUnit_of_isLow {n : Nat} (h : isLow n = true) (high : Symbol) (done : Text) :
    pushUnit true (high :: done) n =
      (Symbol.ofCode? (pairCode high.code n)).getD high :: done := by
  unfold pushUnit
  rw [h, Bool.and_self]

/-- The symbol of a lone half. -/
theorem ofCode?_half {n : Nat} (h : 0xD800 ≤ n ∧ n ≤ 0xDFFF) :
    Symbol.ofCode? n = some (.half ⟨n, h.1, h.2⟩) := by
  have hinvalid : ¬ n.isValidChar := by
    rw [Nat.isValidChar]
    omega
  rw [Symbol.ofCode?, dif_neg hinvalid, dif_pos h]

/-- What is written for the code of a character is read as the character. -/
theorem string_codeEscape (joinable : Bool) (c : Char) (done rest : Text) :
    string (.plain joinable) done (Text.ofChars (Writer.codeEscape c.toNat) ++ rest) =
      string (.plain false) (.char c :: done) rest := by
  have hvalid : c.toNat < 0xD800 ∨ 0xDFFF < c.toNat ∧ c.toNat < 0x110000 := c.valid
  rw [Writer.codeEscape]
  split
  · case isTrue hplane =>
    have hlow : isLow c.toNat = false := decide_eq_false (by omega)
    have hhigh : isHigh c.toNat = false := decide_eq_false (by omega)
    rw [string_unit hplane, pushUnit_of_not_isLow hlow, Symbol.ofCode?_toNat, hhigh,
      Option.getD_some]
  · case isFalse hplane =>
    generalize hhi : 0xD800 + (c.toNat - 0x10000) / 0x400 = hi
    generalize hlo : 0xDC00 + (c.toNat - 0x10000) % 0x400 = lo
    have hrange : 0xD800 ≤ hi ∧ hi ≤ 0xDFFF := by omega
    have hhigh : isHigh hi = true := decide_eq_true (by omega)
    have hnot : isLow hi = false := decide_eq_false (by omega)
    have hlow : isLow lo = true := decide_eq_true (by omega)
    have hnot' : isHigh lo = false := decide_eq_false (by omega)
    have hpair : pairCode hi lo = c.toNat := by
      unfold pairCode
      omega
    rw [Text.ofChars_append, List.append_assoc, string_unit (by omega),
      pushUnit_of_not_isLow hnot, ofCode?_half hrange, Option.getD_some, hhigh,
      string_unit (by omega), hnot', pushUnit_of_isLow hlow, Symbol.code, hpair,
      Symbol.ofCode?_toNat, Option.getD_some]

/-! ## Symbols and texts -/

/-- A character that is neither a quote, a backslash nor a control stands for itself. -/
theorem string_cons {c : Char} (hquote : c ≠ '"') (hslash : c ≠ '\\') (hcontrol : 0x20 ≤ c.toNat)
    (joinable : Bool) (done rest : Text) :
    string (.plain joinable) done (.char c :: rest) =
      string (.plain false) (.char c :: done) rest := by
  have hcode : ¬ Symbol.code (.char c) < 0x20 := by
    rw [Symbol.code]
    omega
  rw [string, if_neg (by simpa using hquote), if_neg (by simpa using hslash), if_neg hcode]

/-- What is written for a character is read as the character. -/
theorem string_char (style : Style) (joinable : Bool) (c : Char) (done rest : Text) :
    string (.plain joinable) done (Text.ofChars (Writer.char style c) ++ rest) =
      string (.plain false) (.char c :: done) rest := by
  unfold Writer.char
  split
  · case isTrue h => rw [h]; rfl
  · case isFalse hquote =>
    split
    · case isTrue h => rw [h]; rfl
    · case isFalse hslash =>
      split
      · case isTrue h => rw [h]; rfl
      split
      · case isTrue h => rw [h]; rfl
      split
      · case isTrue h => rw [h]; rfl
      split
      · case isTrue h => rw [h]; rfl
      split
      · case isTrue h => rw [h]; rfl
      split
      · exact string_codeEscape joinable c done rest
      · case isFalse hplain =>
        have hcontrol : 0x20 ≤ c.toNat := by
          rw [not_or] at hplain
          omega
        exact string_cons hquote hslash hcontrol joinable done rest

/-- What is written for a symbol is read as the symbol, unless it is a low half that is joined to the
high half before it. -/
theorem string_symbol (style : Style) {joinable : Bool} {s : Symbol}
    (h : (joinable && isLow s.code) = false) (done rest : Text) :
    string (.plain joinable) done (Text.ofChars (Writer.symbol style s) ++ rest) =
      string (.plain (isHigh s.code)) (s :: done) rest := by
  cases s with
  | char c =>
    rw [Symbol.isHigh_char]
    exact string_char style joinable c done rest
  | half half =>
    have hpush : pushUnit joinable done half.code = .half half :: done := by
      unfold pushUnit
      rw [show (joinable && isLow half.code) = false from h]
      simp only [ofCode?_half ⟨half.first_le, half.le_last⟩, Option.getD_some]
    have hplane : half.code < 0x10000 := by
      have := half.le_last
      omega
    rw [Writer.symbol, string_unit hplane, hpush]
    rfl

/-- What is written for a text is read as the text, up to the closing quote. -/
theorem string_text (style : Style) {joinable : Bool} {t : Text} (hjoined : t.IsJoined)
    (hfirst : ∀ s ∈ t.head?, (joinable && isLow s.code) = false) (done rest : Text) :
    string (.plain joinable) done
        (Text.ofChars (t.flatMap (Writer.symbol style)) ++ .char '"' :: rest) =
      .ok (done.reverse ++ t, rest) := by
  induction t generalizing joinable done with
  | nil =>
    rw [List.flatMap_nil, Text.ofChars_nil, List.nil_append, List.append_nil]
    rfl
  | cons s t ih =>
    obtain ⟨hnext, hrest⟩ := List.isChain_cons.mp hjoined
    rw [List.flatMap_cons, Text.ofChars_append, List.append_assoc, string_symbol style (hfirst s rfl),
      ih hrest hnext, List.reverse_cons, List.append_assoc]
    rfl

end Reader

/-! ## Printable writing -/

namespace Writer

/-- Whether a character may stand in what is written: no control, and in an ASCII style nothing beyond
the printable part. -/
def IsWritten (style : Style) (c : Char) : Prop :=
  0x20 ≤ c.toNat ∧ (style.ascii = true → c.toNat ≤ 0x7E)

/-- Hexadecimal digits are written in any style. -/
theorem isWritten_lower (style : Style) (n : Nat) : IsWritten style (Hex.lower n) := by
  have h : ∀ k, k < 16 → 0x20 ≤ (Nat.digitChar k).toNat ∧ (Nat.digitChar k).toNat ≤ 0x7E := by
    decide
  have hdigit := h (n % 16) (Nat.mod_lt n (by decide))
  exact ⟨hdigit.1, fun _ => hdigit.2⟩

/-- The characters of an escaped unit are written in any style. -/
theorem isWritten_of_mem_unit {style : Style} {n : Nat} {c : Char} (h : c ∈ unit n) :
    IsWritten style c := by
  have hpadded : Hex.padded 4 n =
      [Hex.lower (n / 16 / 16 / 16), Hex.lower (n / 16 / 16), Hex.lower (n / 16), Hex.lower n] := rfl
  rw [unit, hpadded] at h
  simp only [List.mem_cons, List.not_mem_nil, or_false] at h
  rcases h with rfl | rfl | rfl | rfl | rfl | rfl
  · exact ⟨by decide, fun _ => by decide⟩
  · exact ⟨by decide, fun _ => by decide⟩
  all_goals exact isWritten_lower style _

/-- The characters of an escape by code are written in any style. -/
theorem isWritten_of_mem_codeEscape {style : Style} {n : Nat} {c : Char} (h : c ∈ codeEscape n) :
    IsWritten style c := by
  rw [codeEscape] at h
  split at h
  · exact isWritten_of_mem_unit h
  · rcases List.mem_append.mp h with h | h <;> exact isWritten_of_mem_unit h

/-- What is written for a character can stand in what is written. -/
theorem isWritten_of_mem_char {style : Style} {c d : Char} (h : d ∈ char style c) :
    IsWritten style d := by
  have hescape : ∀ letter : Char, IsWritten style letter → d ∈ ['\\', letter] →
      IsWritten style d := by
    intro letter hletter hd
    simp only [List.mem_cons, List.not_mem_nil, or_false] at hd
    rcases hd with rfl | rfl
    · exact ⟨by decide, fun _ => by decide⟩
    · exact hletter
  unfold char at h
  iterate 7
    split at h
    · exact hescape _ ⟨by decide, fun _ => by decide⟩ h
  split at h
  · exact isWritten_of_mem_codeEscape h
  · case isFalse hplain =>
    rw [List.mem_singleton.mp h]
    rw [not_or, not_and] at hplain
    refine ⟨by omega, fun hascii => ?_⟩
    have := hplain.2 hascii
    omega

/-- What is written for a text can stand in what is written. -/
theorem isWritten_of_mem_text {style : Style} {t : Text} {c : Char} (h : c ∈ text style t) :
    IsWritten style c := by
  have hquote : IsWritten style '"' := ⟨by decide, fun _ => by decide⟩
  rw [text, List.mem_cons, List.mem_append, List.mem_singleton] at h
  rcases h with rfl | h | rfl
  · exact hquote
  · obtain ⟨s, _, hs⟩ := List.mem_flatMap.mp h
    cases s with
    | char d => exact isWritten_of_mem_char hs
    | half half => exact isWritten_of_mem_unit hs
  · exact hquote

end Writer

end Json

end IamLogin
