import IamLogin.Proofs.Json.Strings
import IamLogin.Text.Quoted

/-!
# Quoted texts tell where they end

A text in quotes may hold quotes, backslashes, commas and whatever else stands around it in a message. It
can be told apart from what follows it all the same. What stands between the quotes is read one symbol at a
time: a backslash announces the symbol behind it or so many digits of its code, any other character stands
for itself, and none of them begins like the closing quote. So two messages that begin with quoted texts
and are the same begin with the same texts, and go on in the same way behind them.
-/

namespace IamLogin

/-- The value of hexadecimal digits. -/
def Hex.value (cs : List Char) : Nat := cs.foldl (fun n c => n * 16 + (Hex.value? c).getD 0) 0

/-- The last digits of a number are those of the number, if it has no more. -/
theorem Hex.value_padded {width n : Nat} (h : n < Nat.pow 16 width) :
    Hex.value (Hex.padded width n) = n := by
  induction width generalizing n with
  | zero =>
    have hone : n < 1 := h
    rw [Hex.padded, Hex.value, List.foldl_nil]
    omega
  | succ width ih =>
    have hpow : Nat.pow 16 (width + 1) = Nat.pow 16 width * 16 := rfl
    have hfront : Hex.value (Hex.padded width (n / 16)) = n / 16 := ih (by omega)
    rw [Hex.value] at hfront
    rw [Hex.padded, Hex.value, List.foldl_append, hfront, List.foldl_cons, List.foldl_nil,
      Hex.value?_lower, Option.getD_some]
    omega

/-- A symbol is told by its code. -/
theorem Symbol.ofCode?_code (s : Symbol) : Symbol.ofCode? s.code = some s := by
  cases s with
  | char c => exact Symbol.ofCode?_toNat c
  | half h => exact Json.Reader.ofCode?_half ⟨h.first_le, h.le_last⟩

/-- Codes are below the end of the last plane. -/
theorem Symbol.code_lt (s : Symbol) : s.code < 0x110000 := by
  cases s with
  | char c =>
    have hvalid : c.toNat < 0xD800 ∨ 0xDFFF < c.toNat ∧ c.toNat < 0x110000 := c.valid
    rw [Symbol.code]
    omega
  | half h =>
    have hlast := h.le_last
    rw [Symbol.code]
    omega

namespace Quoted

/-! ## One symbol -/

/-- The symbol with a code of so many digits, and what follows them. -/
def coded? (width : Nat) (cs : List Char) : Option (Symbol × List Char) :=
  (Symbol.ofCode? (Hex.value (cs.take width))).map fun s => (s, cs.drop width)

/-- The symbol that stands first between quotes, and what follows it. -/
def first? : List Char → Option (Symbol × List Char)
  | [] => none
  | '\\' :: 'x' :: rest => coded? 2 rest
  | '\\' :: 'u' :: rest => coded? 4 rest
  | '\\' :: 'U' :: rest => coded? 8 rest
  | '\\' :: 'n' :: rest => some (.char '\n', rest)
  | '\\' :: 'r' :: rest => some (.char '\r', rest)
  | '\\' :: 't' :: rest => some (.char '\t', rest)
  | '\\' :: c :: rest => some (.char c, rest)
  | c :: rest => some (.char c, rest)

/-- A symbol is read of its code in enough digits. -/
theorem coded?_padded {width : Nat} {s : Symbol} (h : s.code < Nat.pow 16 width)
    (rest : List Char) : coded? width (Hex.padded width s.code ++ rest) = some (s, rest) := by
  have htake : (Hex.padded width s.code ++ rest).take width = Hex.padded width s.code :=
    List.take_left' (Hex.padded_length width s.code)
  have hdrop : (Hex.padded width s.code ++ rest).drop width = rest :=
    List.drop_left' (Hex.padded_length width s.code)
  rw [coded?, htake, hdrop, Hex.value_padded h, Symbol.ofCode?_code, Option.map_some]

/-- A symbol is read of what is written for its code. -/
theorem first?_numeric (s : Symbol) (rest : List Char) :
    first? (numeric s.code ++ rest) = some (s, rest) := by
  have hcode := s.code_lt
  unfold numeric
  split
  · case isTrue htwo => exact coded?_padded (show s.code < 256 from htwo) rest
  · split
    · case isTrue hfour => exact coded?_padded (show s.code < 65536 from hfour) rest
    · exact coded?_padded (show s.code < 4294967296 by omega) rest

/-- A character that is no backslash stands for itself. -/
theorem first?_cons {c : Char} (h : c ≠ '\\') (rest : List Char) :
    first? (c :: rest) = some (.char c, rest) := by
  unfold first?
  split <;> simp_all

/-- Whether a text can be shown in quotes of this kind. -/
def IsQuote (quote : Char) : Prop := quote = '\'' ∨ quote = '"'

/-- A text is delimited by quotes of one sort. -/
theorem isQuote_delimiter (t : Text) : IsQuote (delimiter t) := by
  unfold delimiter
  split
  · exact .inr rfl
  · exact .inl rfl

variable {quote : Char}

/-- A symbol is read of what is written for it. -/
theorem first?_escape (hquote : IsQuote quote) (s : Symbol) (rest : List Char) :
    first? (escape quote s ++ rest) = some (s, rest) := by
  cases s with
  | half h => exact first?_numeric (.half h) rest
  | char c =>
    rw [escape]
    split
    · case isTrue h => rw [h]; rfl
    · case isFalse hslash =>
      split
      · case isTrue h =>
        rw [h]
        rcases hquote with rfl | rfl <;> rfl
      split
      · case isTrue h => rw [h]; rfl
      split
      · case isTrue h => rw [h]; rfl
      split
      · case isTrue h => rw [h]; rfl
      split
      · exact first?_cons hslash rest
      · exact first?_numeric (.char c) rest

/-- What is written for a symbol does not begin like the closing quote. -/
theorem head?_escape_ne (hquote : IsQuote quote) (s : Symbol) (rest : List Char) :
    (escape quote s ++ rest).head? ≠ some quote := by
  have hslash : ∀ more : List Char, ('\\' :: more).head? ≠ some quote := by
    intro more hhead
    rcases hquote with rfl | rfl <;> cases hhead
  have hnumeric : ∀ n, (numeric n ++ rest).head? ≠ some quote := by
    intro n
    unfold numeric
    split
    · exact hslash _
    · split <;> exact hslash _
  cases s with
  | half h => exact hnumeric h.code
  | char c =>
    rw [escape]
    split
    · exact hslash _
    split
    · exact hslash _
    · case isFalse hother =>
      iterate 3
        split
        · exact hslash _
      split
      · exact fun hhead => hother (Option.some.inj hhead)
      · exact hnumeric c.toNat

/-! ## Texts -/

/-- What stands before the closing quote tells the text, and where it ends. -/
theorem flatMap_escape_inj (hquote : IsQuote quote) {t t' : Text} {r r' : List Char}
    (h : t.flatMap (escape quote) ++ quote :: r = t'.flatMap (escape quote) ++ quote :: r') :
    t = t' ∧ r = r' := by
  have hends : ∀ (s : Symbol) (more : Text) (after before : List Char),
      (s :: more).flatMap (escape quote) ++ quote :: after ≠ quote :: before := by
    intro s more after before heq
    rw [List.flatMap_cons, List.append_assoc] at heq
    exact head?_escape_ne hquote s _ (congrArg List.head? heq)
  induction t generalizing t' with
  | nil =>
    cases t' with
    | nil => exact ⟨rfl, (List.cons.inj h).2⟩
    | cons s more => exact absurd h.symm (hends s more r' r)
  | cons s more ih =>
    cases t' with
    | nil => exact absurd h (hends s more r r')
    | cons s' more' =>
      rw [List.flatMap_cons, List.append_assoc, List.flatMap_cons, List.append_assoc] at h
      have hfirst := congrArg first? h
      rw [first?_escape hquote, first?_escape hquote, Option.some.injEq, Prod.mk.injEq] at hfirst
      obtain ⟨rfl, hrest⟩ := hfirst
      obtain ⟨rfl, hafter⟩ := ih hrest
      exact ⟨rfl, hafter⟩

/-- A text in quotes can be told from what follows it. -/
theorem ofText_append_inj {t t' : Text} {r r' : List Char}
    (h : ofText t ++ r = ofText t' ++ r') : t = t' ∧ r = r' := by
  simp only [ofText, List.cons_append, List.append_assoc, List.nil_append, List.cons.injEq] at h
  obtain ⟨hquote, hrest⟩ := h
  rw [← hquote] at hrest
  exact flatMap_escape_inj (isQuote_delimiter t) hrest

/-- No text in quotes begins like the word for nothing. -/
theorem ofText_append_ne (t : Text) (after before : List Char) :
    ofText t ++ after ≠ "None".toList ++ before := by
  intro heq
  have hhead : some (delimiter t) = some 'N' := congrArg List.head? heq
  rw [Option.some.injEq] at hhead
  have hquote := isQuote_delimiter t
  rw [hhead] at hquote
  rcases hquote with h | h <;> exact absurd h (by decide)

/-- So can a text in quotes, or the word for nothing. -/
theorem ofText?_append_inj {t t' : Option Text} {r r' : List Char}
    (h : ofText? t ++ r = ofText? t' ++ r') : t = t' ∧ r = r' := by
  cases t with
  | none =>
    cases t' with
    | none => exact ⟨rfl, (List.append_right_inj _).mp h⟩
    | some t' => exact absurd h.symm (ofText_append_ne _ _ _)
  | some t =>
    cases t' with
    | none => exact absurd h (ofText_append_ne _ _ _)
    | some t' =>
      obtain ⟨htext, hrest⟩ := ofText_append_inj h
      exact ⟨congrArg some htext, hrest⟩

end Quoted

end IamLogin
