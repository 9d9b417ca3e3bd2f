/-!
# Decoded text

A text received from outside is a sequence of code points. Almost all of them are scalar
values, that is, characters; a JSON escape or a tolerant byte decoding can also leave one
half of a surrogate pair on its own. `Text` keeps both, so that a received value can be
inspected and quoted faithfully, and `Text.toString?` is the one way from it to a `String`.
-/

namespace IamLogin

/-- One half of a surrogate pair: a code point that is no scalar value. -/
structure Half where
  /-- The code point, between `D800` and `DFFF`. -/
  code : Nat
  /-- Halves begin at `D800`. -/
  first_le : 0xD800 ≤ code := by omega
  /-- Halves end at `DFFF`. -/
  le_last : code ≤ 0xDFFF := by omega
deriving DecidableEq, Repr

/-- The first of the halves. -/
def Half.first : Half where
  code := 0xD800

/-- One place of a received text. -/
inductive Symbol where
  /-- A scalar value. -/
  | char (c : Char)
  /-- A surrogate half without its partner. -/
  | half (h : Half)
deriving DecidableEq, Repr

instance : Inhabited Symbol := ⟨.char default⟩

/-- A received text: its code points in order. -/
abbrev Text := List Symbol

namespace Symbol

/-- The symbol of a code point, or `none` beyond the last one. -/
def ofCode? (n : Nat) : Option Symbol :=
  if h : n.isValidChar then some (.char (Char.ofNatAux n h))
  else if h : 0xD800 ≤ n ∧ n ≤ 0xDFFF then some (.half ⟨n, h.1, h.2⟩)
  else none

/-- The code point of a symbol. -/
def code : Symbol → Nat
  | .char c => c.toNat
  | .half h => h.code

/-- Whether this is an ASCII character. -/
def isAscii : Symbol → Bool
  | .char c => c.toNat < 0x80
  | .half _ => false

/-- The character at this place, if it is one. -/
def toChar? : Symbol → Option Char
  | .char c => some c
  | .half _ => none

end Symbol

namespace Text

/-- The text of a string holds characters only. -/
def ofChars (cs : List Char) : Text := cs.map Symbol.char

/-- The text of a string holds characters only. -/
def ofString (s : String) : Text := ofChars s.toList

instance : Coe String Text := ⟨ofString⟩

/-- The characters of a text, if it has no lone half. -/
def toChars? (t : Text) : Option (List Char) := t.mapM Symbol.toChar?

/-- The string with this text, if it has no lone half. -/
def toString? (t : Text) : Option String := (toChars? t).map String.ofList

/-- The characters of a text, with the replacement character for each lone half. -/
def toCharsLossy (t : Text) : List Char :=
  t.map fun
    | .char c => c
    | .half _ => '\uFFFD'

/-- No characters are no text. -/
@[simp] theorem ofChars_nil : ofChars [] = [] := rfl

/-- A character comes in front of the text of the others. -/
@[simp] theorem ofChars_cons (c : Char) (cs : List Char) :
    ofChars (c :: cs) = .char c :: ofChars cs := rfl

/-- The text of joined characters is that of the parts. -/
@[simp] theorem ofChars_append (cs ds : List Char) : ofChars (cs ++ ds) = ofChars cs ++ ofChars ds :=
  List.map_append

/-- Reading back the text of characters gives the characters. -/
@[simp] theorem toChars?_ofChars (cs : List Char) : toChars? (ofChars cs) = some cs := by
  induction cs with
  | nil => rfl
  | cons c cs ih =>
    have h : List.mapM Symbol.toChar? (List.map Symbol.char cs) = some cs := ih
    simp [ofChars, toChars?, Symbol.toChar?, h]

/-- The characters of the text of a string are those of the string. -/
@[simp] theorem toChars?_ofString (s : String) : toChars? (ofString s) = some s.toList :=
  toChars?_ofChars s.toList

/-- Reading back the text of a string gives the string. -/
@[simp] theorem toString?_ofString (s : String) : toString? (ofString s) = some s := by
  simp [toString?, ofString]

/-- Only the text of a string is read back as that string. -/
theorem toChars?_eq_some {t : Text} {cs : List Char} (h : toChars? t = some cs) :
    t = ofChars cs := by
  induction t generalizing cs with
  | nil =>
    have : [] = cs := by simpa [toChars?] using h
    subst this
    rfl
  | cons x rest ih =>
    simp only [toChars?, List.mapM_cons, Option.bind_eq_bind, Option.bind_eq_some_iff] at h
    obtain ⟨c, hc, ds, hds, h⟩ := h
    cases x with
    | half _ => simp [Symbol.toChar?] at hc
    | char d =>
      simp only [Symbol.toChar?, Option.some.injEq] at hc
      simp only [Option.pure_def, Option.some.injEq] at h
      subst hc h
      simpa [ofChars] using ih hds

/-- Only the text of a string is read back as that string. -/
theorem toString?_eq_some {t : Text} {s : String} (h : toString? t = some s) : t = ofString s := by
  obtain ⟨cs, hcs, rfl⟩ := Option.map_eq_some_iff.mp h
  rw [ofString, String.toList_ofList, toChars?_eq_some hcs]

/-- Whether a text has no lone half. -/
def IsWhole (t : Text) : Prop := ∃ cs, t = ofChars cs

/-- The text of a string is whole. -/
theorem isWhole_ofString (s : String) : IsWhole (ofString s) := ⟨s.toList, rfl⟩

/-- A whole text is that of a string. -/
theorem IsWhole.exists_ofString {t : Text} (h : IsWhole t) : ∃ s, t = ofString s := by
  obtain ⟨cs, rfl⟩ := h
  exact ⟨String.ofList cs, by rw [ofString, String.toList_ofList]⟩

/-- Exactly the texts without a lone half are those of characters. -/
theorem isSome_toChars?_iff {t : Text} : (toChars? t).isSome = true ↔ IsWhole t := by
  constructor
  · intro h
    obtain ⟨cs, hcs⟩ := Option.isSome_iff_exists.mp h
    exact ⟨cs, toChars?_eq_some hcs⟩
  · rintro ⟨cs, rfl⟩
    rw [toChars?_ofChars]
    rfl

/-- A joined text is whole if its parts are. -/
theorem isWhole_append {s t : Text} : IsWhole (s ++ t) ↔ IsWhole s ∧ IsWhole t := by
  constructor
  · rintro ⟨cs, h⟩
    obtain ⟨front, back, -, rfl, rfl⟩ := List.append_eq_map_iff.mp h
    exact ⟨⟨front, rfl⟩, ⟨back, rfl⟩⟩
  · rintro ⟨⟨front, rfl⟩, ⟨back, rfl⟩⟩
    exact ⟨front ++ back, (List.map_append ..).symm⟩

/-- The text of a joined string is that of its parts. -/
@[simp] theorem ofString_append (s t : String) : ofString (s ++ t) = ofString s ++ ofString t := by
  rw [ofString, String.toList_append, ofChars_append]
  rfl

/-- Different characters have different texts. -/
theorem ofChars_injective {cs ds : List Char} (h : ofChars cs = ofChars ds) : cs = ds := by
  have := congrArg toChars? h
  simpa using this

/-- Different strings have different texts. -/
theorem ofString_injective {s t : String} (h : ofString s = ofString t) : s = t := by
  have := congrArg toString? h
  simpa using this

end Text

end IamLogin
