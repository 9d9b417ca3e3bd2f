import IamLogin.Proofs.Json.RoundTrip

/-!
# Every spelling of a value

A value can be spelled in many ways: blanks may stand between all parts, a character may stand for itself
or be escaped by a letter or by its code, an integer is one numeral, and any other number is a decimal with
a fraction or an exponent. The names of an object may repeat, and then the last value counts.

Whatever the spelling, the reader reads the value. Beyond the standard this covers the three words for
numbers that have no digits, and halves of a pair that stand alone; two halves that belong together are
only read as one character, so a spelling never escapes a high half right before a low one to mean two
symbols.
-/

namespace IamLogin.Json

open Decimal (AreDigits)
open Reader (Item Member AreGaps Reads)

/-! ## Strings -/

/-- The letters that stand for characters after a backslash. -/
def letters : List (Char × Char) := [
  ('"', '"'), ('\\', '\\'), ('/', '/'), ('b', '\x08'), ('f', '\x0C'), ('n', '\n'), ('r', '\r'),
  ('t', '\t')]

/-- Whether a character can stand for itself between quotes. -/
def needsNoEscape (c : Char) : Bool := 0x20 ≤ c.toNat && c ≠ '"' && c ≠ '\\'

/-- A character stands for itself exactly if it is no control, quote or backslash. -/
theorem needsNoEscape_iff {c : Char} :
    needsNoEscape c = true ↔ 0x20 ≤ c.toNat ∧ c ≠ '"' ∧ c ≠ '\\' := by
  simp only [needsNoEscape, Bool.and_eq_true, decide_eq_true_eq, and_assoc]

/-- Whether the escape of a low half comes next. -/
def BeginsLow (cs : List Char) : Prop :=
  ∃ escape n rest, cs = escape ++ rest ∧ Reader.CodeEscape escape n ∧ Reader.isLow n = true

/-- What may stand between quotes, and the text that it spells. -/
inductive SpellsText : List Char → Text → Prop
  /-- Nothing. -/
  | nil : SpellsText [] []
  /-- A character that stands for itself. -/
  | plain {c : Char} {cs : List Char} {t : Text} :
    needsNoEscape c = true →
    SpellsText cs t → SpellsText (c :: cs) (.char c :: t)
  /-- A character that is escaped by a letter. -/
  | letter {l c : Char} {cs : List Char} {t : Text} :
    (l, c) ∈ letters →
    SpellsText cs t → SpellsText ('\\' :: l :: cs) (.char c :: t)
  /-- A symbol that is escaped by its code. If it is a high half, no low half comes next. -/
  | code {escape cs : List Char} {n : Nat} {s : Symbol} {t : Text} :
    Reader.CodeEscape escape n → Symbol.ofCode? n = some s →
    (Reader.isHigh n = true → ¬ BeginsLow cs) →
    SpellsText cs t → SpellsText (escape ++ cs) (s :: t)
  /-- A character that is escaped by the two halves of its code. -/
  | pair {high low cs : List Char} {h l : Nat} {s : Symbol} {t : Text} :
    Reader.CodeEscape high h → Reader.isHigh h = true →
    Reader.CodeEscape low l → Reader.isLow l = true →
    Symbol.ofCode? (Reader.pairCode h l) = some s →
    SpellsText cs t → SpellsText (high ++ (low ++ cs)) (s :: t)

/-- Characters that need no escape spell themselves. -/
theorem spellsText_ofChars {cs : List Char} (h : cs.all needsNoEscape = true) :
    SpellsText cs (Text.ofChars cs) := by
  induction cs with
  | nil => exact .nil
  | cons c cs ih =>
    rw [List.all_cons, Bool.and_eq_true] at h
    exact .plain h.1 (ih h.2)

/-! ## Numbers -/

/-- The digits before a point: a zero, or digits that do not begin with one. -/
def AreWhole (digits : List Char) : Prop :=
  digits = ['0'] ∨ AreDigits digits ∧ digits ≠ [] ∧ digits.head? ≠ some '0'

/-- The text of a fraction, if there is one, and its digits. -/
inductive SpellsFraction : List Char → List Char → Prop
  /-- There is no fraction. -/
  | none : SpellsFraction [] []
  /-- There are digits after a point. -/
  | some {digits : List Char} :
    AreDigits digits → digits ≠ [] → SpellsFraction ('.' :: digits) digits

/-- The text of an exponent, if there is one, and its value. -/
inductive SpellsExponent : List Char → Int → Prop
  /-- There is no exponent. -/
  | none : SpellsExponent [] 0
  /-- There are digits after a letter and perhaps a sign. -/
  | some {mark : Char} {sign digits : List Char} {negative : Bool} :
    mark = 'e' ∨ mark = 'E' → (sign, negative) ∈ Reader.signs →
    AreDigits digits → digits ≠ [] →
    SpellsExponent (mark :: (sign ++ digits)) (Decimal.signed negative digits)

/-- The text of a number without its sign, and the number with it. -/
inductive SpellsNumeral (negative : Bool) : List Char → Json → Prop
  /-- An integer with no more digits than are converted. -/
  | integer {whole : List Char} :
    AreWhole whole → whole.length ≤ Reader.digitLimit →
    SpellsNumeral negative whole (.int (Decimal.signed negative whole))
  /-- A number with a fraction or an exponent, rounded to 64 bits. -/
  | decimal {whole fraction digits exponent : List Char} {n : Int} :
    AreWhole whole → SpellsFraction fraction digits → SpellsExponent exponent n →
    fraction ++ exponent ≠ [] →
    SpellsNumeral negative (whole ++ (fraction ++ exponent))
      (.float (.ofDecimal negative (Decimal.value (whole ++ digits)) (n - digits.length)))

/-! ## Values -/

/-- The values that are spelled as words. -/
def words : List (List Char × Json) := [
  ("null".toList, .null), ("true".toList, .bool true), ("false".toList, .bool false),
  ("NaN".toList, .float .nan), ("Infinity".toList, .float (.infinity false)),
  ("-Infinity".toList, .float (.infinity true))]

/-- A text, and the value that it spells, with containers nested so deeply at most. -/
inductive Spells : Nat → List Char → Json → Prop
  /-- A word. -/
  | word {room : Nat} {cs : List Char} {v : Json} : (cs, v) ∈ words → Spells room cs v
  /-- A number. -/
  | number {room : Nat} {cs : List Char} {v : Json} {negative : Bool} :
    SpellsNumeral negative cs v → Spells room ((if negative then ['-'] else []) ++ cs) v
  /-- A string. -/
  | text {room : Nat} {cs : List Char} {t : Text} :
    SpellsText cs t → Spells room ('"' :: (cs ++ ['"'])) (.str t)
  /-- A list without items. -/
  | emptyList {room : Nat} {gaps : List Char} :
    AreGaps gaps → Spells (room + 1) ('[' :: (gaps ++ [']'])) (.arr [])
  /-- A list. -/
  | list {room : Nat} {item : Item} {more : List Item} :
    (∀ i ∈ item :: more, i.IsSpaced) →
    (∀ i ∈ item :: more, Spells room i.chars i.value) →
    Spells (room + 1) ('[' :: (item.before ++ (item.chars ++ (item.after ++ Item.closed more))))
      (.arr ((item :: more).map Item.value))
  /-- An object without members. -/
  | emptyObject {room : Nat} {gaps : List Char} :
    AreGaps gaps → Spells (room + 1) ('{' :: (gaps ++ ['}'])) (.obj [])
  /-- An object. Of members with one name the last counts. -/
  | object {room : Nat} {m : Member} {more : List Member} :
    (∀ i ∈ m :: more, i.IsSpaced) →
    (∀ i ∈ m :: more, SpellsText i.nameChars i.name) →
    (∀ i ∈ m :: more, Spells room i.chars i.value) →
    Spells (room + 1) ('{' :: (m.before ++ (m.spelled ++ (m.after ++ Member.closed more))))
      (.obj (Entries.ofList ((m :: more).map Member.entry)))

/-! ## Reading what is spelled -/

namespace Reader

/-- A letter after a backslash is read as the character that it stands for. -/
theorem string_letter {l c : Char} (h : (l, c) ∈ letters) (joinable : Bool) (done rest : Text) :
    string (.plain joinable) done (.char '\\' :: .char l :: rest) =
      string (.plain false) (.char c :: done) rest := by
  simp only [letters, List.mem_cons, Prod.mk.injEq, List.not_mem_nil, or_false] at h
  rcases h with ⟨rfl, rfl⟩ | ⟨rfl, rfl⟩ | ⟨rfl, rfl⟩ | ⟨rfl, rfl⟩ | ⟨rfl, rfl⟩ | ⟨rfl, rfl⟩ |
    ⟨rfl, rfl⟩ | ⟨rfl, rfl⟩ <;> rfl

/-- The halves of a pair are read as the character that they make. -/
theorem string_pair {high low : List Char} {h l : Nat} {s : Symbol} (hhigh : CodeEscape high h)
    (hhigh' : isHigh h = true) (hlow : CodeEscape low l) (hlow' : isLow l = true)
    (hs : Symbol.ofCode? (pairCode h l) = some s) (joinable : Bool) (done rest : Text) :
    string (.plain joinable) done (Text.ofChars high ++ (Text.ofChars low ++ rest)) =
      string (.plain false) (s :: done) rest := by
  have hrange := of_decide_eq_true hhigh'
  have hrange' := of_decide_eq_true hlow'
  have hhalf : 0xD800 ≤ h ∧ h ≤ 0xDFFF := by omega
  have hnot : isLow h = false := decide_eq_false (by omega)
  have hnot' : isHigh l = false := decide_eq_false (by omega)
  rw [string_code hhigh, pushUnit_of_not_isLow hnot, ofCode?_half hhalf, Option.getD_some, hhigh',
    string_code hlow, pushUnit_of_isLow hlow', hnot', Symbol.code, hs, Option.getD_some]

/-- A symbol that is escaped by its code is read, unless it is a low half that joins the half before. -/
theorem string_symbolCode {escape : List Char} {n : Nat} {s : Symbol} (h : CodeEscape escape n)
    (hs : Symbol.ofCode? n = some s) {joinable : Bool} (hjoin : joinable = true → isLow n = false)
    (done rest : Text) :
    string (.plain joinable) done (Text.ofChars escape ++ rest) =
      string (.plain (isHigh n)) (s :: done) rest := by
  have hpush : pushUnit joinable done n = s :: done := by
    have hnot : (joinable && isLow n) = false := by
      cases joinable with
      | false => rfl
      | true => exact hjoin rfl
    unfold pushUnit
    rw [hnot, hs, Option.getD_some]
  rw [string_code h, hpush]

/-- What is spelled between quotes is read. After a high half, no low half may come first. -/
theorem string_of_spells {cs : List Char} {t : Text} (h : SpellsText cs t) {joinable : Bool}
    (hjoin : joinable = true → ¬ BeginsLow cs) (done rest : Text) :
    string (.plain joinable) done (Text.ofChars cs ++ .char '"' :: rest) =
      .ok (done.reverse ++ t, rest) := by
  induction h generalizing joinable done with
  | nil =>
    rw [List.append_nil]
    rfl
  | plain hplain _ ih =>
    obtain ⟨hcontrol, hquote, hslash⟩ := needsNoEscape_iff.mp hplain
    rw [Text.ofChars_cons, List.cons_append, string_cons hquote hslash hcontrol, @ih false nofun,
      List.reverse_cons, List.append_assoc, List.singleton_append]
  | letter hletter _ ih =>
    rw [Text.ofChars_cons, Text.ofChars_cons, List.cons_append, List.cons_append,
      string_letter hletter, @ih false nofun, List.reverse_cons, List.append_assoc, List.singleton_append]
  | @code escape cs n s t hcode hs hnext _ ih =>
    have hfirst : joinable = true → isLow n = false := by
      intro htrue
      refine Bool.eq_false_iff.mpr fun hlow => hjoin htrue ⟨escape, n, cs, rfl, hcode, hlow⟩
    rw [Text.ofChars_append, List.append_assoc, string_symbolCode hcode hs hfirst, ih hnext,
      List.reverse_cons, List.append_assoc, List.singleton_append]
  | pair hhigh hhigh' hlow hlow' hs _ ih =>
    rw [Text.ofChars_append, Text.ofChars_append, List.append_assoc, List.append_assoc,
      string_pair hhigh hhigh' hlow hlow' hs, @ih false nofun, List.reverse_cons, List.append_assoc,
      List.singleton_append]

/-- Digits that stand before a point are read as such. -/
theorem wholeDigits_of_areWhole {digits : List Char} (h : AreWhole digits) {rest : Text}
    (hrest : endsDigits rest = true) :
    wholeDigits (Text.ofChars digits ++ rest) = some (digits, rest) := by
  rcases h with rfl | ⟨hdigits, hne, hhead⟩
  · rfl
  · exact wholeDigits_eq hdigits hne hhead hrest

/-- The text of a number without its sign begins with a digit. -/
theorem exists_numeral_cons {negative : Bool} {cs : List Char} {v : Json}
    (h : SpellsNumeral negative cs v) : ∃ c tail, cs = c :: tail ∧ Decimal.isDigit c = true := by
  have hwhole : ∀ {whole : List Char}, AreWhole whole →
      ∃ c tail, whole = c :: tail ∧ Decimal.isDigit c = true := by
    rintro whole (rfl | ⟨hdigits, hne, -⟩)
    · exact ⟨'0', [], rfl, rfl⟩
    · obtain ⟨c, tail, rfl⟩ := List.exists_cons_of_ne_nil hne
      exact ⟨c, tail, rfl, hdigits c List.mem_cons_self⟩
  cases h with
  | integer h _ => exact hwhole h
  | decimal h _ _ _ =>
    obtain ⟨c, tail, rfl, hc⟩ := hwhole h
    exact ⟨c, _, rfl, hc⟩

/-- An exponent is read, before anything that ends its digits. -/
theorem exponent?_of_spells {mark : Char} {sign digits : List Char} {negative : Bool}
    (hmark : mark = 'e' ∨ mark = 'E') (hsign : (sign, negative) ∈ signs)
    (hdigits : AreDigits digits) (hne : digits ≠ []) {rest : Text} (hrest : endsDigits rest = true) :
    exponent? (.char mark :: (Text.ofChars sign ++ (Text.ofChars digits ++ rest))) =
      some (Decimal.signed negative digits, rest) := by
  rcases hmark with rfl | rfl <;> exact signedDigits_eq hsign hdigits hne hrest

/-- The text of a number without its sign is read as the number with it. -/
theorem number_of_spells {negative : Bool} {cs : List Char} {v : Json}
    (h : SpellsNumeral negative cs v) {rest : Text} (hrest : endsNumber rest = true) :
    number negative (Text.ofChars cs ++ rest) = .ok (v, rest) := by
  have hends := endsDigits_of_endsNumber hrest
  cases h with
  | integer hwhole hlength =>
    rw [number, wholeDigits_of_areWhole hwhole hends]
    simp only [fraction?_of_endsNumber hrest, exponent?_of_endsNumber hrest,
      if_neg (Nat.not_lt.mpr hlength)]
  | decimal hwhole hfraction hexponent hne =>
    simp only [Text.ofChars_append, List.append_assoc]
    have hmarked : ∀ {mark : Char} (t : Text), mark = 'e' ∨ mark = 'E' →
        endsDigits (.char mark :: t) = true ∧ fraction? (.char mark :: t) = none := by
      rintro mark t (rfl | rfl) <;> exact ⟨rfl, rfl⟩
    cases hfraction with
    | none =>
      cases hexponent with
      | none => exact absurd rfl hne
      | some hmark hsign hdigits hdigits_ne =>
        simp only [Text.ofChars_nil, List.nil_append, List.append_nil, Text.ofChars_cons,
          Text.ofChars_append, List.cons_append, List.append_assoc, List.length_nil, Nat.cast_zero,
          sub_zero]
        exact number_of_exponent (wholeDigits_of_areWhole hwhole (hmarked _ hmark).1)
          (hmarked _ hmark).2 (exponent?_of_spells hmark hsign hdigits hdigits_ne hends)
    | some hfraction hfraction_ne =>
      cases hexponent with
      | none =>
        simp only [Text.ofChars_nil, List.nil_append, Text.ofChars_cons, List.cons_append]
        exact number_of_fraction (wholeDigits_of_areWhole hwhole rfl)
          (fraction?_eq hfraction hfraction_ne hends) (exponent?_of_endsNumber hrest)
      | some hmark hsign hdigits hdigits_ne =>
        simp only [Text.ofChars_cons, Text.ofChars_append, List.cons_append, List.append_assoc]
        exact number_of_fraction_exponent (wholeDigits_of_areWhole hwhole rfl)
          (fraction?_eq hfraction hfraction_ne (hmarked _ hmark).1)
          (exponent?_of_spells hmark hsign hdigits hdigits_ne hends)

/-- A word is read. -/
theorem reads_word {room : Nat} {cs : List Char} {v : Json} (h : (cs, v) ∈ words) :
    Reads room cs v := by
  simp only [words, List.mem_cons, Prod.mk.injEq, List.not_mem_nil, or_false] at h
  rcases h with ⟨rfl, rfl⟩ | ⟨rfl, rfl⟩ | ⟨rfl, rfl⟩ | ⟨rfl, rfl⟩ | ⟨rfl, rfl⟩ | ⟨rfl, rfl⟩ <;>
    exact .of_succ ⟨_, _, rfl, by decide⟩ fun _ _ _ _ => rfl

/-- A number is read. -/
theorem reads_number {room : Nat} {negative : Bool} {cs : List Char} {v : Json}
    (h : SpellsNumeral negative cs v) : Reads room ((if negative then ['-'] else []) ++ cs) v := by
  have hdigit := exists_numeral_cons h
  refine .of_succ ?_ fun fuel rest _ hrest =>
    value_numeral negative hdigit (number_of_spells h hrest) fuel room
  obtain ⟨c, tail, rfl, hc⟩ := hdigit
  cases negative with
  | true => exact ⟨'-', _, rfl, by decide⟩
  | false => exact ⟨c, tail, rfl, opens_of_isDigit hc⟩

/-- A string is read. -/
theorem reads_text {room : Nat} {cs : List Char} {t : Text} (h : SpellsText cs t) :
    Reads room ('"' :: (cs ++ ['"'])) (.str t) := by
  refine .of_succ ⟨'"', _, rfl, by decide⟩ fun fuel rest _ _ => ?_
  have hread := @string_of_spells cs t h false nofun [] rest
  simp only [Text.ofChars_cons, Text.ofChars_append, Text.ofChars_nil, List.cons_append,
    List.append_assoc, List.nil_append]
  rw [value_scalar (by decide) (by decide), scalar, hread]
  rfl

/-- Whatever is spelled is read. -/
theorem reads_of_spells {room : Nat} {cs : List Char} {v : Json} (h : Spells room cs v) :
    Reads room cs v := by
  induction h with
  | word h => exact reads_word h
  | number h => exact reads_number h
  | text h => exact reads_text h
  | emptyList h => exact reads_emptyList h
  | list hspaced _ ih => exact reads_list fun i hi => ⟨hspaced i hi, ih i hi⟩
  | emptyObject h => exact reads_emptyObject h
  | object hspaced hnames _ ih =>
    refine reads_object fun i hi => ⟨hspaced i hi, fun rest => ?_, ih i hi⟩
    exact @string_of_spells _ _ (hnames i hi) false nofun [] rest

end Reader

/-! ## Bytes -/

/-- Whether the zero character does not occur. -/
def HasNoZero (cs : List Char) : Prop := ∀ c ∈ cs, 0 < c.toNat

namespace HasNoZero

/-- The empty text has no zero character. -/
theorem nil : HasNoZero [] := nofun

/-- A character other than zero can be put in front. -/
theorem cons {c : Char} {cs : List Char} (h : 0 < c.toNat) (hcs : HasNoZero cs) :
    HasNoZero (c :: cs) := List.forall_mem_cons.mpr ⟨h, hcs⟩

/-- Two such texts can be joined. -/
theorem append {cs ds : List Char} (hcs : HasNoZero cs) (hds : HasNoZero ds) :
    HasNoZero (cs ++ ds) := List.forall_mem_append.mpr ⟨hcs, hds⟩

/-- Gaps have no zero character. -/
theorem of_gaps {gaps : List Char} (h : AreGaps gaps) : HasNoZero gaps :=
  fun c hc => (Reader.toNat_of_isGap (h c hc)).1

/-- Digits have no zero character. -/
theorem of_digits {digits : List Char} (h : AreDigits digits) : HasNoZero digits := by
  intro c hc
  have hrange := Decimal.isDigit_iff.mp (h c hc)
  omega

/-- Whole numbers have no zero character. -/
theorem of_whole {digits : List Char} (h : AreWhole digits) : HasNoZero digits := by
  rcases h with rfl | ⟨hdigits, -, -⟩
  · exact .cons (by decide) .nil
  · exact .of_digits hdigits

/-- Escapes have no zero character. -/
theorem of_code {escape : List Char} {n : Nat} (h : Reader.CodeEscape escape n) :
    HasNoZero escape := by
  have hdigit : ∀ {c : Char} {k : Nat}, Hex.value? c = some k → 0 < c.toNat := by
    intro c k hk
    rcases Nat.eq_zero_or_pos c.toNat with hzero | hpos
    · have hc : c = '\x00' := Char.ext (UInt32.toNat_inj.mp hzero)
      rw [hc] at hk
      cases hk
    · exact hpos
  obtain ⟨ha, hb, hc, hd⟩ := h
  exact .cons (by decide) (.cons (by decide) (.cons (hdigit ha) (.cons (hdigit hb)
    (.cons (hdigit hc) (.cons (hdigit hd) .nil)))))

/-- A spelled string has no zero character. -/
theorem of_text {cs : List Char} {t : Text} (h : SpellsText cs t) : HasNoZero cs := by
  induction h with
  | nil => exact .nil
  | plain hplain _ ih =>
    have hcontrol := (needsNoEscape_iff.mp hplain).1
    exact .cons (by omega) ih
  | @letter l c _ _ hletter _ ih =>
    have hletters : ∀ e ∈ letters, 0 < e.1.toNat := by simp [letters]
    exact .cons (by decide) (.cons (hletters _ hletter) ih)
  | code hcode _ _ _ ih => exact (of_code hcode).append ih
  | pair hhigh _ hlow _ _ _ ih => exact (of_code hhigh).append ((of_code hlow).append ih)

/-- A spelled number has no zero character. -/
theorem of_numeral {negative : Bool} {cs : List Char} {v : Json} (h : SpellsNumeral negative cs v) :
    HasNoZero cs := by
  cases h with
  | integer hwhole _ => exact of_whole hwhole
  | decimal hwhole hfraction hexponent _ =>
    refine (of_whole hwhole).append (.append ?_ ?_)
    · cases hfraction with
      | none => exact .nil
      | some hdigits _ => exact .cons (by decide) (.of_digits hdigits)
    · cases hexponent with
      | none => exact .nil
      | @some mark _ _ _ hmark hsign hdigits _ =>
        have hmark_pos : 0 < mark.toNat := by rcases hmark with rfl | rfl <;> decide
        have hsigns : ∀ e ∈ Reader.signs, ∀ c ∈ e.1, 0 < c.toNat := by simp [Reader.signs]
        exact .cons hmark_pos (.append (hsigns _ hsign) (.of_digits hdigits))

/-- The items of an array have no zero character if none of them has one. -/
theorem of_items {more : List Item} (hspaced : ∀ i ∈ more, i.IsSpaced)
    (h : ∀ i ∈ more, HasNoZero i.chars) : HasNoZero (Item.closed more) := by
  induction more with
  | nil => exact .cons (by decide) .nil
  | cons item more ih =>
    have hitem := hspaced item List.mem_cons_self
    have hmore := ih (fun i hi => hspaced i (List.mem_cons_of_mem item hi))
      fun i hi => h i (List.mem_cons_of_mem item hi)
    exact .cons (by decide) ((of_gaps hitem.before).append ((h item List.mem_cons_self).append
      ((of_gaps hitem.after).append hmore)))

/-- A member has no zero character if its value has none. -/
theorem of_member {m : Member} (hspaced : m.IsSpaced) (hname : SpellsText m.nameChars m.name)
    (h : HasNoZero m.chars) : HasNoZero m.spelled :=
  .cons (by decide) ((of_text hname).append (.cons (by decide) ((of_gaps hspaced.beforeColon).append
    (.cons (by decide) ((of_gaps hspaced.afterColon).append h)))))

/-- The members of an object have no zero character if none of them has one. -/
theorem of_members {more : List Member} (hspaced : ∀ i ∈ more, i.IsSpaced)
    (h : ∀ i ∈ more, HasNoZero i.spelled) : HasNoZero (Member.closed more) := by
  induction more with
  | nil => exact .cons (by decide) .nil
  | cons m more ih =>
    have hm := hspaced m List.mem_cons_self
    have hmore := ih (fun i hi => hspaced i (List.mem_cons_of_mem m hi))
      fun i hi => h i (List.mem_cons_of_mem m hi)
    exact .cons (by decide) ((of_gaps hm.before).append ((h m List.mem_cons_self).append
      ((of_gaps hm.after).append hmore)))

/-- The zero character does not occur in what is spelled. -/
theorem of_spells {room : Nat} {cs : List Char} {v : Json} (h : Spells room cs v) :
    HasNoZero cs := by
  induction h with
  | word h =>
    have hwords : ∀ e ∈ words, ∀ c ∈ e.1, 0 < c.toNat := by simp [words]
    exact hwords _ h
  | @number _ _ _ negative h =>
    refine .append ?_ (of_numeral h)
    cases negative with
    | true => exact .cons (by decide) .nil
    | false => exact .nil
  | text h => exact .cons (by decide) ((of_text h).append (.cons (by decide) .nil))
  | emptyList h => exact .cons (by decide) ((of_gaps h).append (.cons (by decide) .nil))
  | @list _ item more hspaced _ ih =>
    have hitem := hspaced item List.mem_cons_self
    have hmore := of_items (fun i hi => hspaced i (List.mem_cons_of_mem item hi))
      fun i hi => ih i (List.mem_cons_of_mem item hi)
    exact .cons (by decide) ((of_gaps hitem.before).append ((ih item List.mem_cons_self).append
      ((of_gaps hitem.after).append hmore)))
  | emptyObject h => exact .cons (by decide) ((of_gaps h).append (.cons (by decide) .nil))
  | @object _ m more hspaced hnames _ ih =>
    have hspelled : ∀ i ∈ m :: more, HasNoZero i.spelled :=
      fun i hi => of_member (hspaced i hi) (hnames i hi) (ih i hi)
    have hm := hspaced m List.mem_cons_self
    have hmore := of_members (fun i hi => hspaced i (List.mem_cons_of_mem m hi))
      fun i hi => hspelled i (List.mem_cons_of_mem m hi)
    exact .cons (by decide) ((of_gaps hm.before).append ((hspelled m List.mem_cons_self).append
      ((of_gaps hm.after).append hmore)))

end HasNoZero

/-- Whether bytes are a text in UTF-8 that spells a value, with nothing but blanks around it, and with
containers nested no more deeply than the reader goes. -/
def Encodes (bytes : List UInt8) (v : Json) : Prop :=
  ∃ before cs after, AreGaps before ∧ Spells Reader.depthLimit cs v ∧ AreGaps after ∧
    bytes = Utf8.encode (before ++ (cs ++ after))

/-- Whatever the spelling, the value is read from the bytes. -/
theorem readBytes_of_encodes {bytes : List UInt8} {v : Json} (h : Encodes bytes v) :
    readBytes bytes = .ok v := by
  obtain ⟨before, cs, after, hbefore, hspells, hafter, rfl⟩ := h
  exact readBytes_of_reads hbefore (Reader.reads_of_spells hspells) hafter
    (HasNoZero.of_spells hspells)

end IamLogin.Json
