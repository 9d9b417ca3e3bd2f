import IamLogin.Json.Reader
import IamLogin.Proofs.Action
import IamLogin.Proofs.Json.Numerals

/-!
# Reading containers

A list or an object is read if the values in it are, whatever the values and however they are spelled.
Between the values there are commas, before the value of a member there is a name with a colon, and there
may be blanks before and after each of these. The names of an object may repeat: the last value counts, in
the place of the first.

The induction is on the values that are left. What it needs to know of each value is that the text of it
begins like a value, so that the blanks before it end there, and that the value is read from its text with
anything behind that ends a number.
-/

namespace IamLogin.Json.Reader

/-! ## Blanks -/

/-- Whether all characters are blanks. -/
def AreGaps (gaps : List Char) : Prop := ∀ c ∈ gaps, isGap (.char c) = true

/-- What is no blank is not skipped. -/
theorem skipGaps_cons {s : Symbol} (h : isGap s = false) (t : Text) : skipGaps (s :: t) = s :: t := by
  rw [skipGaps, List.dropWhile_cons_of_neg (by simp [h])]

/-- Blanks are skipped. -/
theorem skipGaps_append {gaps : List Char} (hgaps : AreGaps gaps) (t : Text) :
    skipGaps (Text.ofChars gaps ++ t) = skipGaps t := by
  induction gaps with
  | nil => rfl
  | cons c gaps ih =>
    rw [Text.ofChars_cons, List.cons_append, skipGaps,
      List.dropWhile_cons_of_pos (hgaps c List.mem_cons_self)]
    exact ih fun d hd => hgaps d (List.mem_cons_of_mem c hd)

/-- A blank is ASCII, and not the zero character. -/
theorem toNat_of_isGap {c : Char} (h : isGap (.char c) = true) : 0 < c.toNat ∧ c.toNat < 0x80 := by
  rw [isGap, decide_eq_true_eq] at h
  rcases h with h | h | h | h <;>
    · injection h with h
      rw [h]
      decide

/-- A blank ends a number. -/
theorem endsNumber_of_isGap {s : Symbol} (h : isGap s = true) (t : Text) :
    endsNumber (s :: t) = true := by
  rw [isGap, decide_eq_true_eq] at h
  rcases h with rfl | rfl | rfl | rfl <;> rfl

/-- Blanks end a number if what is behind them does. -/
theorem endsNumber_append {gaps : List Char} (hgaps : AreGaps gaps) {t : Text}
    (h : endsNumber t = true) : endsNumber (Text.ofChars gaps ++ t) = true := by
  cases gaps with
  | nil => exact h
  | cons c gaps => exact endsNumber_of_isGap (hgaps c List.mem_cons_self) _

/-! ## Values in a text -/

/-- Whether a text begins like a value: with an ASCII character that is no blank and closes nothing. -/
def Opens (cs : List Char) : Prop :=
  ∃ c tail, cs = c :: tail ∧ isGap (.char c) = false ∧ c ≠ ']' ∧ c.toNat < 0x80

/-- Blanks are skipped up to what begins like a value. -/
theorem skipGaps_of_opens {gaps cs : List Char} (hgaps : AreGaps gaps) (h : Opens cs) (rest : Text) :
    skipGaps (Text.ofChars gaps ++ (Text.ofChars cs ++ rest)) = Text.ofChars cs ++ rest := by
  obtain ⟨c, tail, rfl, hgap, -⟩ := h
  rw [skipGaps_append hgaps, Text.ofChars_cons, List.cons_append, skipGaps_cons hgap]

/-- Whether a value is read from a text with room for so many containers, before anything that ends a
number. -/
structure Reads (room : Nat) (cs : List Char) (v : Json) : Prop where
  /-- The text begins like a value. -/
  opens : Opens cs
  /-- The value is read from it, and what is behind it is left. -/
  value_eq : ∀ fuel rest, 2 * cs.length ≤ fuel → endsNumber rest = true →
    value fuel room (Text.ofChars cs ++ rest) = .ok (v, rest)

/-- A text that begins like a value leaves a step to read it. -/
theorem Reads.of_succ {room : Nat} {cs : List Char} {v : Json} (hopens : Opens cs)
    (h : ∀ fuel rest, 2 * cs.length ≤ fuel + 1 → endsNumber rest = true →
      value (fuel + 1) room (Text.ofChars cs ++ rest) = .ok (v, rest)) : Reads room cs v where
  opens := hopens
  value_eq fuel rest hfuel hrest := by
    obtain ⟨c, tail, rfl, -⟩ := hopens
    rw [List.length_cons] at hfuel
    obtain ⟨fuel, rfl⟩ : ∃ n, fuel = n + 1 := ⟨fuel - 1, by omega⟩
    exact h fuel rest (by rw [List.length_cons]; omega) hrest

/-- A value is read with blanks behind it up to a character that ends a number. -/
theorem Reads.value_before {fuel room : Nat} {cs gaps : List Char} {v : Json} {c : Char}
    (h : Reads room cs v) (hfuel : 2 * cs.length ≤ fuel) (hgaps : AreGaps gaps)
    (hgap : isGap (.char c) = false) (rest : Text) (hends : endsNumber (.char c :: rest) = true) :
    ∃ left, value fuel room (Text.ofChars cs ++ (Text.ofChars gaps ++ .char c :: rest)) =
        .ok (v, left) ∧ skipGaps left = .char c :: rest := by
  refine ⟨_, h.value_eq fuel _ hfuel (endsNumber_append hgaps hends), ?_⟩
  rw [skipGaps_append hgaps, skipGaps_cons hgap]

/-- Whether a name is read from what stands between its quotes. -/
def ReadsName (cs : List Char) (name : Text) : Prop :=
  ∀ rest, string (.plain false) [] (Text.ofChars cs ++ .char '"' :: rest) = .ok (name, rest)

variable {fuel room : Nat}

/-! ## Lists -/

/-- An item of a list in a text, with the blanks before and after it. -/
structure Item where
  /-- The blanks before it. -/
  before : List Char
  /-- What is spelled of it. -/
  chars : List Char
  /-- What it is. -/
  value : Json
  /-- The blanks after it. -/
  after : List Char

namespace Item

/-- The text of items that come after another, and of the bracket that closes them. -/
def closed : List Item → List Char
  | [] => [']']
  | item :: more => ',' :: (item.before ++ (item.chars ++ (item.after ++ closed more)))

/-- Whether there are only blanks around an item. -/
structure IsSpaced (item : Item) : Prop where
  /-- There are only blanks before it. -/
  before : AreGaps item.before
  /-- There are only blanks after it. -/
  after : AreGaps item.after

/-- Whether an item is read from its text. -/
structure IsRead (room : Nat) (item : Item) : Prop extends IsSpaced item where
  /-- It is read from what is spelled of it. -/
  reads : Reads room item.chars item.value

end Item

/-- A bracket after an item closes the list. -/
theorem items_of_close {t after rest : Text} {item : Json}
    (h : value fuel room t = .ok (item, after)) (hclose : skipGaps after = .char ']' :: rest)
    (done : List Json) :
    items (fuel + 1) room done t = .ok (.arr (done.reverse ++ [item]), rest) := by
  rw [← List.reverse_cons, items, h, except_ok_bind]
  simp only [hclose]

/-- A comma after an item goes on to the next. -/
theorem items_of_comma {t after rest : Text} {item : Json}
    (h : value fuel room t = .ok (item, after)) (hcomma : skipGaps after = .char ',' :: rest)
    (done : List Json) :
    items (fuel + 1) room done t = items fuel room (item :: done) (skipGaps rest) := by
  rw [items, h, except_ok_bind]
  simp only [hcomma]

/-- Items are read up to the bracket that closes them. -/
theorem items_closed {item : Item} {more : List Item} (h : ∀ i ∈ item :: more, i.IsRead room)
    (hfuel : 2 * (item.chars.length + (Item.closed more).length) ≤ fuel) (done : List Json)
    (rest : Text) :
    items fuel room done
        (Text.ofChars (item.chars ++ (item.after ++ Item.closed more)) ++ rest) =
      .ok (.arr (done.reverse ++ (item :: more).map Item.value), rest) := by
  induction more generalizing item fuel done with
  | nil =>
    rw [Item.closed, List.length_singleton] at hfuel
    obtain ⟨fuel, rfl⟩ : ∃ n, fuel = n + 1 := ⟨fuel - 1, by omega⟩
    have hitem := h item List.mem_cons_self
    obtain ⟨left, hvalue, hclose⟩ := hitem.reads.value_before (show _ ≤ fuel by omega) hitem.after
      (show isGap (.char ']') = false by decide) rest rfl
    simp only [Item.closed, Text.ofChars_append, Text.ofChars_cons, Text.ofChars_nil,
      List.append_assoc, List.cons_append, List.nil_append]
    exact items_of_close hvalue hclose done
  | cons next more ih =>
    simp only [Item.closed, List.length_cons, List.length_append] at hfuel
    obtain ⟨fuel, rfl⟩ : ∃ n, fuel = n + 1 := ⟨fuel - 1, by omega⟩
    have hitem := h item List.mem_cons_self
    have hnext := h next (List.mem_cons_of_mem item List.mem_cons_self)
    have hrest := ih (fun i hi => h i (List.mem_cons_of_mem item hi)) (show _ ≤ fuel by omega)
      (item.value :: done)
    simp only [Item.closed, Text.ofChars_append, Text.ofChars_cons, List.append_assoc,
      List.cons_append] at hrest ⊢
    generalize Text.ofChars next.after ++ (Text.ofChars (Item.closed more) ++ rest) = tail at hrest ⊢
    obtain ⟨left, hvalue, hcomma⟩ := hitem.reads.value_before (show _ ≤ fuel by omega) hitem.after
      (show isGap (.char ',') = false by decide)
      (Text.ofChars next.before ++ (Text.ofChars next.chars ++ tail)) rfl
    rw [items_of_comma hvalue hcomma, skipGaps_of_opens hnext.before hnext.reads.opens, hrest,
      List.reverse_cons, List.append_assoc]
    rfl

/-- A list is read if its items are. -/
theorem reads_list {item : Item} {more : List Item} (h : ∀ i ∈ item :: more, i.IsRead room) :
    Reads (room + 1) ('[' :: (item.before ++ (item.chars ++ (item.after ++ Item.closed more))))
      (.arr ((item :: more).map Item.value)) := by
  refine .of_succ ⟨'[', _, rfl, by decide⟩ fun fuel rest hfuel _ => ?_
  simp only [List.length_cons, List.length_append] at hfuel
  have hitem := h item List.mem_cons_self
  have hitems := items_closed h (show _ ≤ fuel by omega) [] rest
  simp only [Text.ofChars_append, Text.ofChars_cons, List.append_assoc, List.cons_append] at hitems ⊢
  rw [value]
  simp only [skipGaps_of_opens hitem.before hitem.reads.opens]
  obtain ⟨c, tail, hcons, -, hclose, -⟩ := hitem.reads.opens
  rw [hcons, Text.ofChars_cons, List.cons_append] at hitems ⊢
  split
  · case h_1 heq =>
    cases heq
    exact absurd rfl hclose
  · exact hitems

/-- A list without items is read. -/
theorem reads_emptyList {gaps : List Char} (h : AreGaps gaps) :
    Reads (room + 1) ('[' :: (gaps ++ [']'])) (.arr []) := by
  refine .of_succ ⟨'[', _, rfl, by decide⟩ fun fuel rest _ _ => ?_
  simp only [Text.ofChars_append, Text.ofChars_cons, Text.ofChars_nil, List.append_assoc,
    List.cons_append, List.nil_append]
  rw [value]
  simp only [skipGaps_append h, skipGaps_cons (show isGap (.char ']') = false by decide)]

/-! ## Objects -/

/-- A member of an object in a text, with the blanks around its parts. -/
structure Member where
  /-- The blanks before it. -/
  before : List Char
  /-- What stands between the quotes of its name. -/
  nameChars : List Char
  /-- Its name. -/
  name : Text
  /-- The blanks before the colon. -/
  beforeColon : List Char
  /-- The blanks after the colon. -/
  afterColon : List Char
  /-- What is spelled of its value. -/
  chars : List Char
  /-- Its value. -/
  value : Json
  /-- The blanks after it. -/
  after : List Char

namespace Member

/-- The name and the value of a member. -/
def entry (m : Member) : Text × Json := (m.name, m.value)

/-- The text of a member from its name to its value. -/
def spelled (m : Member) : List Char :=
  '"' :: (m.nameChars ++ '"' :: (m.beforeColon ++ ':' :: (m.afterColon ++ m.chars)))

/-- The text of members that come after another, and of the brace that closes them. -/
def closed : List Member → List Char
  | [] => ['}']
  | m :: more => ',' :: (m.before ++ (m.spelled ++ (m.after ++ closed more)))

/-- The text of a member begins with the quote of its name. -/
theorem opens_spelled (m : Member) : Opens m.spelled := ⟨'"', _, rfl, by decide⟩

/-- It is longer than the text of its value. -/
theorem length_chars_lt (m : Member) : m.chars.length < m.spelled.length := by
  simp only [spelled, List.length_cons, List.length_append]
  omega

/-- Whether there are only blanks around the parts of a member. -/
structure IsSpaced (m : Member) : Prop where
  /-- There are only blanks before it. -/
  before : AreGaps m.before
  /-- There are only blanks before the colon. -/
  beforeColon : AreGaps m.beforeColon
  /-- There are only blanks after the colon. -/
  afterColon : AreGaps m.afterColon
  /-- There are only blanks after it. -/
  after : AreGaps m.after

/-- Whether a member is read from its text. -/
structure IsRead (room : Nat) (m : Member) : Prop extends IsSpaced m where
  /-- Its name is read from what stands between the quotes. -/
  name : ReadsName m.nameChars m.name
  /-- Its value is read from what is spelled of it. -/
  reads : Reads room m.chars m.value

/-- The name of a member is read, up to its value. -/
theorem IsRead.memberName_eq {m : Member} (h : m.IsRead room) (rest : Text) :
    memberName (Text.ofChars m.spelled ++ rest) = .ok (m.name, Text.ofChars m.chars ++ rest) := by
  have hcolon : skipGaps (Text.ofChars m.beforeColon ++ (.char ':' ::
      (Text.ofChars m.afterColon ++ (Text.ofChars m.chars ++ rest)))) =
        .char ':' :: (Text.ofChars m.afterColon ++ (Text.ofChars m.chars ++ rest)) := by
    rw [skipGaps_append h.beforeColon, skipGaps_cons (by decide)]
  simp only [spelled, Text.ofChars_append, Text.ofChars_cons, List.append_assoc, List.cons_append]
  rw [memberName, h.name, except_ok_bind]
  simp only [hcolon, skipGaps_of_opens h.afterColon h.reads.opens]

end Member

/-- A brace after a member closes the object. -/
theorem members_of_close {t later after rest : Text} {name : Text} {member : Json}
    (hname : memberName t = .ok (name, later))
    (h : value fuel room later = .ok (member, after))
    (hclose : skipGaps after = .char '}' :: rest) (done : Members) :
    members (fuel + 1) room done t = .ok (.obj (Entries.put name member done), rest) := by
  rw [members, hname, except_ok_bind]
  simp only [h, except_ok_bind, hclose]

/-- A comma after a member goes on to the next. -/
theorem members_of_comma {t later after rest : Text} {name : Text} {member : Json}
    (hname : memberName t = .ok (name, later))
    (h : value fuel room later = .ok (member, after))
    (hcomma : skipGaps after = .char ',' :: rest) (done : Members) :
    members (fuel + 1) room done t =
      members fuel room (Entries.put name member done) (skipGaps rest) := by
  rw [members, hname, except_ok_bind]
  simp only [h, except_ok_bind, hcomma]

/-- Members are read up to the brace that closes them, and are added to those before. -/
theorem members_closed {m : Member} {more : List Member} (h : ∀ i ∈ m :: more, i.IsRead room)
    (hfuel : 2 * (m.spelled.length + (Member.closed more).length) ≤ fuel) (done : Members)
    (rest : Text) :
    members fuel room done
        (Text.ofChars (m.spelled ++ (m.after ++ Member.closed more)) ++ rest) =
      .ok (.obj (((m :: more).map Member.entry).foldl
        (fun entries e => Entries.put e.1 e.2 entries) done), rest) := by
  induction more generalizing m fuel done with
  | nil =>
    rw [Member.closed, List.length_singleton] at hfuel
    obtain ⟨fuel, rfl⟩ : ∃ n, fuel = n + 1 := ⟨fuel - 1, by omega⟩
    have hm := h m List.mem_cons_self
    have hlength := m.length_chars_lt
    obtain ⟨left, hvalue, hclose⟩ := hm.reads.value_before (show _ ≤ fuel by omega) hm.after
      (show isGap (.char '}') = false by decide) rest rfl
    simp only [Member.closed, Text.ofChars_append, Text.ofChars_cons, Text.ofChars_nil,
      List.append_assoc, List.cons_append, List.nil_append]
    exact members_of_close (hm.memberName_eq _) hvalue hclose done
  | cons next more ih =>
    simp only [Member.closed, List.length_cons, List.length_append] at hfuel
    obtain ⟨fuel, rfl⟩ : ∃ n, fuel = n + 1 := ⟨fuel - 1, by omega⟩
    have hm := h m List.mem_cons_self
    have hnext := h next (List.mem_cons_of_mem m List.mem_cons_self)
    have hlength := m.length_chars_lt
    have hrest := ih (fun i hi => h i (List.mem_cons_of_mem m hi)) (show _ ≤ fuel by omega)
      (Entries.put m.name m.value done)
    simp only [Member.closed, Text.ofChars_append, Text.ofChars_cons, List.append_assoc,
      List.cons_append] at hrest ⊢
    generalize Text.ofChars next.after ++ (Text.ofChars (Member.closed more) ++ rest) = tail
      at hrest ⊢
    obtain ⟨left, hvalue, hcomma⟩ := hm.reads.value_before (show _ ≤ fuel by omega) hm.after
      (show isGap (.char ',') = false by decide)
      (Text.ofChars next.before ++ (Text.ofChars next.spelled ++ tail)) rfl
    rw [members_of_comma (hm.memberName_eq _) hvalue hcomma,
      skipGaps_of_opens hnext.before next.opens_spelled, hrest]
    rfl

/-- An object is read if its members are. -/
theorem reads_object {m : Member} {more : List Member} (h : ∀ i ∈ m :: more, i.IsRead room) :
    Reads (room + 1) ('{' :: (m.before ++ (m.spelled ++ (m.after ++ Member.closed more))))
      (.obj (Entries.ofList ((m :: more).map Member.entry))) := by
  refine .of_succ ⟨'{', _, rfl, by decide⟩ fun fuel rest hfuel _ => ?_
  simp only [List.length_cons, List.length_append] at hfuel
  have hm := h m List.mem_cons_self
  have hmembers := members_closed h (show _ ≤ fuel by omega) [] rest
  simp only [Text.ofChars_append, Text.ofChars_cons, List.append_assoc, List.cons_append]
    at hmembers ⊢
  rw [value]
  simp only [skipGaps_of_opens hm.before m.opens_spelled]
  -- the name begins with a quote, so the object is not closed at once
  exact hmembers

/-- An object without members is read. -/
theorem reads_emptyObject {gaps : List Char} (h : AreGaps gaps) :
    Reads (room + 1) ('{' :: (gaps ++ ['}'])) (.obj []) := by
  refine .of_succ ⟨'{', _, rfl, by decide⟩ fun fuel rest _ _ => ?_
  simp only [Text.ofChars_append, Text.ofChars_cons, Text.ofChars_nil, List.append_assoc,
    List.cons_append, List.nil_append]
  rw [value]
  simp only [skipGaps_append h, skipGaps_cons (show isGap (.char '}') = false by decide)]

end IamLogin.Json.Reader
