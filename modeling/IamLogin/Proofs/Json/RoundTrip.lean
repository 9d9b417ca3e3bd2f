import IamLogin.Json.Bytes
import IamLogin.Proofs.Action
import IamLogin.Proofs.Entries
import IamLogin.Proofs.Json.Containers

/-!
# Reading the values that were written

A value is legible if JSON can say it: its floating-point numbers are numbers of 64 bits, no integer has
more digits than are converted, halves that make a character are joined, the names of each object
differ, and containers are not nested too deeply. A legible value that was written in any of the styles
is read as the value, from a text and from its bytes. How deeply containers may be nested depends on the
reader; a reader with room for as many as there are reads any of them.
-/

namespace IamLogin

namespace Json

/-- A style whose separators are a comma and a colon, with blanks after them at most. -/
structure Style.Separates (style : Style) : Prop where
  /-- Items and members are separated by a comma. -/
  comma : ∃ gaps, style.comma = ',' :: gaps ∧ ∀ c ∈ gaps, c = ' '
  /-- A name and its value are separated by a colon. -/
  colon : ∃ gaps, style.colon = ':' :: gaps ∧ ∀ c ∈ gaps, c = ' '

/-- Payloads are separated by commas and colons. -/
theorem Style.payload_separates : Style.payload.Separates :=
  ⟨⟨[], rfl, by simp⟩, ⟨[], rfl, by simp⟩⟩

/-- Bodies are separated by commas and colons. -/
theorem Style.body_separates : Style.body.Separates :=
  ⟨⟨[], rfl, by simp⟩, ⟨[], rfl, by simp⟩⟩

/-- Log lines are separated by commas and colons, each with a blank after it. -/
theorem Style.line_separates : Style.line.Separates :=
  ⟨⟨[' '], rfl, by simp⟩, ⟨[' '], rfl, by simp⟩⟩

/-- Whether a value with containers nested so deeply at most is read as it was written. -/
inductive Legible : Nat → Json → Prop
  /-- No value. -/
  | null {room : Nat} : Legible room .null
  /-- A truth value. -/
  | bool {room : Nat} (b : Bool) : Legible room (.bool b)
  /-- An integer with no more digits than are converted. -/
  | int {room : Nat} {n : Int} :
    (Decimal.ofNat n.natAbs).length ≤ Reader.digitLimit → Legible room (.int n)
  /-- A number of 64 bits. -/
  | float {room : Nat} {x : Double} : x.IsProper → Legible room (.float x)
  /-- A text without halves that belong together. -/
  | str {room : Nat} {t : Text} : t.IsJoined → Legible room (.str t)
  /-- A list. -/
  | arr {room : Nat} {items : List Json} :
    (∀ item ∈ items, Legible room item) → Legible (room + 1) (.arr items)
  /-- An object whose names differ. -/
  | obj {room : Nat} {members : Members} :
    (∀ member ∈ members, member.1.IsJoined) →
    (Entries.keys members).Nodup →
    (∀ member ∈ members, Legible room member.2) → Legible (room + 1) (.obj members)

/-- A string is legible in any room. -/
theorem Legible.ofString {room : Nat} (s : String) : Legible room (Json.ofString s) :=
  .str (Text.isJoined_ofString s)

namespace Reader

/-! ## Values that are no containers -/

/-- A value that begins with no bracket is no container. -/
theorem value_scalar {c : Char} (hbracket : c ≠ '[') (hbrace : c ≠ '{') (fuel room : Nat)
    (rest : Text) : value (fuel + 1) room (.char c :: rest) = scalar (.char c :: rest) := by
  rw [value]
  · intro tail heq
    injection heq with heq _
    injection heq with heq
    exact hbracket heq
  · intro tail heq
    injection heq with heq _
    injection heq with heq
    exact hbrace heq

/-- A digit begins a number. -/
theorem scalar_digit {c : Char} (h : Decimal.isDigit c = true) (rest : Text) :
    scalar (.char c :: rest) = number false (.char c :: rest) := by
  have hne : ∀ d : Char, Decimal.isDigit d = false → c ≠ d := by
    rintro d hd rfl
    rw [h] at hd
    cases hd
  have hconstant : constant (.char c :: rest) = none := by
    unfold constant
    split
    · case h_1 heq => cases heq; exact absurd rfl (hne 'n' (by decide))
    · case h_2 heq => cases heq; exact absurd rfl (hne 't' (by decide))
    · case h_3 heq => cases heq; exact absurd rfl (hne 'f' (by decide))
    · case h_4 heq => cases heq; exact absurd rfl (hne 'N' (by decide))
    · case h_5 heq => cases heq; exact absurd rfl (hne 'I' (by decide))
    · rfl
  unfold scalar
  split
  · case h_1 heq => cases heq; exact absurd rfl (hne '"' (by decide))
  · case h_2 heq => cases heq; exact absurd rfl (hne '-' (by decide))
  · rw [hconstant]

/-- A sign before a digit begins a negative number. -/
theorem scalar_minus {c : Char} (h : Decimal.isDigit c = true) (rest : Text) :
    scalar (.char '-' :: .char c :: rest) = number true (.char c :: rest) := by
  have hne : ¬ Symbol.char c = .char 'I' := by
    intro heq
    injection heq with heq
    rw [heq] at h
    cases h
  have hcons : "Infinity".toList = 'I' :: "nfinity".toList := by decide
  rw [scalar, hcons, word, if_neg hne]

/-- A numeral with the sign of the number before it is read as the number. -/
theorem value_numeral (negative : Bool) {numeral : List Char}
    (hdigit : ∃ c cs, numeral = c :: cs ∧ Decimal.isDigit c = true) {v : Json} {rest : Text}
    (h : number negative (Text.ofChars numeral ++ rest) = .ok (v, rest)) (fuel room : Nat) :
    value (fuel + 1) room (Text.ofChars ((if negative then ['-'] else []) ++ numeral) ++ rest) =
      .ok (v, rest) := by
  obtain ⟨c, cs, rfl, hc⟩ := hdigit
  rw [Text.ofChars_cons, List.cons_append] at h
  cases negative with
  | true =>
    rw [if_pos rfl, List.singleton_append, Text.ofChars_cons, Text.ofChars_cons, List.cons_append,
      List.cons_append, value_scalar (by decide) (by decide), scalar_minus hc, h]
  | false =>
    rw [if_neg Bool.false_ne_true, List.nil_append, Text.ofChars_cons, List.cons_append,
      value_scalar (by rintro rfl; cases hc) (by rintro rfl; cases hc), scalar_digit hc, h]

/-- A numeral begins with a digit. -/
theorem exists_ofNat_cons (n : Nat) :
    ∃ c cs, Decimal.ofNat n = c :: cs ∧ Decimal.isDigit c = true := by
  obtain ⟨c, cs, hcons⟩ := List.exists_cons_of_ne_nil (Decimal.ofNat_ne_nil n)
  exact ⟨c, cs, hcons, Decimal.areDigits_ofNat n c (by rw [hcons]; exact List.mem_cons_self)⟩

/-- What is written for an integer is read as the integer. -/
theorem value_int (style : Style) {n : Int} (h : (Decimal.ofNat n.natAbs).length ≤ digitLimit)
    (fuel room : Nat) {rest : Text} (hrest : endsNumber rest = true) :
    value (fuel + 1) room (Text.ofChars (Writer.value style (.int n)) ++ rest) =
      .ok (.int n, rest) := by
  rw [Writer.value]
  cases n with
  | ofNat n =>
    exact value_numeral false (exists_ofNat_cons n) (number_ofNat false h hrest) fuel room
  | negSucc n =>
    exact value_numeral true (exists_ofNat_cons (n + 1)) (number_ofNat true h hrest) fuel
      room

/-- What is written for a floating-point number is read as the number. -/
theorem value_float (style : Style) {x : Double} (h : x.IsProper) (fuel room : Nat) {rest : Text}
    (hrest : endsNumber rest = true) :
    value (fuel + 1) room (Text.ofChars (Writer.value style (.float x)) ++ rest) =
      .ok (.float x, rest) := by
  rw [Writer.value]
  cases x with
  | nan => rfl
  | infinity negative => cases negative <;> rfl
  | finite negative m q =>
    exact value_numeral negative (exists_magnitude_cons m q) (number_magnitude h hrest) fuel room

/-- What is written for a text is read as the text. -/
theorem value_str (style : Style) {t : Text} (h : t.IsJoined) (fuel room : Nat) (rest : Text) :
    value (fuel + 1) room (Text.ofChars (Writer.value style (.str t)) ++ rest) =
      .ok (.str t, rest) := by
  rw [Writer.value, Writer.text, Text.ofChars_cons, Text.ofChars_append, List.cons_append,
    List.append_assoc, value_scalar (by decide) (by decide), scalar]
  have htext := string_text style h (fun s _ => Bool.false_and _) [] rest
  simp only [Text.ofChars_cons, Text.ofChars_nil, List.cons_append, List.nil_append, htext]
  rfl

/-- What is written for a name is read as the name. -/
theorem readsName_text (style : Style) {name : Text} (h : name.IsJoined) :
    ReadsName (name.flatMap (Writer.symbol style)) name :=
  string_text style h (fun _ _ => Bool.false_and _) []

/-! ## Containers -/

/-- A digit is ASCII, no blank, and closes nothing. -/
theorem opens_of_isDigit {c : Char} (h : Decimal.isDigit c = true) :
    isGap (.char c) = false ∧ c ≠ ']' ∧ c.toNat < 0x80 := by
  refine ⟨?_, ?_, ?_⟩
  · rw [isGap, decide_eq_false_iff_not]
    rintro (heq | heq | heq | heq) <;> injection heq with heq <;> rw [heq] at h <;> cases h
  · rintro rfl
    cases h
  · have hrange := Decimal.isDigit_iff.mp h
    omega

/-- What is written for a legible value begins with an ASCII character that is no blank and closes
nothing. -/
theorem opens_value (style : Style) {room : Nat} {v : Json} (h : Legible room v) :
    Opens (Writer.value style v) := by
  unfold Opens
  cases h with
  | null =>
    exact ⟨'n', ['u', 'l', 'l'], by rw [Writer.value]; decide, by decide⟩
  | bool b =>
    cases b with
    | false =>
      exact ⟨'f', ['a', 'l', 's', 'e'], by rw [Writer.value]; decide, by decide⟩
    | true =>
      exact ⟨'t', ['r', 'u', 'e'], by rw [Writer.value]; decide, by decide⟩
  | @int _ n _ =>
    rw [Writer.value]
    cases n with
    | ofNat n =>
      obtain ⟨c, cs, hcons, hc⟩ := exists_ofNat_cons n
      exact ⟨c, cs, hcons, opens_of_isDigit hc⟩
    | negSucc n => exact ⟨'-', _, rfl, by decide⟩
  | @float _ x _ =>
    rw [Writer.value]
    cases x with
    | nan => exact ⟨'N', ['a', 'N'], rfl, by decide⟩
    | infinity negative =>
      cases negative with
      | true => exact ⟨'-', "Infinity".toList, rfl, by decide⟩
      | false => exact ⟨'I', "nfinity".toList, rfl, by decide⟩
    | finite negative m q =>
      obtain ⟨c, cs, hcons, hc⟩ := exists_magnitude_cons m q
      cases negative with
      | true => exact ⟨'-', _, rfl, by decide⟩
      | false => exact ⟨c, cs, hcons, opens_of_isDigit hc⟩
  | str _ => exact ⟨'"', _, by rw [Writer.value, Writer.text], by decide⟩
  | @arr _ items _ =>
    cases items with
    | nil => exact ⟨'[', _, by rw [Writer.value], by decide⟩
    | cons item more => exact ⟨'[', _, by rw [Writer.value], by decide⟩
  | @obj _ members _ _ _ =>
    cases members with
    | nil => exact ⟨'{', _, by rw [Writer.value], by decide⟩
    | cons member more => exact ⟨'{', _, by rw [Writer.value], by decide⟩

/-- A style puts only blanks between a separator and what follows. -/
theorem areGaps_of_separator {gaps : List Char} (h : ∀ c ∈ gaps, c = ' ') : AreGaps gaps := by
  intro c hc
  rw [h c hc]
  decide

/-- An item as it is written, with blanks before it. -/
def Item.written (style : Style) (gaps : List Char) (item : Json) : Item :=
  ⟨gaps, Writer.value style item, item, []⟩

/-- What is written for the items after the first, as items in a text. -/
theorem writer_items_eq {style : Style} {gaps : List Char} (hcomma : style.comma = ',' :: gaps)
    (more : List Json) :
    Writer.items style more = Item.closed (more.map (Item.written style gaps)) := by
  induction more with
  | nil => rw [Writer.items, List.map_nil, Item.closed]
  | cons item more ih =>
    rw [Writer.items, hcomma, ih, List.map_cons, Item.closed, Item.written]
    simp only [List.cons_append, List.nil_append, List.append_assoc]

/-- A member as it is written, with blanks before it and after its colon. -/
def Member.written (style : Style) (gaps colonGaps : List Char) (member : Text × Json) : Member :=
  ⟨gaps, member.1.flatMap (Writer.symbol style), member.1, [], colonGaps,
    Writer.value style member.2, member.2, []⟩

/-- What is written for a member is that member. -/
theorem Member.entry_written (style : Style) (gaps colonGaps : List Char) (member : Text × Json) :
    (Member.written style gaps colonGaps member).entry = member := rfl

/-- What is written for the members after the first, as members in a text. -/
theorem writer_members_eq {style : Style} {gaps colonGaps : List Char}
    (hcomma : style.comma = ',' :: gaps) (hcolon : style.colon = ':' :: colonGaps)
    (more : Members) :
    Writer.members style more =
      Member.closed (more.map (Member.written style gaps colonGaps)) := by
  induction more with
  | nil => rw [Writer.members, List.map_nil, Member.closed]
  | cons member more ih =>
    obtain ⟨name, member⟩ := member
    rw [Writer.members, hcomma, hcolon, ih, List.map_cons, Member.closed, Writer.text,
      Member.written, Member.spelled]
    simp only [List.cons_append, List.nil_append, List.append_assoc]

/-- A legible value that is read in one step or more is read. -/
theorem reads_of_succ {style : Style} {room : Nat} {v : Json} (h : Legible room v)
    (hread : ∀ fuel rest, endsNumber rest = true →
      value (fuel + 1) room (Text.ofChars (Writer.value style v) ++ rest) = .ok (v, rest)) :
    Reads room (Writer.value style v) v :=
  .of_succ (opens_value style h) fun fuel rest _ hrest => hread fuel rest hrest

/-- A legible value is read as it was written. -/
theorem reads_of_legible {style : Style} (hstyle : style.Separates) {room : Nat} {v : Json}
    (h : Legible room v) : Reads room (Writer.value style v) v := by
  induction h with
  | null =>
    refine reads_of_succ .null fun fuel rest _ => ?_
    rw [Writer.value]
    rfl
  | bool b =>
    refine reads_of_succ (.bool b) fun fuel rest _ => ?_
    cases b <;> rw [Writer.value] <;> rfl
  | int hdigits =>
    exact reads_of_succ (.int hdigits) fun fuel _ hrest => value_int style hdigits fuel _ hrest
  | float hproper =>
    exact reads_of_succ (.float hproper) fun fuel _ hrest => value_float style hproper fuel _ hrest
  | str hjoined =>
    exact reads_of_succ (.str hjoined) fun fuel rest _ => value_str style hjoined fuel _ rest
  | @arr room list hitems ih =>
    cases list with
    | nil =>
      rw [Writer.value]
      exact reads_emptyList (show AreGaps [] from nofun)
    | cons item more =>
      obtain ⟨gaps, hcomma, hgaps⟩ := hstyle.comma
      have hread : ∀ i ∈ Item.written style [] item :: more.map (Item.written style gaps),
          i.IsRead room := by
        intro i hi
        rcases List.mem_cons.mp hi with rfl | hi
        · exact ⟨⟨nofun, nofun⟩, ih item List.mem_cons_self⟩
        · obtain ⟨next, hnext, rfl⟩ := List.mem_map.mp hi
          exact ⟨⟨areGaps_of_separator hgaps, nofun⟩, ih next (List.mem_cons_of_mem item hnext)⟩
      rw [Writer.value, writer_items_eq hcomma]
      have hlist := reads_list hread
      rw [List.map_cons, List.map_map, show Item.value ∘ Item.written style gaps = id from rfl,
        List.map_id] at hlist
      exact hlist
  | @obj room list hnames hkeys hmembers ih =>
    cases list with
    | nil =>
      rw [Writer.value]
      exact reads_emptyObject (show AreGaps [] from nofun)
    | cons member more =>
      obtain ⟨name, member⟩ := member
      obtain ⟨gaps, hcomma, hgaps⟩ := hstyle.comma
      obtain ⟨colonGaps, hcolon, hcolonGaps⟩ := hstyle.colon
      have hread : ∀ m ∈ Member.written style [] colonGaps (name, member) ::
          more.map (Member.written style gaps colonGaps), m.IsRead room := by
        intro m hm
        rcases List.mem_cons.mp hm with rfl | hm
        · exact ⟨⟨nofun, nofun, areGaps_of_separator hcolonGaps, nofun⟩,
            readsName_text style (hnames _ List.mem_cons_self), ih _ List.mem_cons_self⟩
        · obtain ⟨next, hnext, rfl⟩ := List.mem_map.mp hm
          have hmem := List.mem_cons_of_mem (name, member) hnext
          exact ⟨⟨areGaps_of_separator hgaps, nofun, areGaps_of_separator hcolonGaps, nofun⟩,
            readsName_text style (hnames _ hmem), ih _ hmem⟩
      have hobject := reads_object hread
      rw [List.map_cons, List.map_map,
        show Member.entry ∘ Member.written style gaps colonGaps = id from rfl, List.map_id,
        Member.entry_written, Entries.ofList_of_nodup hkeys] at hobject
      rw [Writer.value, Writer.text, hcolon, writer_members_eq hcomma hcolon]
      simpa only [Member.written, Member.spelled, List.cons_append, List.nil_append,
        List.append_assoc] using hobject

end Reader

/-! ## Texts and bytes -/

/-- The value a text holds, for a reader that has room for so many containers in each other. -/
def readWithin (room : Nat) (t : Text) : Except Fault Json := do
  let (found, rest) ← Reader.value (2 * t.length + 2) room (Reader.skipGaps t)
  match Reader.skipGaps rest with
  | [] => .ok found
  | _ => .error .malformed

/-- A text is read within the room of the reader. -/
theorem read_eq (t : Text) : read t = readWithin Reader.depthLimit t := rfl

/-- A value with blanks around it is read from a text if there is room for it. -/
theorem readWithin_of_reads {room : Nat} {before cs after : List Char} {v : Json}
    (hbefore : Reader.AreGaps before) (h : Reader.Reads room cs v) (hafter : Reader.AreGaps after) :
    readWithin room (Text.ofChars (before ++ (cs ++ after))) = .ok v := by
  have hskip : Reader.skipGaps (Text.ofChars (before ++ (cs ++ after))) =
      Text.ofChars cs ++ Text.ofChars after := by
    rw [Text.ofChars_append, Text.ofChars_append]
    exact Reader.skipGaps_of_opens hbefore h.opens (Text.ofChars after)
  have hend := Reader.endsNumber_append hafter (show Reader.endsNumber [] = true from rfl)
  have hrest := Reader.skipGaps_append hafter []
  rw [List.append_nil] at hend hrest
  have hfuel : 2 * cs.length ≤ 2 * (Text.ofChars (before ++ (cs ++ after))).length + 2 := by
    simp only [Text.ofChars, List.length_map, List.length_append]
    omega
  rw [readWithin, hskip, h.value_eq _ _ hfuel hend, except_ok_bind]
  simp only [hrest]
  rfl

/-- What was written for a legible value is read as the value, if there is room for it. -/
theorem readWithin_value {style : Style} (hstyle : style.Separates) {room : Nat} {v : Json}
    (h : Legible room v) : readWithin room (Text.ofChars (Writer.value style v)) = .ok v := by
  simpa using readWithin_of_reads (show Reader.AreGaps [] from nofun)
    (Reader.reads_of_legible hstyle h) (show Reader.AreGaps [] from nofun)

namespace Writer

variable {style : Style} {c : Char}

/-- What is written for the items after the first. -/
theorem mem_items {more : List Json} (h : c ∈ items style more) :
    c = ']' ∨ c ∈ style.comma ∨ ∃ item ∈ more, c ∈ value style item := by
  induction more with
  | nil =>
    rw [items, List.mem_singleton] at h
    exact .inl h
  | cons item more ih =>
    rw [items, List.mem_append, List.mem_append] at h
    rcases h with (h | h) | h
    · exact .inr (.inl h)
    · exact .inr (.inr ⟨item, List.mem_cons_self, h⟩)
    · rcases ih h with h | h | ⟨other, hother, h⟩
      · exact .inl h
      · exact .inr (.inl h)
      · exact .inr (.inr ⟨other, List.mem_cons_of_mem item hother, h⟩)

/-- What is written for the members after the first. -/
theorem mem_members {more : Members} (h : c ∈ members style more) :
    c = '}' ∨ c ∈ style.comma ∨ c ∈ style.colon ∨
      ∃ member ∈ more, c ∈ text style member.1 ∨ c ∈ value style member.2 := by
  induction more with
  | nil =>
    rw [members, List.mem_singleton] at h
    exact .inl h
  | cons member more ih =>
    obtain ⟨name, member⟩ := member
    rw [members, List.mem_append, List.mem_append, List.mem_append, List.mem_append] at h
    rcases h with (((h | h) | h) | h) | h
    · exact .inr (.inl h)
    · exact .inr (.inr (.inr ⟨_, List.mem_cons_self, .inl h⟩))
    · exact .inr (.inr (.inl h))
    · exact .inr (.inr (.inr ⟨_, List.mem_cons_self, .inr h⟩))
    · rcases ih h with h | h | h | ⟨other, hother, h⟩
      · exact .inl h
      · exact .inr (.inl h)
      · exact .inr (.inr (.inl h))
      · exact .inr (.inr (.inr ⟨other, List.mem_cons_of_mem _ hother, h⟩))

/-- Printable ASCII can stand in what is written in any style. -/
theorem isWritten_of_printable (h : 0x20 ≤ c.toNat ∧ c.toNat ≤ 0x7E) : IsWritten style c :=
  ⟨h.1, fun _ => h.2⟩

/-- Separators can stand in what is written. -/
theorem isWritten_of_mem_separator {mark : Char} (hmark : 0x20 ≤ mark.toNat ∧ mark.toNat ≤ 0x7E)
    {separator : List Char} (h : ∃ gaps, separator = mark :: gaps ∧ ∀ c ∈ gaps, c = ' ')
    (hc : c ∈ separator) : IsWritten style c := by
  obtain ⟨gaps, rfl, hgaps⟩ := h
  rcases List.mem_cons.mp hc with rfl | hc
  · exact isWritten_of_printable hmark
  · rw [hgaps c hc]
    exact isWritten_of_printable (by decide)

/-- What stands in numerals can stand in what is written. -/
theorem isWritten_of_inNumeral (h : Reader.InNumeral c) : IsWritten style c := by
  rcases h with hdigit | hmark
  · have hrange := Decimal.isDigit_iff.mp hdigit
    exact isWritten_of_printable (by omega)
  · have hmarks : ∀ d ∈ ['.', 'e', '-', '+'], 0x20 ≤ d.toNat ∧ d.toNat ≤ 0x7E := by simp
    exact isWritten_of_printable (hmarks c hmark)

/-- Integers can stand in what is written. -/
theorem isWritten_of_mem_ofInt {n : Int} (hc : c ∈ Decimal.ofInt n) : IsWritten style c := by
  rcases Decimal.eq_minus_or_isDigit_of_mem_ofInt hc with rfl | hdigit
  · exact isWritten_of_printable (by decide)
  · exact isWritten_of_inNumeral (.inl hdigit)

/-- Floating-point numbers can stand in what is written. -/
theorem isWritten_of_mem_render {x : Double} (hc : c ∈ x.render words) : IsWritten style c := by
  have hminus : IsWritten style '-' := isWritten_of_printable (by decide)
  have hword : ∀ d ∈ "NaN".toList ++ "Infinity".toList, IsWritten style d := by
    have hrange : ∀ d ∈ "NaN".toList ++ "Infinity".toList, 0x20 ≤ d.toNat ∧ d.toNat ≤ 0x7E := by
      simp
    exact fun d hd => isWritten_of_printable (hrange d hd)
  have hsign : ∀ negative : Bool, ∀ d ∈ (if negative then ['-'] else []), IsWritten style d := by
    intro negative d hd
    cases negative with
    | true =>
      rw [List.mem_singleton.mp hd]
      exact hminus
    | false => cases hd
  cases x with
  | nan => exact hword c (List.mem_append_left _ hc)
  | infinity negative =>
    rcases List.mem_append.mp hc with hc | hc
    · exact hsign negative c hc
    · exact hword c (List.mem_append_right _ hc)
  | finite negative m q =>
    rcases List.mem_append.mp hc with hc | hc
    · exact hsign negative c hc
    · exact isWritten_of_inNumeral (Reader.inNumeral_magnitude m q c hc)

/-- What is written for a legible value can stand in what is written. -/
theorem isWritten_of_mem_value (hstyle : style.Separates) {room : Nat} {v : Json}
    (h : Legible room v) (hc : c ∈ value style v) : IsWritten style c := by
  have hcomma : ∀ d ∈ style.comma, IsWritten style d :=
    fun d => isWritten_of_mem_separator (by decide) hstyle.comma
  have hcolon : ∀ d ∈ style.colon, IsWritten style d :=
    fun d => isWritten_of_mem_separator (by decide) hstyle.colon
  induction h generalizing c with
  | null =>
    have hword : ∀ d ∈ "null".toList, 0x20 ≤ d.toNat ∧ d.toNat ≤ 0x7E := by simp
    rw [value] at hc
    exact isWritten_of_printable (hword c hc)
  | bool b =>
    have hword : ∀ d ∈ "true".toList ++ "false".toList, 0x20 ≤ d.toNat ∧ d.toNat ≤ 0x7E := by
      simp
    cases b with
    | false =>
      rw [value] at hc
      exact isWritten_of_printable (hword c (List.mem_append_right _ hc))
    | true =>
      rw [value] at hc
      exact isWritten_of_printable (hword c (List.mem_append_left _ hc))
  | int _ =>
    rw [value] at hc
    exact isWritten_of_mem_ofInt hc
  | float _ =>
    rw [value] at hc
    exact isWritten_of_mem_render hc
  | str _ =>
    rw [value] at hc
    exact isWritten_of_mem_text hc
  | @arr _ list _ ih =>
    cases list with
    | nil =>
      rw [value] at hc
      simp only [List.mem_cons, List.not_mem_nil, or_false] at hc
      rcases hc with rfl | rfl <;> exact isWritten_of_printable (by decide)
    | cons item more =>
      rw [value, List.mem_cons, List.mem_append] at hc
      rcases hc with rfl | hc | hc
      · exact isWritten_of_printable (by decide)
      · exact ih item List.mem_cons_self hc
      · rcases mem_items hc with rfl | hc | ⟨other, hother, hc⟩
        · exact isWritten_of_printable (by decide)
        · exact hcomma c hc
        · exact ih other (List.mem_cons_of_mem item hother) hc
  | @obj _ list _ _ _ ih =>
    cases list with
    | nil =>
      rw [value] at hc
      simp only [List.mem_cons, List.not_mem_nil, or_false] at hc
      rcases hc with rfl | rfl <;> exact isWritten_of_printable (by decide)
    | cons member more =>
      obtain ⟨name, member⟩ := member
      rw [value, List.mem_cons, List.mem_append, List.mem_append, List.mem_append] at hc
      rcases hc with rfl | ((hc | hc) | hc) | hc
      · exact isWritten_of_printable (by decide)
      · exact isWritten_of_mem_text hc
      · exact hcolon c hc
      · exact ih (name, member) List.mem_cons_self hc
      · rcases mem_members hc with rfl | hc | hc | ⟨other, hother, hc | hc⟩
        · exact isWritten_of_printable (by decide)
        · exact hcomma c hc
        · exact hcolon c hc
        · exact isWritten_of_mem_text hc
        · exact ih other (List.mem_cons_of_mem _ hother) hc

end Writer

namespace Encoding

/-- Every mark begins with a byte that is zero or beyond ASCII. -/
theorem exists_of_mem_marks {mark : List UInt8} {encoding : Encoding}
    (h : (mark, encoding) ∈ marks) : ∃ b rest, mark = b :: rest ∧ (b = 0 ∨ ¬ b < 0x80) := by
  simp only [marks, List.mem_cons, Prod.mk.injEq, List.not_mem_nil, or_false] at h
  rcases h with ⟨rfl, -⟩ | ⟨rfl, -⟩ | ⟨rfl, -⟩ | ⟨rfl, -⟩ | ⟨rfl, -⟩
  · exact ⟨_, _, rfl, .inl rfl⟩
  all_goals exact ⟨_, _, rfl, .inr (by decide)⟩

/-- Bytes that are not zero are no part of a wider character. -/
theorem ofZeros_eq {bytes : List UInt8} (hzero : 0 ∉ bytes) : ofZeros bytes = .utf8 := by
  unfold ofZeros
  split
  · case h_1 a b _ _ _ =>
    have ha : a ≠ 0 := fun h => hzero (by simp [h])
    have hb : b ≠ 0 := fun h => hzero (by simp [h])
    rw [if_neg ha, if_neg hb]
  · case h_2 a b =>
    have ha : a ≠ 0 := fun h => hzero (by simp [h])
    have hb : b ≠ 0 := fun h => hzero (by simp [h])
    rw [if_neg ha, if_neg hb]
  · rfl

/-- Bytes without zeros that begin with ASCII are in UTF-8. -/
theorem detect_eq {b : UInt8} {bytes : List UInt8} (hascii : b < 0x80) (hzero : 0 ∉ b :: bytes) :
    detect (b :: bytes) = (.utf8, b :: bytes) := by
  have hnone : marks.find? (fun m => m.1.isPrefixOf (b :: bytes)) = none := by
    rw [List.find?_eq_none]
    rintro ⟨mark, encoding⟩ hmark hfront
    obtain ⟨first, rest, rfl, hfirst⟩ := exists_of_mem_marks hmark
    simp only [List.isPrefixOf_cons_cons, Bool.and_eq_true, beq_iff_eq] at hfront
    obtain ⟨rfl, -⟩ := hfront
    rcases hfirst with rfl | hfirst
    · exact hzero List.mem_cons_self
    · exact hfirst hascii
  rw [detect, hnone]
  simp only [ofZeros_eq hzero]

end Encoding

/-- The bytes of a text that begins with ASCII are read as the text, if the zero character does not occur
in it. -/
theorem readBytes_encode {c : Char} {cs : List Char} (hascii : c.toNat < 0x80)
    (hzero : ∀ d ∈ c :: cs, 0 < d.toNat) :
    readBytes (Utf8.encode (c :: cs)) = read (Text.ofChars (c :: cs)) := by
  have hbytes : 0 ∉ Utf8.encode (c :: cs) := by
    intro hmem
    obtain ⟨d, hd, hmem⟩ := List.mem_flatMap.mp hmem
    exact Utf8.zero_not_mem_utf8EncodeChar (hzero d hd) hmem
  have hdetect : Encoding.detect (Utf8.encode (c :: cs)) = (.utf8, Utf8.encode (c :: cs)) := by
    rw [Utf8.encode_cons, Utf8.utf8EncodeChar_of_lt hascii, List.singleton_append] at hbytes ⊢
    refine Encoding.detect_eq ?_ hbytes
    rw [UInt8.lt_iff_toNat_lt, UInt8.toNat_ofNat_of_lt' (show c.toNat < 256 by omega)]
    exact hascii
  rw [readBytes, hdetect]
  simp only [Encoding.decode?, Utf8.decode?_encode]

/-- The bytes of a value with blanks around it are read as the value. -/
theorem readBytes_of_reads {before cs after : List Char} {v : Json}
    (hbefore : Reader.AreGaps before) (h : Reader.Reads Reader.depthLimit cs v)
    (hafter : Reader.AreGaps after) (hzero : ∀ c ∈ cs, 0 < c.toNat) :
    readBytes (Utf8.encode (before ++ (cs ++ after))) = .ok v := by
  have hpositive : ∀ c ∈ before ++ (cs ++ after), 0 < c.toNat := by
    intro c hc
    rcases List.mem_append.mp hc with hc | hc
    · exact (Reader.toNat_of_isGap (hbefore c hc)).1
    · rcases List.mem_append.mp hc with hc | hc
      · exact hzero c hc
      · exact (Reader.toNat_of_isGap (hafter c hc)).1
  obtain ⟨c, tail, hcons, hascii⟩ : ∃ c tail, before ++ (cs ++ after) = c :: tail ∧
      c.toNat < 0x80 := by
    cases before with
    | nil =>
      obtain ⟨c, tail, rfl, -, -, hascii⟩ := h.opens
      exact ⟨c, _, rfl, hascii⟩
    | cons c before =>
      exact ⟨c, _, rfl, (Reader.toNat_of_isGap (hbefore c List.mem_cons_self)).2⟩
  have hread := readWithin_of_reads hbefore h hafter
  rw [hcons] at hpositive hread ⊢
  rw [readBytes_encode hascii hpositive, read_eq, hread]

/-- The bytes of what was written for a legible value are read as the value. -/
theorem readBytes_render {style : Style} (hstyle : style.Separates) {v : Json}
    (h : Legible Reader.depthLimit v) :
    readBytes (Utf8.encode (render style v).toList) = .ok v := by
  have hzero : ∀ c ∈ Writer.value style v, 0 < c.toNat := by
    intro c hc
    have hwritten := Writer.isWritten_of_mem_value hstyle h hc
    have := hwritten.1
    omega
  rw [render, String.toList_ofList]
  simpa using readBytes_of_reads (show Reader.AreGaps [] from nofun)
    (Reader.reads_of_legible hstyle h) (show Reader.AreGaps [] from nofun) hzero

end Json

end IamLogin
