import IamLogin.Json.Notation
import Mathlib.Data.List.Forall2

/-!
# What a received value looks like in a message

The notation of a value is said by the values in it: the parts of a list or an object are shown one by
one, in their order and with a comma and a blank between each two, however deep they stand. The functions
that write it go from the first part to the next, with the closing bracket at the end of the chain; what
they write is what is said here, and nothing else is.
-/

namespace IamLogin.Json

/-- What stands between the parts of a list or an object. -/
def partSeparator : List Char := [',', ' ']

/-- A value, and the text that it is shown as inside another one. -/
inductive Shows : Json → List Char → Prop
  /-- No value has a word of its own. -/
  | null : Shows .null "None".toList
  /-- Truth has a word of its own. -/
  | true : Shows (.bool true) "True".toList
  /-- So has falsity. -/
  | false : Shows (.bool false) "False".toList
  /-- An integer is shown by its digits. -/
  | int (n : Int) : Shows (.int n) (Decimal.ofInt n)
  /-- A floating-point number is shown by the fewest digits that tell it. -/
  | float (x : Double) : Shows (.float x) (x.render Notation.words)
  /-- A text is shown in quotes. -/
  | str (t : Text) : Shows (.str t) (Quoted.ofText t)
  /-- A list is shown by its items. -/
  | arr {shown : List (Json × List Char)} :
    (∀ s ∈ shown, Shows s.1 s.2) →
    Shows (.arr (shown.map Prod.fst))
      ('[' :: (partSeparator.intercalate (shown.map Prod.snd) ++ [']']))
  /-- An object is shown by its members, each with its name in quotes. -/
  | obj {shown : List (Text × Json × List Char)} :
    (∀ s ∈ shown, Shows s.2.1 s.2.2) →
    Shows (.obj (shown.map fun s => (s.1, s.2.1)))
      ('{' :: (partSeparator.intercalate
        (shown.map fun s => Quoted.ofText s.1 ++ [':', ' '] ++ s.2.2) ++ ['}']))

/-- A value, and the text that it is shown as on its own. -/
inductive Displays : Json → Text → Prop
  /-- A text is shown as it is, halves and all. -/
  | str (t : Text) : Displays (.str t) t
  /-- Any other value is shown as it is inside another one. -/
  | other {v : Json} {cs : List Char} :
    (∀ t, v ≠ .str t) → Shows v cs → Displays v (Text.ofChars cs)

namespace Notation

/-- Items are written with separators between them. -/
theorem value_append_items (item : Json) (more : List Json) :
    value item ++ items more = partSeparator.intercalate ((item :: more).map value) ++ [']'] := by
  induction more generalizing item with
  | nil => rw [items, List.map_singleton, List.intercalate_singleton]
  | cons next more ih =>
    rw [items, ih next]
    simp only [List.map_cons, List.intercalate_cons_cons, partSeparator, List.append_assoc,
      List.cons_append, List.nil_append]

/-- A member, with its name. -/
def entry (member : Text × Json) : List Char :=
  Quoted.ofText member.1 ++ [':', ' '] ++ value member.2

/-- Members are written with separators between them. -/
theorem entry_append_members (member : Text × Json) (more : List (Text × Json)) :
    entry member ++ members more =
      partSeparator.intercalate ((member :: more).map entry) ++ ['}'] := by
  induction more generalizing member with
  | nil => rw [members, List.map_singleton, List.intercalate_singleton]
  | cons next more ih =>
    obtain ⟨name, v⟩ := next
    have hnext := ih (name, v)
    rw [entry] at hnext
    rw [members, hnext]
    simp only [List.map_cons, List.intercalate_cons_cons, partSeparator, List.append_assoc,
      List.cons_append, List.nil_append]

/-- A list is written by its items. -/
theorem value_arr (list : List Json) :
    value (.arr list) = '[' :: (partSeparator.intercalate (list.map value) ++ [']']) := by
  cases list with
  | nil => rfl
  | cons item more => rw [value, value_append_items]

/-- An object is written by its members. -/
theorem value_obj (list : List (Text × Json)) :
    value (.obj list) = '{' :: (partSeparator.intercalate (list.map entry) ++ ['}']) := by
  cases list with
  | nil => rfl
  | cons member more =>
    obtain ⟨name, v⟩ := member
    rw [value, ← entry_append_members, entry]

end Notation

/-- An item is smaller than its list. -/
theorem sizeOf_lt_arr {item : Json} {list : List Json} (h : item ∈ list) :
    sizeOf item < sizeOf (arr list) := by
  have hlt := List.sizeOf_lt_of_mem h
  rw [arr.sizeOf_spec]
  omega

/-- A member is smaller than its object. -/
theorem sizeOf_lt_obj {name : Text} {member : Json} {list : List (Text × Json)}
    (h : (name, member) ∈ list) : sizeOf member < sizeOf (obj list) := by
  have hlt := List.sizeOf_lt_of_mem h
  rw [Prod.mk.sizeOf_spec] at hlt
  rw [obj.sizeOf_spec]
  omega

/-- What is written for a value is what it is shown as. -/
theorem shows_value (v : Json) : Shows v (Notation.value v) := by
  cases v with
  | null => exact .null
  | bool b =>
    cases b with
    | true => exact .true
    | false => exact .false
  | int n => exact .int n
  | float x => exact .float x
  | str t => exact .str t
  | arr list =>
    have hitems : ∀ s ∈ list.map fun item => (item, Notation.value item), Shows s.1 s.2 := by
      intro s hs
      obtain ⟨item, hitem, rfl⟩ := List.mem_map.mp hs
      exact shows_value item
    have hlist := Shows.arr hitems
    rw [List.map_map, List.map_map] at hlist
    simp only [Function.comp_def, List.map_id'] at hlist
    rw [Notation.value_arr]
    exact hlist
  | obj list =>
    have hmembers : ∀ s ∈ list.map fun m => (m.1, m.2, Notation.value m.2), Shows s.2.1 s.2.2 := by
      intro s hs
      obtain ⟨⟨name, member⟩, hmember, rfl⟩ := List.mem_map.mp hs
      exact shows_value member
    have hlist := Shows.obj hmembers
    rw [List.map_map, List.map_map] at hlist
    simp only [Function.comp_def, List.map_id'] at hlist
    rw [Notation.value_obj]
    exact hlist
termination_by sizeOf v
decreasing_by
  · exact sizeOf_lt_arr hitem
  · exact sizeOf_lt_obj hmember

/-- A value is shown as nothing but what is written for it. -/
theorem Shows.eq {v : Json} {cs : List Char} (h : Shows v cs) : cs = Notation.value v := by
  induction h with
  | null => rfl
  | true => rfl
  | false => rfl
  | int n => rfl
  | float x => rfl
  | str t => rfl
  | @arr shown _ ih =>
    have hshown : shown.map Prod.snd = (shown.map Prod.fst).map Notation.value := by
      rw [List.map_map]
      exact List.map_congr_left ih
    rw [Notation.value_arr, hshown]
  | @obj shown _ ih =>
    have hshown : (shown.map fun s => Quoted.ofText s.1 ++ [':', ' '] ++ s.2.2) =
        (shown.map fun s => (s.1, s.2.1)).map Notation.entry := by
      rw [List.map_map]
      refine List.map_congr_left fun s hs => ?_
      rw [ih s hs]
      rfl
    rw [Notation.value_obj, hshown]

/-- A value that is no text is displayed as it is shown inside another one. -/
theorem display_of_ne_str {v : Json} (h : ∀ t, v ≠ .str t) :
    v.display = Text.ofChars (Notation.value v) := by
  have hinspect : Text.ofString v.inspect = Text.ofChars (Notation.value v) := by
    rw [inspect, Text.ofString, String.toList_ofList]
  rw [← hinspect]
  cases v with
  | str t => exact absurd rfl (h t)
  | _ => rfl

/-- What is displayed of a value is what it is shown as on its own. -/
theorem displays_iff {v : Json} {t : Text} : Displays v t ↔ t = v.display := by
  constructor
  · intro h
    cases h with
    | str t => rfl
    | other hother hshows => rw [hshows.eq, display_of_ne_str hother]
  · rintro rfl
    by_cases h : ∃ t, v = .str t
    · obtain ⟨t, rfl⟩ := h
      exact .str t
    · rw [display_of_ne_str (not_exists.mp h)]
      exact .other (not_exists.mp h) (shows_value v)

/-- What values are shown as, each on its own, is what is displayed of them. -/
theorem forall₂_displays_iff {values : List Json} {shown : List Text} :
    List.Forall₂ Displays values shown ↔ shown = values.map display := by
  constructor
  · intro h
    induction h with
    | nil => rfl
    | cons hfirst _ ih => rw [displays_iff.mp hfirst, ih, List.map_cons]
  · rintro rfl
    induction values with
    | nil => exact .nil
    | cons first more ih => exact .cons (displays_iff.mpr rfl) ih

end IamLogin.Json
