import IamLogin.Field.Reading
import IamLogin.Proofs.Action

/-!
# Fields that pass their checks

Fields are checked side by side, so they pass exactly if each does, and none of the issues is lost. What is
read as a text is just what was written as one, and a field whose value does not pass has an issue, which
says what is wrong with the value that is there.
-/

namespace IamLogin

namespace Checked

variable {α β : Type}

/-- A function of a checked value passes exactly if the value does. -/
theorem map_eq_valid {f : α → β} {checked : Checked α} {result : β} :
    f <$> checked = valid result ↔ ∃ value, checked = valid value ∧ f value = result := by
  cases checked <;> simp [Functor.map, map]

/-- Two checks side by side pass exactly if both do. -/
theorem seq_eq_valid {f : Checked (α → β)} {checked : Checked α} {result : β} :
    f <*> checked = valid result ↔
      ∃ g value, f = valid g ∧ checked = valid value ∧ g value = result := by
  cases f <;> cases checked <;> simp [Seq.seq, seq]

/-- Changing the value leaves the issues. -/
theorem issues_map (f : α → β) (checked : Checked α) : (f <$> checked).issues = checked.issues := by
  cases checked <;> rfl

/-- Further issues come last. -/
theorem issues_alongside (checked : Checked α) (more : List Issue) :
    (checked.alongside more).issues = checked.issues ++ more := by
  cases checked with
  | invalid issues => rfl
  | valid value => cases more <;> rfl

/-- A value with nothing beside it passes, and only then. -/
theorem alongside_eq_valid {checked : Checked α} {more : List Issue} {value : α} :
    checked.alongside more = valid value ↔ checked = valid value ∧ more = [] := by
  cases checked with
  | invalid issues => simp [alongside]
  | valid other => cases more <;> simp [alongside]

/-- Whether what did not pass has an issue. -/
def HasReason (checked : Checked α) : Prop := checked.issues = [] → ∃ value, checked = valid value

/-- A field fails for a reason. -/
theorem hasReason_ofField (place : List Text) (result : Except Problem α) :
    (ofField place result).HasReason := by
  cases result with
  | ok value => exact fun _ => ⟨value, rfl⟩
  | error problem => exact nofun

/-- What is made of the value of a check fails for a reason. -/
theorem HasReason.map {checked : Checked α} (h : checked.HasReason) (f : α → β) :
    (f <$> checked).HasReason := by
  intro hnil
  rw [issues_map] at hnil
  obtain ⟨value, rfl⟩ := h hnil
  exact ⟨f value, rfl⟩

/-- Two checks together fail for a reason. -/
theorem HasReason.seq {f : Checked (α → β)} {checked : Checked α} (hf : f.HasReason)
    (h : checked.HasReason) : (f <*> checked).HasReason := by
  intro hnil
  rw [issues_seq, List.append_eq_nil_iff] at hnil
  obtain ⟨g, rfl⟩ := hf hnil.1
  obtain ⟨value, rfl⟩ := h hnil.2
  exact ⟨g value, rfl⟩

/-- A check beside further issues fails for a reason. -/
theorem HasReason.alongside {checked : Checked α} (h : checked.HasReason) (more : List Issue) :
    (checked.alongside more).HasReason := by
  intro hnil
  rw [issues_alongside, List.append_eq_nil_iff] at hnil
  obtain ⟨value, rfl⟩ := h hnil.1
  exact ⟨value, alongside_eq_valid.mpr ⟨rfl, hnil.2⟩⟩

/-- What did not pass is its issues, and there are some. -/
theorem HasReason.eq_invalid {checked : Checked α} (h : checked.HasReason)
    (hnot : ∀ value, checked ≠ valid value) :
    checked.issues ≠ [] ∧ checked = invalid checked.issues := by
  cases checked with
  | valid value => exact absurd rfl (hnot value)
  | invalid issues =>
    refine ⟨fun hnil => ?_, rfl⟩
    obtain ⟨value, hvalid⟩ := h hnil
    exact hnot value hvalid

end Checked

namespace Field

variable {α : Type}

/-- Only a text is read as a text, and it is read as it is. -/
theorem text_eq_ok_iff {v : Json} {t : Text} : text v = .ok t ↔ v = .str t := by
  cases v <;> simp [text]

/-- A string is read as the string it is. -/
theorem string_ofString (s : String) : string (Json.ofString s) = .ok s := by
  simp only [string, text, Json.ofString, except_ok_bind, Text.toString?_ofString]

/-- Only a string is read as a string. -/
theorem string_eq_ok_iff {v : Json} {s : String} : string v = .ok s ↔ v = Json.ofString s := by
  constructor
  · intro h
    obtain ⟨t, htext, hstring⟩ := except_bind_eq_ok.mp h
    cases hs : t.toString? with
    | none =>
      rw [hs] at hstring
      cases hstring
    | some s' =>
      rw [hs] at hstring
      obtain rfl : s' = s := Except.ok.inj hstring
      rw [text_eq_ok_iff.mp htext, Json.ofString, Text.toString?_eq_some hs]
  · rintro rfl
    exact string_ofString s

/-- Only a string that is not empty is read as such a text. -/
theorem nonemptyText_eq_ok_iff {v : Json} {s : String} :
    nonemptyText v = .ok s ↔ s ≠ "" ∧ v = Json.ofString s := by
  unfold nonemptyText
  rw [except_bind_eq_ok]
  simp only [string_eq_ok_iff]
  constructor
  · rintro ⟨s', hv, h⟩
    split at h
    · cases h
    · case isFalse hempty =>
      obtain rfl : s' = s := Except.ok.inj h
      exact ⟨fun hs => hempty (String.isEmpty_iff.mpr hs), hv⟩
  · rintro ⟨hs, hv⟩
    exact ⟨s, hv, if_neg fun hempty => hs (String.isEmpty_iff.mp hempty)⟩

/-- A text or nothing is read from a text or nothing. -/
theorem text?_eq_ok_iff {v : Json} {t? : Option Text} :
    text? v = .ok t? ↔ v = Json.ofText? t? := by
  cases v <;> cases t? <;> simp [text?, text, Json.ofText?, Except.map]

/-- A value that has to be there is read exactly if it is there and can be read. -/
theorem need_eq_valid_iff {name : String} {read : Json → Except Problem α} {found : Option Json}
    {value : α} :
    need name read found = .valid value ↔ ∃ v, found = some v ∧ read v = .ok value := by
  cases found with
  | none => simp [need, Checked.ofField]
  | some v => cases hread : read v <;> simp [need, Checked.ofField, hread]

/-- A value with a substitute is read exactly if it is there and can be read, or is the substitute. -/
theorem allow_eq_valid_iff {name : String} {substitute : α} {read : Json → Except Problem α}
    {found : Option Json} {value : α} :
    allow name substitute read found = .valid value ↔
      found = none ∧ value = substitute ∨ ∃ v, found = some v ∧ read v = .ok value := by
  cases found with
  | none => simp [allow, Checked.ofField, eq_comm]
  | some v => cases hread : read v <;> simp [allow, Checked.ofField, hread]

/-- What is wrong with a value that is read, if anything is. -/
def problem? (read : Json → Except Problem α) (v : Json) : Option Problem :=
  match read v with
  | .ok _ => none
  | .error problem => some problem

/-- The issue with a field that may be absent is what is wrong with the value that is there. -/
theorem issues_allow (name : String) (substitute : α) (read : Json → Except Problem α)
    (found : Option Json) :
    (allow name substitute read found).issues =
      ((found.bind (problem? read)).map fun problem => ⟨[Text.ofString name], problem⟩).toList := by
  cases found with
  | none => rfl
  | some v => cases hread : read v <;> simp [allow, problem?, hread, Checked.ofField, Checked.issues]

/-- The issue with a field that has to be there is that it is missing, or what is wrong with its value. -/
theorem issues_need (name : String) (read : Json → Except Problem α) (found : Option Json) :
    (need name read found).issues =
      ((found.elim (some .missing) (problem? read)).map fun problem =>
        ⟨[Text.ofString name], problem⟩).toList := by
  cases found with
  | none => rfl
  | some v => cases hread : read v <;> simp [need, problem?, hread, Checked.ofField, Checked.issues]

/-- A field that may be absent is valid or has an issue. -/
theorem hasReason_allow (name : String) (substitute : α) (read : Json → Except Problem α)
    (found : Option Json) : (allow name substitute read found).HasReason :=
  Checked.hasReason_ofField _ _

/-- A field that has to be there is valid or has an issue. -/
theorem hasReason_need (name : String) (read : Json → Except Problem α) (found : Option Json) :
    (need name read found).HasReason :=
  Checked.hasReason_ofField _ _

end Field

end IamLogin
