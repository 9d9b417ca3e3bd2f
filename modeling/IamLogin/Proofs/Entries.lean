import IamLogin.Entries

/-!
# What is found in entries

Writing, dropping and adding keys, by what is found under a key afterwards and by which keys there are.
Where many values are written one after the other, the last counts; where values are added only for new
keys, the first counts. Neither makes two entries for one key.
-/

namespace IamLogin

namespace Entries

variable {α β : Type} [DecidableEq α]

/-- A new key goes to the end. -/
theorem put_of_not_mem {key : α} {entries : Entries α β} (h : key ∉ keys entries) (value : β) :
    put key value entries = entries ++ [(key, value)] := by
  induction entries with
  | nil => rfl
  | cons entry rest ih =>
    obtain ⟨other, old⟩ := entry
    have hkeys : keys ((other, old) :: rest) = other :: keys rest := rfl
    rw [hkeys, List.mem_cons, not_or] at h
    rw [put, if_neg (Ne.symm h.1), ih h.2, List.cons_append]

/-- New keys that differ go to the end one after the other. -/
theorem foldl_put_of_nodup {entries more : Entries α β} (h : (keys (entries ++ more)).Nodup) :
    more.foldl (fun es p => put p.1 p.2 es) entries = entries ++ more := by
  induction more generalizing entries with
  | nil => exact (List.append_nil entries).symm
  | cons e more ih =>
    have hnew : e.1 ∉ keys entries := by
      intro hmem
      rw [keys, List.map_append] at h
      exact (List.nodup_append.mp h).2.2 e.1 hmem e.1 List.mem_cons_self rfl
    have hassoc : entries ++ e :: more = (entries ++ [e]) ++ more := by simp
    rw [hassoc] at h ⊢
    rw [List.foldl_cons, put_of_not_mem hnew, ih h]

/-- Pairs whose keys differ are entries as they are. -/
theorem ofList_of_nodup {entries : Entries α β} (h : (keys entries).Nodup) :
    ofList entries = entries := foldl_put_of_nodup h

/-- What stands in entries before others is found first. -/
theorem get?_append (key : α) (entries more : Entries α β) :
    get? key (entries ++ more) = (get? key entries).or (get? key more) := by
  induction entries with
  | nil => rfl
  | cons e rest ih =>
    obtain ⟨k, v⟩ := e
    rw [List.cons_append, get?, get?]
    split
    · rfl
    · exact ih

/-- A key that has a value is one of the keys. -/
theorem isSome_get?_iff {key : α} {entries : Entries α β} :
    (get? key entries).isSome = true ↔ key ∈ keys entries := by
  induction entries with
  | nil => simp [get?, keys]
  | cons e rest ih =>
    obtain ⟨k, v⟩ := e
    have hkeys : keys ((k, v) :: rest) = k :: keys rest := rfl
    rw [get?, hkeys, List.mem_cons]
    by_cases hk : k = key
    · simp [hk]
    · rw [if_neg hk, ih]
      simp [Ne.symm hk]

/-- A value that is found was put there. -/
theorem mem_of_get? {key : α} {entries : Entries α β} {value : β}
    (h : get? key entries = some value) : (key, value) ∈ entries := by
  induction entries with
  | nil => cases h
  | cons e rest ih =>
    obtain ⟨k, v⟩ := e
    rw [get?] at h
    split at h
    · case isTrue hk =>
      obtain rfl := Option.some.inj h
      rw [hk]
      exact List.mem_cons_self
    · exact List.mem_cons_of_mem _ (ih h)

/-- Where keys are different, what was put there is found. -/
theorem get?_of_mem {entries : Entries α β} (h : (keys entries).Nodup) {key : α} {value : β}
    (hmem : (key, value) ∈ entries) : get? key entries = some value := by
  induction entries with
  | nil => cases hmem
  | cons e rest ih =>
    obtain ⟨k, v⟩ := e
    have hkeys : keys ((k, v) :: rest) = k :: keys rest := rfl
    rw [hkeys, List.nodup_cons] at h
    rw [get?]
    rcases List.mem_cons.mp hmem with heq | hmem
    · cases heq
      exact if_pos rfl
    · rw [if_neg, ih h.2 hmem]
      rintro rfl
      exact h.1 (List.mem_map_of_mem hmem)

/-- With distinct keys, looking up finds exactly the entries. -/
theorem get?_eq_some_iff {entries : Entries α β} (h : (keys entries).Nodup) {key : α} {value : β} :
    get? key entries = some value ↔ (key, value) ∈ entries :=
  ⟨mem_of_get?, get?_of_mem h⟩

/-- Where keys are different, their order makes no difference to what is found. -/
theorem get?_perm {entries other : Entries α β} (h : (keys entries).Nodup)
    (hperm : List.Perm entries other) (key : α) : get? key other = get? key entries := by
  have hother : (keys other).Nodup := (hperm.map Prod.fst).nodup_iff.mp h
  refine Option.ext fun value => ?_
  rw [get?_eq_some_iff h, get?_eq_some_iff hother, hperm.mem_iff]

/-- What is put under a new key does not change what is found elsewhere. -/
theorem get?_putNew (entries : Entries α β) (key other : α) (value : β) :
    get? other (putNew key value entries) =
      (get? other entries).or (if key = other then some value else none) := by
  unfold putNew
  split
  · case isTrue hsome =>
    by_cases hk : key = other
    · subst hk
      obtain ⟨v, hv⟩ := Option.isSome_iff_exists.mp hsome
      rw [hv, Option.some_or]
    · rw [if_neg hk, Option.or_none]
  · rw [get?_append]
    rfl

/-- What is put under new keys one after the other adds what was not there. -/
theorem get?_foldl_putNew (more entries : Entries α β) (other : α) :
    get? other (more.foldl (fun es f => putNew f.1 f.2 es) entries) =
      (get? other entries).or (get? other more) := by
  induction more generalizing entries with
  | nil => rw [List.foldl_nil, get?, Option.or_none]
  | cons f more ih =>
    rw [List.foldl_cons, ih, get?_putNew, Option.or_assoc]
    congr 1
    rw [get?]
    split <;> rfl

/-- Of what is put one after the other, the last counts. -/
theorem get?_foldl_put (more entries : Entries α β) (other : α) :
    get? other (more.foldl (fun es f => put f.1 f.2 es) entries) =
      (get? other more.reverse).or (get? other entries) := by
  induction more generalizing entries with
  | nil => rfl
  | cons f more ih =>
    rw [List.foldl_cons, ih, get?_put, List.reverse_cons, get?_append, Option.or_assoc]
    congr 1
    rw [get?, get?]
    split <;> rfl

/-- What is in entries after a value was put there is the value or was there before. -/
theorem mem_put {entries : Entries α β} {key : α} {value : β} {e : α × β}
    (h : e ∈ put key value entries) : e = (key, value) ∨ e ∈ entries := by
  induction entries with
  | nil => exact .inl (List.mem_singleton.mp h)
  | cons first rest ih =>
    obtain ⟨k, v⟩ := first
    rw [put] at h
    split at h
    · case isTrue hk =>
      rw [hk] at h
      exact (List.mem_cons.mp h).imp_right (List.mem_cons_of_mem _)
    · rcases List.mem_cons.mp h with rfl | h
      · exact .inr List.mem_cons_self
      · exact (ih h).imp_right (List.mem_cons_of_mem _)

/-- What is in entries after values were put there is one of them or was there before. -/
theorem mem_foldl_put {more entries : Entries α β} {e : α × β}
    (h : e ∈ more.foldl (fun es f => put f.1 f.2 es) entries) : e ∈ more ∨ e ∈ entries := by
  induction more generalizing entries with
  | nil => exact .inr h
  | cons f more ih =>
    rcases ih h with h | h
    · exact .inl (List.mem_cons_of_mem f h)
    · rcases mem_put h with rfl | h
      · exact .inl List.mem_cons_self
      · exact .inr h

/-- A key that is dropped is not found, and the others stay. -/
theorem get?_erase (entries : Entries α β) (key other : α) :
    get? other (erase key entries) = if key = other then none else get? other entries := by
  induction entries with
  | nil => simp [erase, get?]
  | cons e rest ih =>
    obtain ⟨k, v⟩ := e
    unfold erase at ih ⊢
    by_cases hk : k = key
    · rw [List.filter_cons_of_neg (by simpa using hk), ih, get?, hk]
      split <;> rfl
    · rw [List.filter_cons_of_pos (by simpa using hk), get?, get?, ih]
      by_cases hother : k = other
      · rw [if_pos hother, if_pos hother, if_neg fun heq => hk (hother.trans heq.symm)]
      · rw [if_neg hother, if_neg hother]

/-! ## Different keys -/

/-- Writing an entry keeps the keys distinct. -/
theorem nodup_keys_put {entries : Entries α β} (h : (keys entries).Nodup) (key : α) (value : β) :
    (keys (put key value entries)).Nodup := by
  rw [keys_put]
  split
  · exact h
  · case isFalse hnew =>
    exact List.nodup_append.mpr ⟨h, by simp, fun k hk k' hk' heq =>
      hnew (List.mem_singleton.mp hk' ▸ heq ▸ hk)⟩

/-- Writing a new entry keeps the keys distinct. -/
theorem nodup_keys_putNew {entries : Entries α β} (h : (keys entries).Nodup) (key : α) (value : β) :
    (keys (putNew key value entries)).Nodup := by
  unfold putNew
  split
  · exact h
  · case isFalse hnone =>
    rw [← put_of_not_mem (fun hmem => hnone (isSome_get?_iff.mpr hmem))]
    exact nodup_keys_put h key value

/-- Writing many new entries keeps the keys distinct. -/
theorem nodup_keys_foldl_putNew {entries : Entries α β} (h : (keys entries).Nodup)
    (more : Entries α β) :
    (keys (more.foldl (fun es f => putNew f.1 f.2 es) entries)).Nodup := by
  induction more generalizing entries with
  | nil => exact h
  | cons f more ih => exact ih (nodup_keys_putNew h f.1 f.2)

/-- Taking an entry out keeps the keys distinct. -/
theorem nodup_keys_erase {entries : Entries α β} (h : (keys entries).Nodup) (key : α) :
    (keys (erase key entries)).Nodup :=
  h.sublist (List.filter_sublist.map Prod.fst)

end Entries

end IamLogin
