/-!
# Entries

Keys with values in the order in which the keys first came. Writing to a key that is present keeps
its place; a new key goes to the end. Every object, event and environment is kept this way, because
its order shows in what is written.
-/

namespace IamLogin

/-- Keys with values, in order. -/
abbrev Entries (α β : Type) := List (α × β)

namespace Entries

variable {α β : Type} [DecidableEq α]

/-- The value under a key. -/
def get? (key : α) : Entries α β → Option β
  | [] => none
  | (k, v) :: rest => if k = key then some v else get? key rest

/-- Put a value under a key: in the key's place if it has one, else at the end. -/
def put (key : α) (value : β) : Entries α β → Entries α β
  | [] => [(key, value)]
  | (k, v) :: rest => if k = key then (k, value) :: rest else (k, v) :: put key value rest

/-- Put a value under a key that has none yet. -/
def putNew (key : α) (value : β) (entries : Entries α β) : Entries α β :=
  if (get? key entries).isSome then entries else entries ++ [(key, value)]

/-- Drop a key. -/
def erase (key : α) (entries : Entries α β) : Entries α β := entries.filter fun e => e.1 ≠ key

/-- Entries from pairs that may repeat a key: its first place, its last value. -/
def ofList (pairs : List (α × β)) : Entries α β := pairs.foldl (fun es p => put p.1 p.2 es) []

/-- The keys in order. -/
def keys (entries : Entries α β) : List α := entries.map Prod.fst

/-- What was put under a key is found there, and nothing changes under other keys. -/
theorem get?_put (entries : Entries α β) (key other : α) (value : β) :
    get? other (put key value entries) =
      if key = other then some value else get? other entries := by
  induction entries with
  | nil => simp [put, get?]
  | cons e rest ih =>
    obtain ⟨k, v⟩ := e
    by_cases hk : k = key
    · subst hk
      by_cases ho : k = other <;> simp [put, get?, ho]
    · by_cases hko : k = other
      · subst hko
        have : ¬ key = k := fun h => hk h.symm
        simp [put, get?, hk, this]
      · simp [put, get?, hk, hko, ih]

/-- A key that is present keeps its place, and a new one goes to the end. -/
theorem keys_put (entries : Entries α β) (key : α) (value : β) :
    keys (put key value entries) =
      if key ∈ keys entries then keys entries else keys entries ++ [key] := by
  induction entries with
  | nil => simp [put, keys]
  | cons e rest ih =>
    obtain ⟨k, v⟩ := e
    by_cases hk : k = key
    · subst hk
      simp [put, keys]
    · have hk' : ¬ key = k := fun h => hk h.symm
      have ih' : keys (put key value rest) =
          if key ∈ keys rest then keys rest else keys rest ++ [key] := ih
      have hput : keys (put key value ((k, v) :: rest)) = k :: keys (put key value rest) := by
        simp [put, hk, keys]
      have hkeys : keys ((k, v) :: rest) = k :: keys rest := rfl
      rw [hput, ih', hkeys]
      by_cases hm : key ∈ keys rest <;> simp [hm, hk']

/-- What is dropped from entries in two parts is dropped from both. -/
theorem erase_append (key : α) (entries more : Entries α β) :
    erase key (entries ++ more) = erase key entries ++ erase key more :=
  List.filter_append ..

/-- What was put under a key is dropped with it. -/
theorem erase_put (entries : Entries α β) (key : α) (value : β) :
    erase key (put key value entries) = erase key entries := by
  induction entries with
  | nil => simp [put, erase]
  | cons e rest ih =>
    obtain ⟨k, v⟩ := e
    unfold erase at ih ⊢
    by_cases hk : k = key
    · simp [put, hk]
    · rw [put, if_neg hk, List.filter_cons, List.filter_cons, ih]

end Entries

end IamLogin
