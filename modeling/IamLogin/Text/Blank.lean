import IamLogin.Text.Basic

/-!
# Blank characters

Two sets of white space are in use. A text typed by a person counts as blank by the wider set,
which also holds the four information separators; a number written as text is trimmed by the
Unicode property `White_Space`.
-/

namespace IamLogin

/-- The Unicode property `White_Space`. -/
def isWhiteSpace (c : Char) : Bool :=
  let n := c.toNat
  (0x09 ≤ n ∧ n ≤ 0x0D) ∨ n = 0x20 ∨ n = 0x85 ∨ n = 0xA0 ∨ n = 0x1680 ∨
    (0x2000 ≤ n ∧ n ≤ 0x200A) ∨ n = 0x2028 ∨ n = 0x2029 ∨ n = 0x202F ∨ n = 0x205F ∨ n = 0x3000

/-- White space, and the information separators `1C` to `1F`. -/
def isBlank (c : Char) : Bool := isWhiteSpace c ∨ (0x1C ≤ c.toNat ∧ c.toNat ≤ 0x1F)

variable {α : Type}

/-- A list without the items at either end that satisfy `p`. -/
def trimBoth (p : α → Bool) (cs : List α) : List α :=
  ((cs.dropWhile p).reverse.dropWhile p).reverse

/-- A list without the items at the end that satisfy `p`. -/
def trimEnd (p : α → Bool) (cs : List α) : List α :=
  (cs.reverse.dropWhile p).reverse

/-- What is left is what stands between ends that satisfy `p`, if it has no such ends itself. -/
theorem trimBoth_append_append {p : α → Bool} {before middle after : List α}
    (hbefore : ∀ c ∈ before, p c = true) (hafter : ∀ c ∈ after, p c = true)
    (hfront : ∀ c, middle.head? = some c → p c = false)
    (hback : ∀ c, middle.getLast? = some c → p c = false) :
    trimBoth p (before ++ middle ++ after) = middle := by
  have hdrop : ∀ cs : List α, (∀ c, cs.head? = some c → p c = false) → cs.dropWhile p = cs := by
    intro cs hcs
    cases cs with
    | nil => rfl
    | cons c rest => exact List.dropWhile_cons_of_neg (by simp [hcs c rfl])
  rw [trimBoth, List.append_assoc, List.dropWhile_append_of_pos hbefore]
  cases middle with
  | nil =>
    rw [List.nil_append, ← List.append_nil after, List.dropWhile_append_of_pos hafter]
    rfl
  | cons c rest =>
    have hafter' : ∀ d ∈ after.reverse, p d = true := fun d hd => hafter d (List.mem_reverse.mp hd)
    have hback' : ∀ d, (c :: rest).reverse.head? = some d → p d = false := by
      rwa [List.head?_reverse]
    rw [hdrop (c :: rest ++ after) (by simpa using hfront), List.reverse_append,
      List.dropWhile_append_of_pos hafter', hdrop (c :: rest).reverse hback', List.reverse_reverse]

/-- Whether a symbol is a blank character. -/
def Symbol.isBlank : Symbol → Bool
  | .char c => IamLogin.isBlank c
  | .half _ => false

/-- Whether a text has nothing in it but blanks. -/
def Text.allBlank (t : Text) : Bool := t.all Symbol.isBlank

end IamLogin
