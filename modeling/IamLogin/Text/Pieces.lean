/-!
# Texts in pieces

Cutting a text at every separator and putting the pieces together again.
-/

namespace IamLogin

variable {α : Type} [DecidableEq α]

/-- The pieces between separators; one more than there are separators. -/
def pieces (separator : α) (cs : List α) : List (List α) :=
  cs.foldr (fun c ps =>
    if c = separator then [] :: ps
    else match ps with
      | p :: ps => (c :: p) :: ps
      | [] => [[c]]) [[]]

/-- Pieces with a separator between each two. -/
def joinPieces (separator : Char) (ps : List (List Char)) : List Char :=
  [separator].intercalate ps

/-- The text up to the last separator and the text after it; `none` without a separator. -/
def cutLast? (separator : Char) (cs : List Char) : Option (List Char × List Char) :=
  let tail := (cs.reverse.takeWhile (· ≠ separator)).reverse
  if tail.length < cs.length then some (cs.take (cs.length - tail.length - 1), tail) else none

/-- The text up to the first separator and the text after it, if there is one. -/
def cutFirst (separator : Char) (cs : List Char) : List Char × Option (List Char) :=
  match cs.dropWhile (· ≠ separator) with
  | [] => (cs, none)
  | _ :: rest => (cs.takeWhile (· ≠ separator), some rest)

/-- Cutting gives at least one piece. -/
theorem pieces_ne_nil (separator : α) (cs : List α) : pieces separator cs ≠ [] := by
  cases cs with
  | nil => simp [pieces]
  | cons c cs =>
    simp only [pieces, List.foldr_cons]
    split
    · simp
    · split <;> simp

end IamLogin
