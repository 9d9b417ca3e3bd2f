/-!
# Grouped digits

A run of digits in which single underscores may stand between two digits.
-/

namespace IamLogin.Grouped

/-- The values of the digits in a run, by a given reading of one digit; `none` if anything else
stands there, or an underscore does not stand between two digits. -/
def digits? (digit? : Char → Option Nat) : List Char → Option (List Nat)
  | [] => none
  | [c] => (digit? c).map ([·])
  | c :: '_' :: rest => do
    let digit ← digit? c
    let more ← digits? digit? rest
    return digit :: more
  | c :: rest => do
    let digit ← digit? c
    let more ← digits? digit? rest
    return digit :: more

/-- The number with these decimal digits. -/
def value (digits : List Nat) : Nat := digits.foldl (fun n d => 10 * n + d) 0

/-- A sign in front, and what follows it. -/
def sign : List Char → Bool × List Char
  | '-' :: rest => (true, rest)
  | '+' :: rest => (false, rest)
  | rest => (false, rest)

end IamLogin.Grouped
