/-!
# Base 64

Bytes as text in the standard alphabet with padding, and back. Reading takes complete groups of
four only.
-/

namespace IamLogin.Base64

/-- The digit of a six-bit number. -/
def digit (n : Nat) : Char :=
  let n := n % 64
  if n < 26 then Char.ofNat ('A'.toNat + n)
  else if n < 52 then Char.ofNat ('a'.toNat + (n - 26))
  else if n < 62 then Char.ofNat ('0'.toNat + (n - 52))
  else if n = 62 then '+' else '/'

/-- The number of a digit. -/
def value? (c : Char) : Option Nat :=
  if 'A' ≤ c ∧ c ≤ 'Z' then some (c.toNat - 'A'.toNat)
  else if 'a' ≤ c ∧ c ≤ 'z' then some (c.toNat - 'a'.toNat + 26)
  else if '0' ≤ c ∧ c ≤ '9' then some (c.toNat - '0'.toNat + 52)
  else if c = '+' then some 62
  else if c = '/' then some 63
  else none

/-- Three bytes give four digits; a shorter end is padded. -/
def encode : List UInt8 → List Char
  | [] => []
  | [a] => [digit (a.toNat / 4), digit (a.toNat % 4 * 16), '=', '=']
  | [a, b] =>
    [digit (a.toNat / 4), digit (a.toNat % 4 * 16 + b.toNat / 16), digit (b.toNat % 16 * 4), '=']
  | a :: b :: c :: rest =>
    digit (a.toNat / 4) :: digit (a.toNat % 4 * 16 + b.toNat / 16) ::
      digit (b.toNat % 16 * 4 + c.toNat / 64) :: digit (c.toNat % 64) :: encode rest

/-- Read on, with the bytes so far in reverse. -/
def decodeOnto (done : List UInt8) : List Char → Option (List UInt8)
  | [] => some done.reverse
  | [a, b, '=', '='] => do
    let a ← value? a
    let b ← value? b
    some (.ofNat (a * 4 + b / 16) :: done).reverse
  | [a, b, c, '='] => do
    let a ← value? a
    let b ← value? b
    let c ← value? c
    some (.ofNat (b % 16 * 16 + c / 4) :: .ofNat (a * 4 + b / 16) :: done).reverse
  | a :: b :: c :: d :: rest => do
    let a ← value? a
    let b ← value? b
    let c ← value? c
    let d ← value? d
    decodeOnto (.ofNat (c % 4 * 64 + d) :: .ofNat (b % 16 * 16 + c / 4) ::
      .ofNat (a * 4 + b / 16) :: done) rest
  | _ => none

/-- The bytes written in the text, or `none` if it is no complete base 64 text. -/
def decode? (cs : List Char) : Option (List UInt8) := decodeOnto [] cs

example : String.ofList (encode [117, 58, 112, 119]) = "dTpwdw==" := by decide +kernel
example : decode? "dTpwdw==".toList = some [117, 58, 112, 119] := by decide +kernel

end IamLogin.Base64
