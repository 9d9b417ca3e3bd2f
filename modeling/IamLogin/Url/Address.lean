import IamLogin.Number.Decimal
import IamLogin.Text.Hex
import IamLogin.Text.Pieces

/-!
# Numeric host addresses

Which hosts look like numeric addresses, and which of those are valid ones. Four numbers with
points between them look like an address of the older kind, so such a host is not taken for
a name; something in brackets is an address of the newer kind.
-/

namespace IamLogin.Address

/-- Whether a host looks like an address of the older kind: four numbers with points between
them. -/
def looksNumeric (host : List Char) : Bool :=
  let parts := pieces '.' host
  parts.length == 4 && parts.all fun part => !part.isEmpty && part.all Decimal.isDigit

/-- A number of an address: up to three digits, no leading zero, below 256. -/
def isOctet (digits : List Char) : Bool :=
  !digits.isEmpty && digits.all Decimal.isDigit && digits.length ≤ 3 &&
    (digits == ['0'] || digits.head? != some '0') && Decimal.value digits ≤ 255

/-- Four numbers with points between them. -/
def isVersion4 (host : List Char) : Bool :=
  let parts := pieces '.' host
  parts.length == 4 && parts.all isOctet

/-- A group of the newer kind of address: up to four hexadecimal digits. -/
def isGroup (digits : List Char) : Bool :=
  !digits.isEmpty && digits.length ≤ 4 && digits.all fun c => (Hex.value? c).isSome

/-- The groups of an address, with an address of the older kind at the end counted as two. -/
def groups? (address : List Char) : Option (List (List Char)) :=
  let parts := pieces ':' address
  let last := parts.getLast?.getD []
  if last.contains '.' then
    if isVersion4 last then some (parts.dropLast ++ [['0'], ['0']]) else none
  else some parts

/-- Eight groups with colons between them, where one run of zero groups may be left out by writing
two colons. -/
def hasGroups (address : List Char) : Bool :=
  3 ≤ (pieces ':' address).length &&
  match groups? address with
  | none => false
  | some parts =>
    let skips := (List.range parts.length).filter fun i =>
      0 < i ∧ i + 1 < parts.length ∧ parts[i]? = some []
    match skips with
    | [] => parts.length == 8 && parts.all isGroup
    | [skip] =>
      let before := parts.take skip
      let after := parts.drop (skip + 1)
      let before := if before.head? = some [] then before.drop 1 else before
      let after := if after.getLast? = some [] then after.dropLast else after
      parts.length ≤ 9 && before.all isGroup && after.all isGroup &&
        (parts.head? != some [] || before.isEmpty) &&
        (parts.getLast? != some [] || after.isEmpty) &&
        before.length + after.length < 8
    | _ => false

/-- An address of the newer kind, with or without a zone after a percent sign. -/
def isVersion6 (address : List Char) : Bool :=
  match cutFirst '%' address with
  | (address, none) => hasGroups address
  | (address, some zone) => !zone.isEmpty && !zone.contains '%' && hasGroups address

example : isVersion6 "::1".toList = true := by decide +kernel
example : isVersion6 "2001:db8::1".toList = true := by decide +kernel
example : isVersion6 "::".toList = true := by decide +kernel
example : isVersion6 "1::".toList = true := by decide +kernel
example : isVersion6 "::ffff:1.2.3.4".toList = true := by decide +kernel
example : isVersion6 "1:2:3:4:5:6:7:8".toList = true := by decide +kernel
example : isVersion6 "1:2:3:4:5:6:7::".toList = true := by decide +kernel
example : isVersion6 "1:2:3:4:5:6:7:8::".toList = false := by decide +kernel
example : isVersion6 ":1:2:3:4:5:6:7".toList = false := by decide +kernel
example : isVersion6 "::g".toList = false := by decide +kernel
example : looksNumeric "1.2.3".toList = false := by decide +kernel
example : looksNumeric "1.2.3-4".toList = false := by decide +kernel
example : looksNumeric "1.2.3.256".toList = true := by decide +kernel
example : isVersion4 "01.2.3.4".toList = false := by decide +kernel

end IamLogin.Address
