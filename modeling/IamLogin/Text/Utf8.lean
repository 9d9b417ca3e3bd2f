import IamLogin.Text.Basic

/-!
# UTF-8

Characters as bytes and bytes as symbols. Reading runs over the bytes with a small state: either
between characters, or inside one with some bytes still to come. A leading byte fixes how many
bytes follow and which values the next one may take, so overlong forms and values beyond the last
code point are refused where they begin.

There are two readings. `Utf8.decode?` refuses anything ill formed but lets an encoded surrogate
half through. `Utf8.decodeLossy` never refuses: each longest ill-formed piece becomes one
replacement character, and an encoded half is ill formed.
-/

namespace IamLogin.Utf8

/-- The bytes of some characters. -/
def encode (cs : List Char) : List UInt8 := cs.flatMap String.utf8EncodeChar

/-- A character under way: how many bytes are missing, the bits so far, and the range in which
the next byte must lie. -/
structure Pending where
  /-- Bytes still to come. -/
  missing : Nat
  /-- The bits read so far. -/
  bits : Nat
  /-- Least value of the next byte. -/
  low : Nat := 0x80
  /-- Greatest value of the next byte. -/
  high : Nat := 0xBF

/-- What a byte announces at the start of a character; `none` for a byte that starts nothing.
`halves` says whether encoded surrogate halves count as well formed. -/
def start? (halves : Bool) (b : Nat) : Option Pending :=
  if b < 0x80 then some { missing := 0, bits := b }
  else if b < 0xC2 then none
  else if b ≤ 0xDF then some { missing := 1, bits := b - 0xC0 }
  else if b = 0xE0 then some { missing := 2, bits := 0, low := 0xA0 }
  else if b = 0xED ∧ halves = false then some { missing := 2, bits := 0xD, high := 0x9F }
  else if b ≤ 0xEF then some { missing := 2, bits := b - 0xE0 }
  else if b = 0xF0 then some { missing := 3, bits := 0, low := 0x90 }
  else if b ≤ 0xF3 then some { missing := 3, bits := b - 0xF0 }
  else if b = 0xF4 then some { missing := 3, bits := 4, high := 0x8F }
  else none

/-- One more byte of a character under way; `none` if it does not continue it. -/
def Pending.next? (p : Pending) (b : Nat) : Option Pending :=
  if p.low ≤ b ∧ b ≤ p.high then
    some { missing := p.missing - 1, bits := p.bits * 64 + (b - 0x80) }
  else none

/-- Where reading stands after a byte: in the middle of a character, or at the end of one. -/
def settle (done : Text) (p : Pending) : Text × Option Pending :=
  if p.missing = 0 then (((Symbol.ofCode? p.bits).getD (.char '\uFFFD')) :: done, none)
  else (done, some p)

/-- Read on, with the symbols so far in reverse and the character under way. -/
def decodeFrom : Text → Option Pending → List UInt8 → Option Text
  | done, none, [] => some done.reverse
  | _, some _, [] => none
  | done, none, b :: bytes => do
    let p ← start? true b.toNat
    let (done, under) := settle done p
    decodeFrom done under bytes
  | done, some p, b :: bytes => do
    let p ← p.next? b.toNat
    let (done, under) := settle done p
    decodeFrom done under bytes

/-- The text in the bytes, or `none` if they are ill formed. Encoded halves are let through. -/
def decode? (bytes : List UInt8) : Option Text := decodeFrom [] none bytes

/-- Begin a character at a byte; a byte that begins none is replaced. -/
def startLossy (done : Text) (b : Nat) : Text × Option Pending :=
  match start? false b with
  | none => (.char '\uFFFD' :: done, none)
  | some p => settle done p

/-- Read on without refusing anything. -/
def decodeLossyFrom : Text → Option Pending → List UInt8 → Text
  | done, none, [] => done.reverse
  | done, some _, [] => (Symbol.char '\uFFFD' :: done).reverse
  | done, none, b :: bytes =>
    let (done, under) := startLossy done b.toNat
    decodeLossyFrom done under bytes
  | done, some p, b :: bytes =>
    let (done, under) :=
      match p.next? b.toNat with
      | some p => settle done p
      | none => startLossy (.char '\uFFFD' :: done) b.toNat
    decodeLossyFrom done under bytes

/-- The characters in the bytes, with each longest ill-formed piece replaced. -/
def decodeLossy (bytes : List UInt8) : List Char := (decodeLossyFrom [] none bytes).toCharsLossy

end IamLogin.Utf8
