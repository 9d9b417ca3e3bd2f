import IamLogin.Json.Reader
import IamLogin.Text.Utf8

/-!
# JSON in bytes

A received body says by its first bytes how it is encoded: by a byte order mark, or by where the
zero bytes fall, since JSON begins with ASCII. Encoded surrogate halves are let through in every
encoding; anything else ill formed is a fault.
-/

namespace IamLogin.Json

/-- An encoding of a text, with the order of bytes in a unit where that matters. -/
inductive Encoding where
  /-- One to four bytes a character. -/
  | utf8
  /-- Units of two bytes. -/
  | utf16 (bigEndian : Bool)
  /-- Units of four bytes. -/
  | utf32 (bigEndian : Bool)
deriving DecidableEq, Repr

namespace Encoding

/-- The byte order marks. A mark that begins with another one stands before it. -/
def marks : List (List UInt8 × Encoding) := [
  ([0x00, 0x00, 0xFE, 0xFF], .utf32 true),
  ([0xFF, 0xFE, 0x00, 0x00], .utf32 false),
  ([0xFE, 0xFF], .utf16 true),
  ([0xFF, 0xFE], .utf16 false),
  ([0xEF, 0xBB, 0xBF], .utf8)]

/-- The encoding of a body without a mark. -/
def ofZeros : List UInt8 → Encoding
  | a :: b :: c :: d :: _ =>
    if a = 0 then if b = 0 then .utf32 true else .utf16 true
    else if b = 0 then if c = 0 ∧ d = 0 then .utf32 false else .utf16 false
    else .utf8
  | [a, b] => if a = 0 then .utf16 true else if b = 0 then .utf16 false else .utf8
  | _ => .utf8

/-- The encoding of a body, and the bytes after any byte order mark. -/
def detect (bytes : List UInt8) : Encoding × List UInt8 :=
  match marks.find? fun m => m.1.isPrefixOf bytes with
  | some (mark, encoding) => (encoding, bytes.drop mark.length)
  | none => (ofZeros bytes, bytes)

/-- The units of two bytes, in reverse after those before; `none` if a byte is left over. -/
def units16 (bigEndian : Bool) (done : List Nat) : List UInt8 → Option (List Nat)
  | [] => some done.reverse
  | [_] => none
  | a :: b :: rest =>
    let unit := if bigEndian then a.toNat * 0x100 + b.toNat else b.toNat * 0x100 + a.toNat
    units16 bigEndian (unit :: done) rest

/-- The symbols of units of two bytes: a high half and the low half after it make a character. -/
def joinUnits (done : Text) : List Nat → Text
  | [] => done.reverse
  | [u] => ((Symbol.ofCode? u).toList ++ done).reverse
  | u :: v :: rest =>
    if Reader.isHigh u ∧ Reader.isLow v then
      joinUnits ((Symbol.ofCode? (Reader.pairCode u v)).toList ++ done) rest
    else joinUnits ((Symbol.ofCode? u).toList ++ done) (v :: rest)

/-- The symbols of units of four bytes; `none` beyond the last code point. -/
def units32 (bigEndian : Bool) (done : Text) : List UInt8 → Option Text
  | [] => some done.reverse
  | a :: b :: c :: d :: rest => do
    let code (a b c d : UInt8) : Nat :=
      ((a.toNat * 0x100 + b.toNat) * 0x100 + c.toNat) * 0x100 + d.toNat
    let s ← Symbol.ofCode? (if bigEndian then code a b c d else code d c b a)
    units32 bigEndian (s :: done) rest
  | _ => none

/-- The text in the bytes, or `none` if they are ill formed. -/
def decode? : Encoding → List UInt8 → Option Text
  | .utf8, bytes => Utf8.decode? bytes
  | .utf16 bigEndian, bytes => (units16 bigEndian [] bytes).map (joinUnits [])
  | .utf32 bigEndian, bytes => units32 bigEndian [] bytes

end Encoding

/-- The value in a received body. -/
def readBytes (body : List UInt8) : Except Fault Json :=
  let (encoding, bytes) := Encoding.detect body
  match encoding.decode? bytes with
  | none => .error .encoding
  | some t => read t

end IamLogin.Json
