import IamLogin.Text.Hex
import IamLogin.Text.Utf8

/-!
# Percent-encoding

A part of a URL holds some characters as they are and the UTF-8 bytes of the others as escapes. Each
part has its own set of characters that stand for themselves; a percent sign stands for itself in
all of them, so what is escaped already stays as it is.
-/

namespace IamLogin.Percent

/-- The escape of a byte. -/
def byte (b : UInt8) : List Char := ['%', Hex.upper (b.toNat / 16), Hex.upper b.toNat]

/-- Text with the characters outside a set escaped. -/
def encode (plain : Char → Bool) (cs : List Char) : List Char :=
  cs.flatMap fun c => if plain c then [c] else (String.utf8EncodeChar c).flatMap byte

/-- The bytes a text stands for: an escape is its byte, and any other character its UTF-8 bytes. -/
def decodeOnto (done : List UInt8) : List Char → List UInt8
  | [] => done.reverse
  | '%' :: a :: b :: rest =>
    match Hex.value? a, Hex.value? b with
    | some a, some b => decodeOnto (.ofNat (a * 16 + b) :: done) rest
    | _, _ => decodeOnto (0x25 :: done) (a :: b :: rest)
  | c :: rest => decodeOnto ((String.utf8EncodeChar c).reverse ++ done) rest

/-- The bytes a text stands for. -/
def decode (cs : List Char) : List UInt8 := decodeOnto [] cs

/-- The characters a text stands for, with a replacement for bytes that are no UTF-8. -/
def decodeChars (cs : List Char) : List Char := Utf8.decodeLossy (decode cs)

/-- Printable ASCII but for the space. -/
def isVisible (c : Char) : Bool := 0x20 < c.toNat ∧ c.toNat < 0x7F

/-- What stands for itself in a query. -/
def inQuery (c : Char) : Bool := isVisible c ∧ ¬ ['"', '#', '<', '>'].contains c

/-- What stands for itself in a path. -/
def inPath (c : Char) : Bool := inQuery c ∧ ¬ ['?', '`', '{', '}'].contains c

/-- What stands for itself in a fragment. -/
def inFragment (c : Char) : Bool := isVisible c ∧ ¬ ['"', '<', '>', '`'].contains c

/-- What stands for itself in a user name and password. -/
def inUserinfo (c : Char) : Bool :=
  inPath c ∧ ¬ ['/', ';', '=', '@', '[', '\\', ']', '^', '|'].contains c

/-- What stands for itself in a host name. -/
def inHost (c : Char) : Bool :=
  c.isAlphanum ∨ ['-', '.', '_', '~', '!', '$', '&', '\'', '(', ')', '*', '+', ',', ';', '=',
    '"', '`', '{', '}', '%', '|', '\\'].contains c

end IamLogin.Percent
