import IamLogin.Json.Reader
import IamLogin.Number.Shortest

/-!
# Writing JSON

Three places write JSON, each in its own style: a signed payload and a log line keep to ASCII, a
request body does not; a log line has blanks after its separators, the other two have none.
Everywhere the quote, the backslash and the controls are escaped, numbers with a point are written
in their shortest form, and a lone surrogate half, which has no other spelling, is escaped.

A writer has the limits of the reader: an integer with more digits than are converted is not written,
and neither are containers that are nested too deeply.
-/

namespace IamLogin.Json

/-- How JSON is laid out. -/
structure Style where
  /-- Whether everything but printable ASCII is escaped. -/
  ascii : Bool
  /-- What separates items and members. -/
  comma : List Char
  /-- What separates a name and its value. -/
  colon : List Char

/-- The style of payloads to be signed. -/
def Style.payload : Style := ⟨true, [','], [':']⟩

/-- The style of request bodies. -/
def Style.body : Style := ⟨false, [','], [':']⟩

/-- The style of log lines. -/
def Style.line : Style := ⟨true, [',', ' '], [':', ' ']⟩

namespace Writer

/-- The escape of a 16-bit value. -/
def unit (n : Nat) : List Char := '\\' :: 'u' :: Hex.padded 4 n

/-- A code point as one escape, or as two for a surrogate pair. -/
def codeEscape (n : Nat) : List Char :=
  if n < 0x10000 then unit n
  else unit (0xD800 + (n - 0x10000) / 0x400) ++ unit (0xDC00 + (n - 0x10000) % 0x400)

/-- A character inside a string. -/
def char (style : Style) (c : Char) : List Char :=
  if c = '"' then ['\\', '"']
  else if c = '\\' then ['\\', '\\']
  else if c = '\n' then ['\\', 'n']
  else if c = '\r' then ['\\', 'r']
  else if c = '\t' then ['\\', 't']
  else if c = '\x08' then ['\\', 'b']
  else if c = '\x0C' then ['\\', 'f']
  else if c.toNat < 0x20 ∨ (style.ascii ∧ 0x7F ≤ c.toNat) then codeEscape c.toNat
  else [c]

/-- A symbol inside a string. -/
def symbol (style : Style) : Symbol → List Char
  | .char c => char style c
  | .half h => unit h.code

/-- A text in double quotes. -/
def text (style : Style) (t : Text) : List Char := '"' :: (t.flatMap (symbol style) ++ ['"'])

/-- The words for numbers that have no digits. -/
def words : Double.Words := ⟨"NaN", "Infinity"⟩

mutual

/-- A value. -/
def value (style : Style) : Json → List Char
  | .null => "null".toList
  | .bool true => "true".toList
  | .bool false => "false".toList
  | .int n => Decimal.ofInt n
  | .float x => x.render words
  | .str t => text style t
  | .arr [] => ['[', ']']
  | .arr (item :: more) => '[' :: (value style item ++ items style more)
  | .obj [] => ['{', '}']
  | .obj ((name, member) :: more) =>
    '{' :: (text style name ++ style.colon ++ value style member ++ members style more)

/-- The items after the first, and the closing bracket. -/
def items (style : Style) : List Json → List Char
  | [] => [']']
  | item :: more => style.comma ++ value style item ++ items style more

/-- The members after the first, and the closing brace. -/
def members (style : Style) : List (Text × Json) → List Char
  | [] => ['}']
  | (name, member) :: more =>
    style.comma ++ text style name ++ style.colon ++ value style member ++ members style more

end

/-! ## Limits -/

/-- Why a value cannot be written. -/
inductive Fault where
  /-- An integer has more digits than are converted. -/
  | hugeInteger
  /-- A container is nested too deeply. -/
  | tooDeep
deriving DecidableEq, Repr

mutual

/-- What keeps a value from being written where the given number of containers can still be opened:
the fault that is met first from the left. -/
def fault? (room : Nat) : Json → Option Fault
  | .int n => if Reader.digitLimit < (Decimal.ofNat n.natAbs).length then some .hugeInteger else none
  | .arr content => if room = 0 then some .tooDeep else itemsFault? (room - 1) content
  | .obj content => if room = 0 then some .tooDeep else membersFault? (room - 1) content
  | _ => none

/-- What keeps items from being written. -/
def itemsFault? (room : Nat) : List Json → Option Fault
  | [] => none
  | item :: more => (fault? room item).or (itemsFault? room more)

/-- What keeps members from being written. -/
def membersFault? (room : Nat) : List (Text × Json) → Option Fault
  | [] => none
  | (_, member) :: more => (fault? room member).or (membersFault? room more)

end

end Writer

/-- A value as text, whatever the limits. -/
def render (style : Style) (v : Json) : String := String.ofList (Writer.value style v)

/-- A value as text, if it can be written. -/
def write (style : Style) (v : Json) : Except Writer.Fault String :=
  match Writer.fault? Reader.depthLimit v with
  | some fault => .error fault
  | none => .ok (render style v)

example : Writer.fault? 1 (.arr [.int 1, .arr []]) = some .tooDeep := by decide
example : Writer.fault? 2 (.arr [.int 1, .arr []]) = none := by decide

end IamLogin.Json
