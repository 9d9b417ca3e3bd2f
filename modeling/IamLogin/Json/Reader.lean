import IamLogin.Json.Basic
import IamLogin.Number.Decimal
import IamLogin.Text.Hex

/-!
# Reading JSON

Reading from a text. Beyond the standard, the words `NaN`, `Infinity` and `-Infinity` are read as
numbers, a lone surrogate escape is read as a half, a number too large becomes infinity, and of
members with the same name the last one counts, in the place of the first.

Three things stop a reading: text that is no JSON, an integer with more digits than are
converted, and containers nested more deeply than the reader goes. The fault that is met first
from the left is the one reported.

Every reader takes the text from its place on and gives back what it read together with the rest.
-/

namespace IamLogin.Json

/-- The two kinds of container. -/
inductive Container where
  /-- A list. -/
  | array
  /-- An object. -/
  | object
deriving DecidableEq, Repr

/-- Why a text or some bytes could not be read. -/
inductive Fault where
  /-- The bytes are no text in their encoding. -/
  | encoding
  /-- The text is no JSON. -/
  | malformed
  /-- An integer has more digits than are converted. -/
  | hugeInteger
  /-- A container of this kind is nested too deeply. -/
  | tooDeep (container : Container)
deriving DecidableEq, Repr

namespace Reader

/-- Integers with more digits than this are not converted. -/
def digitLimit : Nat := 4300

/-- Containers nested more deeply than this are not read. How many can be opened depends on the calls
that are going on; this is what is left to a reader that is called by a client. -/
def depthLimit : Nat := 990

/-- The blanks between tokens. -/
def isGap (s : Symbol) : Bool :=
  s = .char ' ' ∨ s = .char '\t' ∨ s = .char '\n' ∨ s = .char '\r'

/-- The text after its leading blanks. -/
def skipGaps (t : Text) : Text := t.dropWhile isGap

/-! ## Strings -/

/-- Where reading stands inside a string. `joinable` says that the last symbol is a high half
written as an escape, so that an escaped low half completes a character with it. -/
inductive StringState where
  /-- Between symbols. -/
  | plain (joinable : Bool)
  /-- After a backslash. -/
  | escape (joinable : Bool)
  /-- Inside a numeric escape, with some digits to come and the value so far. -/
  | digits (joinable : Bool) (missing value : Nat)

/-- The character that a one-letter escape stands for. -/
def escaped? : Symbol → Option Char
  | .char '"' => some '"'
  | .char '\\' => some '\\'
  | .char '/' => some '/'
  | .char 'b' => some '\x08'
  | .char 'f' => some '\x0C'
  | .char 'n' => some '\n'
  | .char 'r' => some '\r'
  | .char 't' => some '\t'
  | _ => none

/-- High halves come first in a pair. -/
def isHigh (n : Nat) : Bool := 0xD800 ≤ n ∧ n ≤ 0xDBFF

/-- Low halves come second in a pair. -/
def isLow (n : Nat) : Bool := 0xDC00 ≤ n ∧ n ≤ 0xDFFF

/-- The code point of a pair of halves. -/
def pairCode (high low : Nat) : Nat := 0x10000 + (high - 0xD800) * 0x400 + (low - 0xDC00)

/-- The symbols so far, in reverse, after the numeric escape of a 16-bit value. -/
def pushUnit (joinable : Bool) (done : Text) (value : Nat) : Text :=
  match joinable && isLow value, done with
  | true, high :: done => ((Symbol.ofCode? (pairCode high.code value)).getD high) :: done
  | _, done => ((Symbol.ofCode? value).getD (.char '\uFFFD')) :: done

/-- The string up to its closing quote, and the text after it. The symbols so far are carried in
reverse. -/
def string : StringState → Text → Text → Except Fault (Text × Text)
  | _, _, [] => .error .malformed
  | .plain joinable, done, s :: rest =>
    if s = .char '"' then .ok (done.reverse, rest)
    else if s = .char '\\' then string (.escape joinable) done rest
    else if s.code < 0x20 then .error .malformed
    else string (.plain false) (s :: done) rest
  | .escape joinable, done, s :: rest =>
    if s = .char 'u' then string (.digits joinable 4 0) done rest
    else match escaped? s with
      | some c => string (.plain false) (.char c :: done) rest
      | none => .error .malformed
  | .digits joinable missing value, done, s :: rest =>
    match s.toChar?.bind Hex.value? with
    | none => .error .malformed
    | some digit =>
      let value := value * 16 + digit
      if missing ≤ 1 then
        string (.plain (isHigh value)) (pushUnit joinable done value) rest
      else string (.digits joinable (missing - 1) value) done rest

/-! ## Numbers -/

/-- The run of digits in front, and the text after it. -/
def digitRun (done : List Char) : Text → List Char × Text
  | .char c :: rest =>
    if Decimal.isDigit c then digitRun (c :: done) rest else (done.reverse, .char c :: rest)
  | rest => (done.reverse, rest)

/-- The digits before any point: a single zero, or a run that does not begin with one. -/
def wholeDigits : Text → Option (List Char × Text)
  | .char '0' :: rest => some (['0'], rest)
  | t => match digitRun [] t with
    | ([], _) => none
    | (digits, rest) => some (digits, rest)

/-- The digits after a point, if there are any. -/
def fraction? : Text → Option (List Char × Text)
  | .char '.' :: rest => match digitRun [] rest with
    | ([], _) => none
    | (digits, rest) => some (digits, rest)
  | _ => none

/-- The digits of an exponent, with its sign in front. -/
def signedDigits (t : Text) : Option (Int × Text) :=
  let (negative, rest) := match t with
    | .char '-' :: rest => (true, rest)
    | .char '+' :: rest => (false, rest)
    | rest => (false, rest)
  match digitRun [] rest with
  | ([], _) => none
  | (digits, rest) => some (Decimal.signed negative digits, rest)

/-- An exponent, if there is one. -/
def exponent? : Text → Option (Int × Text)
  | .char 'e' :: rest => signedDigits rest
  | .char 'E' :: rest => signedDigits rest
  | _ => none

/-- A number without its sign. The longest number in front is taken. -/
def number (negative : Bool) (t : Text) : Except Fault (Json × Text) :=
  match wholeDigits t with
  | none => .error .malformed
  | some (whole, rest) =>
    match fraction? rest with
    | some (fraction, rest) =>
      let (exponent, rest) := (exponent? rest).getD (0, rest)
      .ok (.float (.ofDecimal negative (Decimal.value (whole ++ fraction))
        (exponent - fraction.length)), rest)
    | none =>
      match exponent? rest with
      | some (exponent, rest) =>
        .ok (.float (.ofDecimal negative (Decimal.value whole) exponent), rest)
      | none =>
        if whole.length > digitLimit then .error .hugeInteger
        else .ok (.int (Decimal.signed negative whole), rest)

/-! ## Values -/

/-- The text after a word that must come first. -/
def word : List Char → Text → Option Text
  | [], rest => some rest
  | c :: cs, s :: rest => if s = .char c then word cs rest else none
  | _ :: _, [] => none

/-- A value spelt as a word. -/
def constant (t : Text) : Option (Json × Text) :=
  match t with
  | .char 'n' :: rest => (word "ull".toList rest).map (Json.null, ·)
  | .char 't' :: rest => (word "rue".toList rest).map (Json.bool true, ·)
  | .char 'f' :: rest => (word "alse".toList rest).map (Json.bool false, ·)
  | .char 'N' :: rest => (word "aN".toList rest).map (Json.float .nan, ·)
  | .char 'I' :: rest => (word "nfinity".toList rest).map (Json.float (.infinity false), ·)
  | _ => none

/-- A value that is no container. -/
def scalar (t : Text) : Except Fault (Json × Text) :=
  match t with
  | .char '"' :: rest => do
    let (text, rest) ← string (.plain false) [] rest
    .ok (.str text, rest)
  | .char '-' :: rest =>
    match word "Infinity".toList rest with
    | some rest => .ok (.float (.infinity true), rest)
    | none => number true rest
  | _ =>
    match constant t with
    | some found => .ok found
    | none => number false t

/-- The name of a member, up to and with its colon. -/
def memberName : Text → Except Fault (Text × Text)
  | .char '"' :: rest => do
    let (name, rest) ← string (.plain false) [] rest
    match skipGaps rest with
    | .char ':' :: rest => .ok (name, skipGaps rest)
    | _ => .error .malformed
  | _ => .error .malformed

mutual

/-- A value at the front of the text. `room` is how many more containers may be nested. -/
def value : Nat → Nat → Text → Except Fault (Json × Text)
  | 0, _, _ => .error .malformed
  | fuel + 1, room, t =>
    match t with
    | .char '[' :: rest =>
      match room with
      | 0 => .error (.tooDeep .array)
      | room + 1 =>
        match skipGaps rest with
        | .char ']' :: rest => .ok (.arr [], rest)
        | rest => items fuel room [] rest
    | .char '{' :: rest =>
      match room with
      | 0 => .error (.tooDeep .object)
      | room + 1 =>
        match skipGaps rest with
        | .char '}' :: rest => .ok (.obj [], rest)
        | rest => members fuel room [] rest
    | t => scalar t

/-- The items of a list from an item on, with those before it in reverse. -/
def items : Nat → Nat → List Json → Text → Except Fault (Json × Text)
  | 0, _, _, _ => .error .malformed
  | fuel + 1, room, done, t => do
    let (item, rest) ← value fuel room t
    match skipGaps rest with
    | .char ']' :: rest => .ok (.arr (item :: done).reverse, rest)
    | .char ',' :: rest => items fuel room (item :: done) (skipGaps rest)
    | _ => .error .malformed

/-- The members of an object from a name on, with those before it. -/
def members : Nat → Nat → Members → Text → Except Fault (Json × Text)
  | 0, _, _, _ => .error .malformed
  | fuel + 1, room, done, t => do
    let (name, rest) ← memberName t
    let (member, rest) ← value fuel room rest
    match skipGaps rest with
    | .char '}' :: rest => .ok (.obj (Entries.put name member done), rest)
    | .char ',' :: rest => members fuel room (Entries.put name member done) (skipGaps rest)
    | _ => .error .malformed

end

end Reader

/-- The value a text holds, with nothing but blanks around it. Each step down or on consumes a
symbol, so twice the length of the text bounds the steps. -/
def read (t : Text) : Except Fault Json := do
  let (found, rest) ← Reader.value (2 * t.length + 2) Reader.depthLimit (Reader.skipGaps t)
  match Reader.skipGaps rest with
  | [] => .ok found
  | _ => .error .malformed

end IamLogin.Json
