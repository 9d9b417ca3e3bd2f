import IamLogin.Text.Basic
import IamLogin.Text.Hex
import IamLogin.Text.Printable

/-!
# Quoted texts

How a text is shown between quotes in a message: in single quotes, unless it holds a single quote
and no double quote. The quote in use and the backslash are escaped, and so is everything that
is not printable, as a two-letter escape where there is one and else by its code point.
-/

namespace IamLogin.Quoted

/-- The quote a text is shown in. -/
def delimiter (t : Text) : Char :=
  if t.contains (.char '\'') ∧ ¬ t.contains (.char '"') then '"' else '\''

/-- A code point written out: two digits while they suffice, then four, then eight. -/
def numeric (code : Nat) : List Char :=
  if code < 0x100 then '\\' :: 'x' :: Hex.padded 2 code
  else if code < 0x10000 then '\\' :: 'u' :: Hex.padded 4 code
  else '\\' :: 'U' :: Hex.padded 8 code

/-- One symbol as it stands between quotes. -/
def escape (quote : Char) : Symbol → List Char
  | .half h => numeric h.code
  | .char c =>
    if c = '\\' then ['\\', '\\']
    else if c = quote then ['\\', c]
    else if c = '\n' then ['\\', 'n']
    else if c = '\r' then ['\\', 'r']
    else if c = '\t' then ['\\', 't']
    else if isPrintable c then [c]
    else numeric c.toNat

/-- A text in quotes. -/
def ofText (t : Text) : List Char :=
  let quote := delimiter t
  quote :: (t.flatMap (escape quote) ++ [quote])

/-- A string in quotes. -/
def ofString (s : String) : String := String.ofList (ofText (Text.ofString s))

/-- A text in quotes, or the word for nothing. -/
def ofText? : Option Text → List Char
  | none => "None".toList
  | some t => ofText t

example : ofString "it's" = "\"it's\"" := by decide +kernel
example : ofString "both ' and \"" = "'both \\' and \"'" := by decide +kernel
example : ofString "\x7f\n" = "'\\x7f\\n'" := by decide +kernel

end IamLogin.Quoted
