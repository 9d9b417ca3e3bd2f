import IamLogin.Failure.Basic

/-!
# Log levels by name

A log level is set by a word. The word is taken in capitals and looked up in a table, where a word
that is not found stands for the level of information. The table holds two words that name no level
but something else, and they are refused.
-/

namespace IamLogin.Log

/-- The capital form of a character, as far as it consists of capitals from A to Z. -/
def capital (c : Char) : List Char :=
  match c with
  | '\u0131' => ['I']
  | '\u017F' => ['S']
  | '\u00DF' => ['S', 'S']
  | '\uFB00' => ['F', 'F']
  | '\uFB01' => ['F', 'I']
  | '\uFB02' => ['F', 'L']
  | '\uFB03' => ['F', 'F', 'I']
  | '\uFB04' => ['F', 'F', 'L']
  | '\uFB05' => ['S', 'T']
  | '\uFB06' => ['S', 'T']
  | c => [c.toUpper]

/-- A word in capitals. -/
def capitals (word : String) : String := String.ofList (word.toList.flatMap capital)

/-- The number of the level of information. -/
def infoThreshold : Nat := 20

/-- The number of the level from which events are written when none is set. -/
def defaultThreshold : Nat := 30

/-- The layout under the word `BASIC_FORMAT`. -/
def basicLayout : String := "%(levelname)s:%(name)s:%(message)s"

/-- The layouts under the word `_STYLES`, as they are shown. -/
def styleTable : String :=
  "\x7b'%': (<class 'logging.PercentStyle'>, '%(levelname)s:%(name)s:%(message)s'), " ++
    "'\x7b': (<class 'logging.StrFormatStyle'>, " ++
    "'\x7blevelname\x7d:\x7bname\x7d:\x7bmessage\x7d'), " ++
    "'$': (<class 'logging.StringTemplateStyle'>, " ++
    "'$\x7blevelname\x7d:$\x7bname\x7d:$\x7bmessage\x7d')\x7d"

/-- The number of the least level that a word lets through. -/
def threshold (word : String) : Except Failure Nat :=
  match capitals word with
  | "CRITICAL" => .ok 50
  | "FATAL" => .ok 50
  | "ERROR" => .ok 40
  | "WARNING" => .ok 30
  | "WARN" => .ok 30
  | "INFO" => .ok 20
  | "DEBUG" => .ok 10
  | "NOTSET" => .ok 0
  | "BASIC_FORMAT" => .error (.unknownLevel basicLayout)
  | "_STYLES" => .error (.levelKind styleTable)
  | _ => .ok infoThreshold

end IamLogin.Log
