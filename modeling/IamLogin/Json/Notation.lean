import IamLogin.Json.Basic
import IamLogin.Number.Decimal
import IamLogin.Number.Shortest
import IamLogin.Text.Quoted

/-!
# Showing received values in messages

A message that mentions a received value shows it in a notation of its own: texts in quotes, lists
in brackets, objects in braces, and the words `None`, `True`, `False`, `nan` and `inf`. A text that
stands alone in a message, and not inside another value, is shown as it is.
-/

namespace IamLogin.Json

namespace Notation

/-- The words for numbers that have no digits. -/
def words : Double.Words := ⟨"nan", "inf"⟩

mutual

/-- A value in the notation. -/
def value : Json → List Char
  | .null => "None".toList
  | .bool true => "True".toList
  | .bool false => "False".toList
  | .int n => Decimal.ofInt n
  | .float x => x.render words
  | .str t => Quoted.ofText t
  | .arr [] => ['[', ']']
  | .arr (item :: more) => '[' :: (value item ++ items more)
  | .obj [] => ['{', '}']
  | .obj ((name, member) :: more) =>
    '{' :: (Quoted.ofText name ++ [':', ' '] ++ value member ++ members more)

/-- The items after the first, and the closing bracket. -/
def items : List Json → List Char
  | [] => [']']
  | item :: more => ',' :: ' ' :: (value item ++ items more)

/-- The members after the first, and the closing brace. -/
def members : List (Text × Json) → List Char
  | [] => ['}']
  | (name, member) :: more =>
    ',' :: ' ' :: (Quoted.ofText name ++ [':', ' '] ++ value member ++ members more)

end

end Notation

/-- A value in the notation, texts in quotes. -/
def inspect (v : Json) : String := String.ofList (Notation.value v)

/-- A value in the notation, but a text as it is. -/
def display : Json → Text
  | .str t => t
  | v => Text.ofString v.inspect

end IamLogin.Json
