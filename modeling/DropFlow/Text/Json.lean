/-
  DropFlow/Text/Json.lean
  =======================
  JSON documents as indented text.

  Strings are escaped so that the text can stand inside a web page: besides the quote,
  the backslash and the control characters, `<`, `>`, `&` and the two separators of
  lines and paragraphs are written as escapes.
-/
import DropFlow.Text.Decimal
import DropFlow.Text.Quoted

namespace DropFlow.Text

/-- A JSON document without fractions. -/
inductive Json where
  | null
  | number (i : Int)
  | string (s : String)
  | array (items : List Json)
  | object (fields : List (String × Json))
  deriving Repr, Inhabited

namespace Json

/-- How one character is written in a string. -/
def escapeChar (c : Char) : List Char :=
  let n := c.toNat
  if c = '"' ∨ c = '\\' then ['\\', c]
  else if n = 8 then ['\\', 'b']
  else if n = 9 then ['\\', 't']
  else if n = 10 then ['\\', 'n']
  else if n = 12 then ['\\', 'f']
  else if n = 13 then ['\\', 'r']
  else if n < 0x20 ∨ c = '<' ∨ c = '>' ∨ c = '&' ∨ n = 0x2028 ∨ n = 0x2029 then
    '\\' :: 'u' :: hexDigits 4 n
  else [c]

/-- A string between double quotes. -/
def stringText (s : String) : String :=
  "\"" ++ String.ofList (s.toList.flatMap escapeChar) ++ "\""

/-- A new line, two columns in for each level. -/
def newLine (level : Nat) : String := "\n" ++ String.ofList (List.replicate (2 * level) ' ')

mutual

def render (level : Nat) : Json → String
  | .null => "null"
  | .number i => decimal i
  | .string s => stringText s
  | .array [] => "[]"
  | .array (x :: xs) =>
    "[" ++ newLine (level + 1) ++ render (level + 1) x ++ renderItems (level + 1) xs ++
      newLine level ++ "]"
  | .object [] => "\x7b\x7d"
  | .object ((k, v) :: fs) =>
    "\x7b" ++ newLine (level + 1) ++ stringText k ++ ": " ++ render (level + 1) v ++
      renderFields (level + 1) fs ++ newLine level ++ "\x7d"

/-- The items of an array after the first. -/
def renderItems (level : Nat) : List Json → String
  | [] => ""
  | x :: xs => "," ++ newLine level ++ render level x ++ renderItems level xs

/-- The fields of an object after the first. -/
def renderFields (level : Nat) : List (String × Json) → String
  | [] => ""
  | (k, v) :: fs =>
    "," ++ newLine level ++ stringText k ++ ": " ++ render level v ++ renderFields level fs

end

/-- A document as a text that ends with a line break. -/
def text (j : Json) : String := j.render 0 ++ "\n"

end Json

end DropFlow.Text
