/-
  DropFlow/Text/Emphasis.lean
  ===========================
  Emphasis on a terminal, and the joining of words and numbers to one text.
-/
import DropFlow.Text.Decimal

namespace DropFlow.Text

/-! ### Words and numbers -/

/-- A word or a number of a message. -/
inductive Part where
  | word (s : String)
  | number (i : Int)
  deriving DecidableEq, Repr

def Part.text : Part → String
  | .word s => s
  | .number i => decimal i

/-- The parts one after the other; only two numbers in a row are divided by a space. -/
def joinParts : List Part → String
  | [] => ""
  | [p] => p.text
  | .number i :: .number j :: rest => decimal i ++ " " ++ joinParts (.number j :: rest)
  | p :: q :: rest => p.text ++ joinParts (q :: rest)

/-- A list of words between brackets, divided by spaces. -/
def bracketed (words : List String) : String := "[" ++ " ".intercalate words ++ "]"

/-! ### Emphasis -/

/-- The kinds of emphasis. -/
inductive Emphasis where
  | bold
  | faint
  | red
  | green
  | yellow
  | cyan
  deriving DecidableEq, Repr

/-- The codes that switch an emphasis on. -/
def Emphasis.codes : Emphasis → String
  | .bold => "1"
  | .faint => "2"
  | .red => "1;31"
  | .green => "1;32"
  | .yellow => "1;33"
  | .cyan => "1;36"

/-- A text with emphasis, if `colored`; otherwise the text alone. -/
def Emphasis.apply (e : Emphasis) (colored : Bool) (s : String) : String :=
  if colored then "\x1b[" ++ e.codes ++ "m" ++ s ++ "\x1b[0m" else s

end DropFlow.Text
