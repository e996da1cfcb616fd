/-
  DropFlow/Text/Quoted.lean
  =========================
  Text in double quotes, with every character that is not printable written as
  an escape sequence.  Messages quote the names they mention this way, and the
  report strips escape sequences from variable names by the same rule.
-/
import DropFlow.Text.Printable

namespace DropFlow.Text

/-! ### Hexadecimal digits -/

def hexDigit (d : Nat) : Char :=
  if d < 10 then Char.ofNat (48 + d) else Char.ofNat (87 + d)

/-- The `width` lowest hexadecimal digits of a number. -/
def hexDigits : Nat → Nat → List Char
  | 0, _ => []
  | width + 1, n => hexDigits width (n / 16) ++ [hexDigit (n % 16)]

/-! ### Escapes -/

/-- The short escapes, by the letter that follows the backslash. -/
def shortEscape? (c : Char) : Option Char :=
  match c.toNat with
  | 7 => some 'a'
  | 8 => some 'b'
  | 9 => some 't'
  | 10 => some 'n'
  | 11 => some 'v'
  | 12 => some 'f'
  | 13 => some 'r'
  | _ => none

/-- How one character is written between double quotes. -/
def escapeChar (c : Char) : List Char :=
  if c = '"' ∨ c = '\\' then ['\\', c]
  else if isPrintable c then [c]
  else
    match shortEscape? c with
    | some letter => ['\\', letter]
    | none =>
      let n := c.toNat
      if n < 0x20 ∨ n = 0x7F then '\\' :: 'x' :: hexDigits 2 n
      else if n < 0x10000 then '\\' :: 'u' :: hexDigits 4 n
      else '\\' :: 'U' :: hexDigits 8 n

/-- A text with its escapes, without the surrounding quotes. -/
def escaped (s : String) : String := String.ofList (s.toList.flatMap escapeChar)

/-- A text in double quotes. -/
def quoted (s : String) : String := "\"" ++ escaped s ++ "\""

end DropFlow.Text
