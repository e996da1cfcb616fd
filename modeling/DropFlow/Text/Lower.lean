/-
  DropFlow/Text/Lower.lean
  ========================
  Lower case for comparing a text with words of ASCII letters.  Besides the capital
  letters of ASCII, two characters have an ASCII letter as their lower case: the
  capital i with a dot and the Kelvin sign.  All other characters stay, because none of
  them becomes a letter of such a word.
-/

namespace DropFlow.Text

/-- The lower case of a character, as far as it is an ASCII letter. -/
def lowerChar (c : Char) : Char :=
  if c.toNat = 0x130 then 'i' else if c.toNat = 0x212A then 'k' else c.toLower

/-- A text in lower case, as far as it is ASCII. -/
def lower (s : String) : String := String.ofList (s.toList.map lowerChar)

end DropFlow.Text
