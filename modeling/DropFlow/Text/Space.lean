/-
  DropFlow/Text/Space.lean
  ========================
  White space and the two cuts that readers of small notations need: removing
  the white space around a text, and splitting a text at its first separator.

  The class is the Unicode property `White_Space`; the ASCII blanks are only a
  part of it, and texts here may hold any character.
-/

namespace DropFlow.Text

/-! ### The class -/

/-- The Unicode property `White_Space`. -/
def isSpace (c : Char) : Bool :=
  let n := c.toNat
  (9 ≤ n && n ≤ 13) || n == 0x20 || n == 0x85 || n == 0xA0 || n == 0x1680 ||
  (0x2000 ≤ n && n ≤ 0x200A) || n == 0x2028 || n == 0x2029 || n == 0x202F ||
  n == 0x205F || n == 0x3000

/-! ### Trimming -/

/-- A list of characters without the white space at either end. -/
def trimChars (cs : List Char) : List Char :=
  ((cs.dropWhile isSpace).reverse.dropWhile isSpace).reverse

def trim (s : String) : String := String.ofList (trimChars s.toList)

/-! ### Cutting at a separator -/

/-- The characters before the first `sep`, and those after it if there is one. -/
def cutChars (sep : Char) : List Char → List Char × Option (List Char)
  | [] => ([], none)
  | c :: rest =>
    if c = sep then ([], some rest)
    else
      let (before, after) := cutChars sep rest
      (c :: before, after)

/-- The pieces of a list between the occurrences of `sep`; there is always at least one. -/
def splitChars (sep : Char) : List Char → List (List Char)
  | [] => [[]]
  | c :: rest =>
    if c = sep then [] :: splitChars sep rest
    else
      match splitChars sep rest with
      | [] => [[c]]
      | piece :: pieces => (c :: piece) :: pieces

def split (sep : Char) (s : String) : List String :=
  (splitChars sep s.toList).map String.ofList

/-- The lines of a text: one final line break is dropped, and the empty text has no line. -/
def lines (s : String) : List String :=
  match s.toList with
  | [] => []
  | cs =>
    let body := match cs.reverse with
      | '\n' :: rest => rest.reverse
      | _ => cs
    (splitChars '\n' body).map String.ofList

end DropFlow.Text
