/-
  DropFlow/Yaml/Cursor.lean
  =========================
  A position in a YAML text: the characters still to be read, and where the
  first of them stands.  The end of the text reads as the character NUL, which
  no accepted text contains, so that every look-ahead is total.
-/

namespace DropFlow.Yaml

/-! ### Character classes -/

/-- The character that stands for the end of the text. -/
def endMark : Char := Char.ofNat 0

def isBlank (c : Char) : Bool := c == ' ' || c == '\t'

/-- A character that ends a line. -/
def isBreak (c : Char) : Bool :=
  c == '\n' || c == '\r' || c.toNat == 0x85 || c.toNat == 0x2028 || c.toNat == 0x2029

def isEnd (c : Char) : Bool := c == endMark

def isBreakOrEnd (c : Char) : Bool := isBreak c || isEnd c

def isBlankOrEnd (c : Char) : Bool := isBlank c || isBreakOrEnd c

/-- A character of an anchor name or of a tag handle. -/
def isWordChar (c : Char) : Bool := c.isAlphanum || c == '_' || c == '-'

/-- The characters that a text may contain at all; the others make it unreadable. -/
def isAllowed (c : Char) : Bool :=
  let n := c.toNat
  n == 0x09 || n == 0x0A || n == 0x0D || (0x20 ≤ n && n ≤ 0x7E) || n == 0x85 ||
  (0xA0 ≤ n && n ≤ 0xD7FF) || (0xE000 ≤ n && n ≤ 0xFFFD) || 0x10000 ≤ n

/-! ### Positions -/

/-- Where a character stands: its line and column, both counted from zero, and the number
    of characters before it. -/
structure Mark where
  index : Nat := 0
  line : Nat := 0
  column : Nat := 0
  deriving DecidableEq, Repr, Inhabited

/-- The characters still to be read, and the mark of the first of them. -/
structure Cursor where
  rest : List Char
  mark : Mark := {}
  deriving Repr, Inhabited

namespace Cursor

/-- The character `k` places ahead. -/
def at' (c : Cursor) (k : Nat) : Char := c.rest.getD k endMark

def peek (c : Cursor) : Char := c.rest.headD endMark

/-- Passes one character of the current line. -/
def skip (c : Cursor) : Cursor :=
  match c.rest with
  | [] => c
  | _ :: rest =>
    { rest, mark := { c.mark with index := c.mark.index + 1, column := c.mark.column + 1 } }

/-- Passes `n` characters of the current line. -/
def skipMany : Nat → Cursor → Cursor
  | 0, c => c
  | n + 1, c => skipMany n c.skip

/-- Passes one line break; a carriage return and a line feed together are one. -/
def skipLine (c : Cursor) : Cursor :=
  match c.rest with
  | '\r' :: '\n' :: rest =>
    { rest, mark := { index := c.mark.index + 2, line := c.mark.line + 1, column := 0 } }
  | b :: rest =>
    if isBreak b then
      { rest, mark := { index := c.mark.index + 1, line := c.mark.line + 1, column := 0 } }
    else c
  | [] => c

/-- Passes one line break and gives the character that the break contributes to a scalar:
    the separators of lines and paragraphs are kept, every other break is a line feed. -/
def readLine (c : Cursor) : Cursor × List Char :=
  let b := c.peek
  if !isBreak b then (c, [])
  else if b.toNat == 0x2028 || b.toNat == 0x2029 then (c.skipLine, [b])
  else (c.skipLine, ['\n'])

/-- Passes the characters of the current line that satisfy `p`, at most `fuel` of them. -/
def skipWhile (p : Char → Bool) : Nat → Cursor → Cursor
  | 0, c => c
  | fuel + 1, c => if !isEnd c.peek && p c.peek then skipWhile p fuel c.skip else c

/-- The characters of the current line that satisfy `p`, at most `fuel` of them. -/
def takeWhile (p : Char → Bool) : Nat → Cursor → Cursor × List Char
  | 0, c => (c, [])
  | fuel + 1, c =>
    if !isEnd c.peek && p c.peek then
      let (c', cs) := takeWhile p fuel c.skip
      (c', c.peek :: cs)
    else (c, [])

/-- Whether a document marker made of three `dash` characters starts here. -/
def atMarker (dash : Char) (c : Cursor) : Bool :=
  c.mark.column == 0 && c.at' 0 == dash && c.at' 1 == dash && c.at' 2 == dash &&
  isBlankOrEnd (c.at' 3)

/-- Whether a marker that starts or ends a document stands here. -/
def atDocumentMarker (c : Cursor) : Bool := c.atMarker '-' || c.atMarker '.'

end Cursor

end DropFlow.Yaml
