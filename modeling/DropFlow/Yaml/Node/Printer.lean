/-
  DropFlow/Yaml/Node/Printer.lean
  ===============================
  Trees as text, in block style.

  A text is written plain when it reads back as text and its characters allow it;
  otherwise it is quoted, single quotes first, double quotes with escapes when
  nothing else will do.  A text of several lines becomes a literal block.
-/
import DropFlow.Yaml.Node

namespace DropFlow.Yaml

open DropFlow.Text

/-! ### 1. Which style a text asks for -/

/-- Whether a text reads as a number in base sixty under the older rules: digits, then groups
    of at most two digits after colons, the first of two below six, then maybe a fraction. -/
def isSexagesimal (text : String) : Bool :=
  let cs := match text.toList with
    | '+' :: rest => rest
    | '-' :: rest => rest
    | cs => cs
  match cs with
  | [] => false
  | d :: _ =>
    let rest := cs.dropWhile fun c => c.isDigit || c == '_'
    d.isDigit && rest.head? == some ':' && groups (rest.length + 1) rest
where
  /-- One or more groups, then maybe a fraction. -/
  groups : Nat → List Char → Bool
    | 0, _ => false
    | fuel + 1, ':' :: a :: b :: rest =>
      if a.isDigit && b.isDigit then
        a.toNat < 54 && (ends rest || groups fuel rest)
      else a.isDigit && (ends (b :: rest) || groups fuel (b :: rest))
    | _ + 1, [':', a] => a.isDigit
    | _ + 1, _ => false
  /-- The end, or a fraction up to the end. -/
  ends : List Char → Bool
    | [] => true
    | '.' :: rest => rest.all fun c => c.isDigit || c == '_'
    | _ => false

/-- Whether a text reads as a truth value under the older rules. -/
def isOldBool (text : String) : Bool :=
  ["y", "Y", "yes", "Yes", "YES", "on", "On", "ON",
   "n", "N", "no", "No", "NO", "off", "Off", "OFF"].contains text

/-- The style in which a text would be read as text. -/
def wantedStyle (text : String) : Style :=
  let plainly := (Scalar.ofPlain true text).tag == "!!str" &&
    !(isSexagesimal text || isOldBool text)
  if text.toList.contains '\n' then .literal
  else if plainly then .plain else .doubleQuoted

/-! ### 2. Which style the characters allow -/

/-- The characters that are written as themselves. -/
def isShown (c : Char) : Bool :=
  let n := c.toNat
  n == 0x0A || (0x20 ≤ n && n ≤ 0x7E) || (0xA0 ≤ n && n ≤ 0xD7FF) ||
  (0xE000 ≤ n && n ≤ 0xFFFD && n != 0xFEFF)

/-- What the characters of a text forbid. -/
structure Traits where
  indicator : Bool := false
  breaks : Bool := false
  special : Bool := false
  tab : Bool := false
  leadingSpace : Bool := false
  trailingSpace : Bool := false
  edgeBreak : Bool := false
  breakThenSpace : Bool := false
  spaceThenBreak : Bool := false

/-- Whether a character in its place would be read as an indicator in a plain scalar. -/
def isIndicatorAt (first : Bool) (before : Char) (c : Char) (after : Option Char) : Bool :=
  let spaced := match after with
    | none => true
    | some a => isBlank a
  if first then
    "#,[]\x7b\x7d&*!|>'\"%@`".toList.contains c || ((c == '?' || c == ':' || c == '-') && spaced)
  else (c == ':' && spaced) || (c == '#' && isBlankOrEnd before)

/-- The traits of a text, from left to right. -/
def traitsFrom (first : Bool) (before : Char) (t : Traits) : List Char → Traits
  | [] => t
  | c :: rest =>
    let last := rest.isEmpty
    let t := { t with
      indicator := t.indicator || isIndicatorAt first before c rest.head?
      tab := t.tab || c == '\t'
      special := t.special || (c != '\t' && !isShown c) }
    let t :=
      if c == ' ' then
        { t with
          leadingSpace := t.leadingSpace || first
          trailingSpace := t.trailingSpace || last
          breakThenSpace := t.breakThenSpace || (!first && isBreak before) }
      else if isBreak c then
        { t with
          breaks := true
          edgeBreak := t.edgeBreak || first || last
          spaceThenBreak := t.spaceThenBreak || (!first && before == ' ') }
      else t
    traitsFrom false c t rest

def traits (text : String) : Traits :=
  let cs := text.toList
  let marker := cs.take 3 == ['-', '-', '-'] || cs.take 3 == ['.', '.', '.']
  traitsFrom true ' ' { indicator := marker } cs

/-- The style in which a text is written when `style` is wanted. -/
def allowedStyle (style : Style) (text : String) : Style :=
  let t := traits text
  let empty := text.isEmpty
  let plain := !(t.leadingSpace || t.trailingSpace || t.edgeBreak || t.breakThenSpace ||
    t.spaceThenBreak || t.tab || t.special || t.breaks || t.indicator)
  let single := !(t.breakThenSpace || t.spaceThenBreak || t.tab || t.special)
  let block := !empty && !(t.trailingSpace || t.spaceThenBreak || t.special)
  match style with
  | .plain => if plain then .plain else if single then .singleQuoted else .doubleQuoted
  | .singleQuoted => if single then .singleQuoted else .doubleQuoted
  | .doubleQuoted => .doubleQuoted
  | .literal => if block then .literal else .doubleQuoted
  | .folded => if block then .folded else .doubleQuoted

/-! ### 3. Writing a scalar -/

/-- An upper-case hexadecimal digit. -/
def upperHex (d : Nat) : Char :=
  if d < 10 then Char.ofNat (48 + d) else Char.ofNat (55 + d)

/-- The `width` lowest hexadecimal digits of a number. -/
def upperHexDigits : Nat → Nat → List Char
  | 0, _ => []
  | width + 1, n => upperHexDigits width (n / 16) ++ [upperHex (n % 16)]

/-- The letter of a short escape. -/
def escapeLetter? (c : Char) : Option Char :=
  match c.toNat with
  | 0x00 => some '0'
  | 0x07 => some 'a'
  | 0x08 => some 'b'
  | 0x09 => some 't'
  | 0x0A => some 'n'
  | 0x0B => some 'v'
  | 0x0C => some 'f'
  | 0x0D => some 'r'
  | 0x1B => some 'e'
  | 0x22 => some '"'
  | 0x5C => some '\\'
  | 0x85 => some 'N'
  | 0xA0 => some '_'
  | 0x2028 => some 'L'
  | 0x2029 => some 'P'
  | _ => none

/-- A character between double quotes. -/
def doubleQuotedChar (c : Char) : List Char :=
  if isShown c && !isBreak c && c != '"' && c != '\\' then [c]
  else
    match escapeLetter? c with
    | some letter => ['\\', letter]
    | none =>
      let n := c.toNat
      if n ≤ 0xFF then '\\' :: 'x' :: upperHexDigits 2 n
      else if n ≤ 0xFFFF then '\\' :: 'u' :: upperHexDigits 4 n
      else '\\' :: 'U' :: upperHexDigits 8 n

/-- The blanks in front of a line. -/
def margin (indent : Nat) : List Char := List.replicate indent ' '

/-- The lines of a block or of a quoted text of several lines; a line that starts right after
    a separator other than a line feed is moved to a line of its own. -/
def indentedLines (indent : Nat) (write : Char → List Char) : Option Char → List Char → List Char
  | _, [] => []
  | before, c :: rest =>
    let lead := match before with
      | none => []
      | some b =>
        if isBreak b && !isBreak c then
          (if b == '\n' then [] else ['\n']) ++ margin indent
        else []
    lead ++ write c ++ indentedLines indent write (some c) rest

/-- The indicators after the bar of a literal block. -/
def blockHints (step : Nat) (cs : List Char) : List Char :=
  let lead := match cs with
    | c :: _ => if c == ' ' || isBreak c then digits step else []
    | [] => []
  let chomp := match cs.reverse with
    | [] => ['-']
    | c :: rest =>
      if !isBreak c then ['-']
      else
        match rest with
        | [] => ['+']
        | d :: _ => if isBreak d then ['+'] else []
  lead ++ chomp

/-- A scalar with the line break after it; `indent` is the column of its own lines. -/
def scalarLines (step indent : Nat) (style : Style) (text : String) : List Char :=
  let cs := text.toList
  match allowedStyle style text with
  | .plain => cs ++ ['\n']
  | .singleQuoted =>
    let write := fun c => if c == '\'' then ['\'', '\''] else [c]
    '\'' :: indentedLines indent write none cs ++ ['\'', '\n']
  | .doubleQuoted => '"' :: cs.flatMap doubleQuotedChar ++ ['"', '\n']
  | .literal | .folded =>
    let opened := match cs with
      | c :: _ => if isBreak c then [] else '\n' :: margin indent
      | [] => ['\n']
    let closed := match cs.reverse with
      | c :: _ => if isBreak c then [] else ['\n']
      | [] => []
    '|' :: blockHints step cs ++ opened ++ indentedLines indent (fun c => [c]) none cs ++ closed

/-! ### 4. Writing a tree -/

/-- The next column of the grid of `step` columns. -/
def nextColumn (step column : Nat) : Nat := step * ((column + step) / step)

/-- A tree after the colon of its key or after its dash, with the line break that ends it.
    `column` is the column of that key or dash, `inSequence` tells which of the two it is. -/
def Tree.written (step column : Nat) (inSequence : Bool) : Tree → List Char
  | .text s =>
    let inner := if inSequence then column + 2 else nextColumn step column
    ' ' :: scalarLines step inner (wantedStyle s) s
  | .int i => ' ' :: scalarLines step 0 .plain (decimal i)
  | .bool b => ' ' :: scalarLines step 0 .plain (if b then "true" else "false")
  | .list [] => [' ', '[', ']', '\n']
  | .list (n :: rest) =>
    let inner := if inSequence then column + 2 else nextColumn step column
    if inSequence then ' ' :: '-' :: n.written step inner true ++ items step inner rest
    else '\n' :: items step inner (n :: rest)
  | .fields [] => [' ', '{', '}', '\n']
  | .fields ((k, v) :: rest) =>
    let inner := if inSequence then column + 2 else nextColumn step column
    if inSequence then
      ' ' :: k.toList ++ ':' :: v.written step inner false ++ entries step inner rest
    else '\n' :: (margin inner ++ k.toList ++ ':' :: v.written step inner false) ++
      entries step inner rest
where
  /-- The items of a list, each on its line. -/
  items (step column : Nat) : List Tree → List Char
    | [] => []
    | n :: rest => margin column ++ '-' :: n.written step column true ++ items step column rest
  /-- The entries of a mapping, each on its line, with plain keys. -/
  entries (step column : Nat) : List (String × Tree) → List Char
    | [] => []
    | (k, v) :: rest =>
      margin column ++ k.toList ++ ':' :: v.written step column false ++ entries step column rest

/-- A document whose root is a mapping, indented by `step` columns for each level. -/
def Tree.render (step : Nat) : Tree → String
  | .fields [] => "{}\n"
  | .fields es => String.ofList (Tree.written.entries step 0 es)
  | n => String.ofList ((n.written step 0 true).drop 1)

end DropFlow.Yaml
