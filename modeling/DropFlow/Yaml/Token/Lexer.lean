/-
  DropFlow/Yaml/Token/Lexer.lean
  ==============================
  From characters to tokens.

  A key needs no mark of its own in YAML: `a: b` only turns out to be an entry of
  a mapping when the colon is met.  The lexer therefore remembers, for every
  nesting level, the last place where such a key could have started, and puts the
  missing tokens in front of it afterwards.  Indentation is tracked as a stack of
  columns; a line that starts left of the current column closes blocks.

  The lexer never fails: it yields the tokens in front of the first unreadable
  place together with the fact that the text stops there (`Tokens.readable`).
  Every loop is bounded by the number of characters of the text.
-/
import DropFlow.Yaml.Token

namespace DropFlow.Yaml

/-! ### 1. Quoted scalars -/

def hexValue? (c : Char) : Option Nat :=
  if '0' ≤ c ∧ c ≤ '9' then some (c.toNat - 48)
  else if 'a' ≤ c ∧ c ≤ 'f' then some (c.toNat - 87)
  else if 'A' ≤ c ∧ c ≤ 'F' then some (c.toNat - 55)
  else none

/-- The number written by `n` hexadecimal digits at the cursor. -/
def hexNumber? : Nat → Nat → Cursor → Option (Nat × Cursor)
  | 0, acc, c => some (acc, c)
  | n + 1, acc, c => do
    let d ← hexValue? c.peek
    hexNumber? n (16 * acc + d) c.skip

/-- The character of an escape sequence of one letter. -/
def letterEscape? (c : Char) : Option Char :=
  match c with
  | '0' => some (Char.ofNat 0)
  | 'a' => some (Char.ofNat 7)
  | 'b' => some (Char.ofNat 8)
  | 't' => some '\t'
  | '\t' => some '\t'
  | 'n' => some '\n'
  | 'v' => some (Char.ofNat 11)
  | 'f' => some (Char.ofNat 12)
  | 'r' => some '\r'
  | 'e' => some (Char.ofNat 27)
  | ' ' => some ' '
  | '"' => some '"'
  | '\'' => some '\''
  | '\\' => some '\\'
  | 'N' => some (Char.ofNat 0x85)
  | '_' => some (Char.ofNat 0xA0)
  | 'L' => some (Char.ofNat 0x2028)
  | 'P' => some (Char.ofNat 0x2029)
  | _ => none

/-- The number of digits of an escape that gives a code point. -/
def escapeWidth? (c : Char) : Option Nat :=
  match c with
  | 'x' => some 2
  | 'u' => some 4
  | 'U' => some 8
  | _ => none

/-- Reads an escape sequence; the cursor stands on the backslash. -/
def escape? (c : Cursor) : Option (Char × Cursor) := do
  let letter := c.at' 1
  let after := c.skip.skip
  match letterEscape? letter with
  | some ch => some (ch, after)
  | none =>
    let width ← escapeWidth? letter
    let (n, after) ← hexNumber? width 0 after
    -- surrogates and what lies beyond the last plane are no characters
    if (0xD800 ≤ n ∧ n ≤ 0xDFFF) ∨ 0x10FFFF < n then none
    else some (Char.ofNat n, after)

/-- The non-blank run of a quoted scalar, in reverse, put in front of `acc`.  The flag tells
    that the run ended with an escaped line break. -/
def quotedRun? (single : Bool) : Nat → Cursor → List Char → Option (Cursor × List Char × Bool)
  | 0, _, _ => none
  | fuel + 1, c, acc =>
    let ch := c.peek
    if isBlankOrEnd ch then some (c, acc, false)
    else if single then
      if ch == '\'' && c.at' 1 == '\'' then quotedRun? single fuel c.skip.skip ('\'' :: acc)
      else if ch == '\'' then some (c, acc, false)
      else quotedRun? single fuel c.skip (ch :: acc)
    else if ch == '"' then some (c, acc, false)
    else if ch == '\\' && isBreak (c.at' 1) then some (c.skip.skipLine, acc, true)
    else if ch == '\\' then
      match escape? c with
      | none => none
      | some (e, c') => quotedRun? single fuel c' (e :: acc)
    else quotedRun? single fuel c.skip (ch :: acc)

/-- The white space between two runs of a scalar that spans lines: the blanks of the current
    line, the first line break and the further ones. -/
structure Gap where
  blanks : List Char := []
  firstBreak : List Char := []
  moreBreaks : List Char := []
  broken : Bool := false
  deriving Repr, Inhabited

/-- What a gap contributes to a folded scalar: a single break becomes a space, further breaks
    are kept, and blanks count only when the line goes on. -/
def Gap.folded (g : Gap) : List Char :=
  if g.broken then
    match g.firstBreak with
    | '\n' :: _ => if g.moreBreaks.isEmpty then [' '] else g.moreBreaks
    | first => first ++ g.moreBreaks
  else g.blanks

/-- Passes blanks and line breaks and records them.  With `margin` set, a tab left of that
    column on a later line is refused. -/
def gap? (margin : Option Int) : Nat → Cursor → Gap → Option (Cursor × Gap)
  | 0, _, _ => none
  | fuel + 1, c, g =>
    let ch := c.peek
    if isBlank ch then
      match margin with
      | some m =>
        if g.broken && decide ((c.mark.column : Int) < m) && ch == '\t' then none
        else if g.broken then gap? margin fuel c.skip g
        else gap? margin fuel c.skip { g with blanks := g.blanks ++ [ch] }
      | none =>
        if g.broken then gap? margin fuel c.skip g
        else gap? margin fuel c.skip { g with blanks := g.blanks ++ [ch] }
    else if isBreak ch then
      let (c', b) := c.readLine
      if g.broken then gap? margin fuel c' { g with moreBreaks := g.moreBreaks ++ b }
      else gap? margin fuel c' { g with blanks := [], firstBreak := b, broken := true }
    else some (c, g)

/-- The text of a quoted scalar after its opening quote, up to the closing one. -/
def quotedBody? (single : Bool) : Nat → Cursor → List Char → Option (Cursor × List Char)
  | 0, _, _ => none
  | fuel + 1, c, acc =>
    if c.atDocumentMarker || isEnd c.peek then none
    else
      match quotedRun? single (c.rest.length + 1) c acc with
      | none => none
      | some (c, acc, escapedBreak) =>
        if c.peek == (if single then '\'' else '"') then some (c.skip, acc)
        else
          match gap? none (c.rest.length + 1) c { broken := escapedBreak } with
          | none => none
          | some (c, g) => quotedBody? single fuel c (g.folded.reverse ++ acc)

/-- Reads a quoted scalar; the cursor stands on its opening quote. -/
def quotedScalar? (single : Bool) (c : Cursor) : Option (Token × Cursor) := do
  let (c', body) ← quotedBody? single (c.rest.length + 1) c.skip []
  let style := if single then Style.singleQuoted else Style.doubleQuoted
  let text := String.ofList body.reverse
  some ({ kind := .scalar style text, start := c.mark, stop := c'.mark }, c')

/-! ### 2. Plain scalars -/

/-- Whether a plain scalar ends before the next character. -/
def endsPlain (inFlow : Bool) (c : Cursor) : Bool :=
  let ch := c.peek
  (ch == ':' && isBlankOrEnd (c.at' 1)) ||
  (inFlow && (ch == ',' || ch == '?' || ch == '[' || ch == ']' || ch == '{' || ch == '}'))

/-- The non-blank run of a plain scalar, in reverse, put in front of `acc`. -/
def plainRun (inFlow : Bool) : Nat → Cursor → List Char → Cursor × List Char
  | 0, c, acc => (c, acc)
  | fuel + 1, c, acc =>
    if isBlankOrEnd c.peek || endsPlain inFlow c then (c, acc)
    else plainRun inFlow fuel c.skip (c.peek :: acc)

/-- The text of a plain scalar.  `pending` is the gap before the cursor, which counts only if
    more text follows; the result tells where the text ended, the cursor after the gap, and
    whether that gap held a line break. -/
def plainBody? (inFlow : Bool) (margin : Int) :
    Nat → Cursor → Mark → Gap → List Char → Option (Cursor × Mark × Bool × List Char)
  | 0, _, _, _, _ => none
  | fuel + 1, c, stop, pending, acc =>
    if c.atDocumentMarker || c.peek == '#' then some (c, stop, pending.broken, acc)
    else if isBlankOrEnd c.peek || endsPlain inFlow c then some (c, stop, pending.broken, acc)
    else
      let (c, acc) := plainRun inFlow (c.rest.length + 1) c (pending.folded.reverse ++ acc)
      let stop := c.mark
      if !(isBlank c.peek || isBreak c.peek) then some (c, stop, false, acc)
      else
        match gap? (some margin) (c.rest.length + 1) c {} with
        | none => none
        | some (c, g) =>
          if !inFlow && decide ((c.mark.column : Int) < margin) then some (c, stop, g.broken, acc)
          else plainBody? inFlow margin fuel c stop g acc

/-- Reads a plain scalar.  The flag tells that a line break follows the text, so that a key
    may start again. -/
def plainScalar? (inFlow : Bool) (indent : Int) (c : Cursor) : Option (Token × Cursor × Bool) := do
  let (c', stop, broken, body) ←
    plainBody? inFlow (indent + 1) (c.rest.length + 1) c c.mark {} []
  some ({ kind := .scalar .plain (String.ofList body.reverse), start := c.mark, stop }, c', broken)

/-! ### 3. Block scalars -/

/-- What happens to the line breaks at the end of a block scalar. -/
inductive Chomping where
  | strip
  | clip
  | keep
  deriving DecidableEq, Repr

def chomping? (c : Char) : Option Chomping :=
  match c with
  | '+' => some .keep
  | '-' => some .strip
  | _ => none

/-- Reads an indentation indicator: a digit that is not zero.  The outer option tells an
    indicator of zero, which is refused. -/
def indentIndicator? (c : Cursor) : Option (Nat × Cursor) :=
  if c.peek == '0' then none
  else if c.peek.isDigit then some (c.peek.toNat - 48, c.skip)
  else some (0, c)

/-- The indicators after `|` or `>`, in either order. -/
def blockHeader? (c : Cursor) : Option (Chomping × Nat × Cursor) :=
  match chomping? c.peek with
  | some ch =>
    match indentIndicator? c.skip with
    | none => none
    | some (n, c) => some (ch, n, c)
  | none =>
    match indentIndicator? c with
    | none => none
    | some (0, c) => some (.clip, 0, c)
    | some (n, c) =>
      match chomping? c.peek with
      | some ch => some (ch, n, c.skip)
      | none => some (.clip, n, c)

/-- The indentation and the empty lines in front of a line of a block scalar.  While the
    indentation is still unknown (`indent = 0`) the widest one is recorded. -/
def blockBreaks? (indent : Nat) :
    Nat → Cursor → Nat → List Char → Option (Cursor × Nat × List Char)
  | 0, _, _, _ => none
  | fuel + 1, c, widest, breaks =>
    let c := if indent == 0 then c.skipWhile (· == ' ') c.rest.length
      else c.skipWhile (· == ' ') (indent - c.mark.column)
    let widest := max widest c.mark.column
    if (indent == 0 || decide (c.mark.column < indent)) && c.peek == '\t' then none
    else if !isBreak c.peek then some (c, widest, breaks)
    else
      let (c, b) := c.readLine
      blockBreaks? indent fuel c widest (breaks ++ b)

/-- The lines of a block scalar.  `lead` is the break that ended the line before and
    `breaks` the empty lines after it; `afterBlank` tells that the line before started with a
    blank, which keeps its break from being folded. -/
def blockLines? (literal : Bool) (indent : Nat) :
    Nat → Cursor → List Char → List Char → List Char → Bool →
      Option (Cursor × List Char × List Char × List Char)
  | 0, _, _, _, _, _ => none
  | fuel + 1, c, acc, lead, breaks, afterBlank =>
    if c.mark.column == indent && !isEnd c.peek then
      let blank := isBlank c.peek
      let foldable := !literal && !afterBlank && !blank && lead.head? == some '\n'
      let joined := if foldable then (if breaks.isEmpty then [' '] else []) else lead
      let acc := acc ++ joined ++ breaks
      let (c, line) := c.takeWhile (fun ch => !isBreakOrEnd ch) (c.rest.length + 1)
      let (c, lead) := c.readLine
      match blockBreaks? indent (c.rest.length + 1) c 0 [] with
      | none => none
      | some (c, _, breaks) => blockLines? literal indent fuel c (acc ++ line) lead breaks blank
    else some (c, acc, lead, breaks)

/-- Reads a block scalar; the cursor stands on its `|` or `>`. -/
def blockScalar? (literal : Bool) (indent : Int) (c : Cursor) : Option (Token × Cursor) := do
  let start := c.mark
  let (chomp, increment, c) ← blockHeader? c.skip
  let c := c.skipWhile isBlank (c.rest.length + 1)
  let c := if c.peek == '#' then c.skipWhile (fun ch => !isBreakOrEnd ch) (c.rest.length + 1) else c
  if !isBreakOrEnd c.peek then none
  let c := c.skipLine
  let given : Nat :=
    if increment == 0 then 0 else if 0 ≤ indent then indent.toNat + increment else increment
  let (c, widest, breaks) ← blockBreaks? given (c.rest.length + 1) c 0 []
  -- the lines up to the first that is not empty set the column, right of the enclosing block
  let column := if given == 0 then max (max widest (indent + 1).toNat) 1 else given
  let (c, text, lead, breaks) ← blockLines? literal column (c.rest.length + 2) c [] [] breaks false
  let text := match chomp with
    | .strip => text
    | .clip => text ++ lead
    | .keep => text ++ lead ++ breaks
  let style := if literal then Style.literal else Style.folded
  some ({ kind := .scalar style (String.ofList text), start, stop := c.mark }, c)

/-! ### 4. Anchors, tags and directives -/

/-- Reads the name after `&` or `*`. -/
def anchorName? (c : Cursor) : Option (String × Cursor) :=
  let (c, name) := c.skip.takeWhile isWordChar (c.rest.length + 1)
  let ch := c.peek
  if name.isEmpty then none
  else if isBlankOrEnd ch || ch == '?' || ch == ':' || ch == ',' || ch == ']' || ch == '}' ||
      ch == '%' || ch == '@' || ch == '`' then some (String.ofList name, c)
  else none

/-- A character of a tag, apart from escapes. -/
def isTagChar (c : Char) : Bool :=
  isWordChar c || c == ';' || c == '/' || c == '?' || c == ':' || c == '@' || c == '&' ||
  c == '=' || c == '+' || c == '$' || c == '.' || c == '!' || c == '~' || c == '*' ||
  c == '\'' || c == '(' || c == ')' || c == '[' || c == ']'

/-- The characters of a tag, with `%xx` escapes of ASCII characters undone. -/
def tagChars? : Nat → Cursor → List Char → Option (Cursor × List Char)
  | 0, _, _ => none
  | fuel + 1, c, acc =>
    if c.peek == '%' then
      match hexNumber? 2 0 c.skip with
      | none => none
      | some (n, c) => if n < 0x80 then tagChars? fuel c (acc ++ [Char.ofNat n]) else none
    else if isTagChar c.peek && !isEnd c.peek then tagChars? fuel c.skip (acc ++ [c.peek])
    else some (c, acc)

/-- Reads a tag; the cursor stands on its `!`. -/
def tag? (c : Cursor) : Option (Token × Cursor) := do
  let start := c.mark
  let fuel := c.rest.length + 1
  let (handle, suffix, c) ←
    if c.at' 1 == '<' then do
      let (c, uri) ← tagChars? fuel c.skip.skip []
      if uri.isEmpty || c.peek != '>' then none
      else some ("", String.ofList uri, c.skip)
    else do
      let (c', word) := c.skip.takeWhile isWordChar fuel
      if c'.peek == '!' then
        let (c', uri) ← tagChars? fuel c'.skip []
        if uri.isEmpty then none
        else some ("!" ++ String.ofList word ++ "!", String.ofList uri, c')
      else
        let (c', uri) ← tagChars? fuel c' word
        if uri.isEmpty then some ("", "!", c') else some ("!", String.ofList uri, c')
  if !isBlankOrEnd c.peek then none
  some ({ kind := .tag handle suffix, start, stop := c.mark }, c)

/-- A decimal number of a version directive, of at most nine digits. -/
def versionNumber? (c : Cursor) : Option (Nat × Cursor) :=
  let (c, ds) := c.takeWhile Char.isDigit (c.rest.length + 1)
  if ds.isEmpty || 9 < ds.length then none
  else some (ds.foldl (fun n d => 10 * n + (d.toNat - 48)) 0, c)

/-- Reads a directive; the cursor stands on its `%`. -/
def directive? (c : Cursor) : Option (Token × Cursor) := do
  let start := c.mark
  let fuel := c.rest.length + 1
  let (c, name) := c.skip.takeWhile isWordChar fuel
  if name.isEmpty || !isBlankOrEnd c.peek then none
  let c := c.skipWhile isBlank fuel
  let (kind, c) ←
    match String.ofList name with
    | "YAML" => do
      let (major, c) ← versionNumber? c
      if c.peek != '.' then none
      let (minor, c) ← versionNumber? c.skip
      some (Token.Kind.versionDirective major minor, c)
    | "TAG" => do
      if c.peek != '!' then none
      let (c, word) := c.skip.takeWhile isWordChar fuel
      let (handle, c) ←
        if c.peek == '!' then some ("!" ++ String.ofList word ++ "!", c.skip)
        else if word.isEmpty then some ("!", c) else none
      if !isBlank c.peek then none
      let c := c.skipWhile isBlank fuel
      let (c, uri) ← tagChars? fuel c []
      if uri.isEmpty || !isBlankOrEnd c.peek then none
      some (Token.Kind.tagDirective handle (String.ofList uri), c)
    | _ => none
  let stop := c.mark
  let c := c.skipWhile isBlank fuel
  let c := if c.peek == '#' then c.skipWhile (fun ch => !isBreakOrEnd ch) fuel else c
  if !isBreakOrEnd c.peek then none
  some ({ kind, start, stop }, c.skipLine)

/-! ### 5. The state of the lexer -/

/-- A place where a key without a mark of its own may have started. -/
structure KeyPlace where
  required : Bool
  position : Nat
  mark : Mark
  deriving Repr, Inhabited

/-- The state between two tokens. -/
structure Lexer where
  cursor : Cursor
  toks : Array Token := #[]
  /-- The column of the innermost open block, `-1` outside every block. -/
  indent : Int := -1
  indents : List Int := []
  keyAllowed : Bool := true
  /-- The possible key of the current nesting level. -/
  key : Option KeyPlace := none
  /-- The possible keys of the enclosing levels; their number is the depth of flow nesting. -/
  outerKeys : List (Option KeyPlace) := []
  deriving Repr, Inhabited

namespace Lexer

def inFlow (lx : Lexer) : Bool := !lx.outerKeys.isEmpty

def mark (lx : Lexer) : Mark := lx.cursor.mark

def push (lx : Lexer) (t : Token) : Lexer := { lx with toks := lx.toks.push t }

/-- Appends a token of no extent. -/
def pushAt (lx : Lexer) (kind : Token.Kind) (m : Mark) : Lexer :=
  lx.push { kind, start := m, stop := m }

/-- Puts a token in front of the one at `position`. -/
def insert (lx : Lexer) (position : Nat) (kind : Token.Kind) (m : Mark) : Lexer :=
  let front := lx.toks.toList.take position
  let back := lx.toks.toList.drop position
  { lx with toks := (front ++ { kind, start := m, stop := m } :: back).toArray }

/-- Gives up the possible key; one that was required makes the text unreadable. -/
def dropKey? (lx : Lexer) : Option Lexer :=
  match lx.key with
  | some k => if k.required then none else some { lx with key := none }
  | none => some lx

/-- Remembers the current place as a possible key. -/
def saveKey? (lx : Lexer) : Option Lexer :=
  if lx.keyAllowed then do
    let required := !lx.inFlow && decide (lx.indent = (lx.mark.column : Int))
    let lx ← lx.dropKey?
    some { lx with key := some { required, position := lx.toks.size, mark := lx.mark } }
  else some lx

/-- Opens a block at `column`, unless one is already open there.  The token goes in front of
    the one at `position`, or to the end. -/
def openBlock (lx : Lexer) (column : Nat) (position : Option Nat) (kind : Token.Kind) (m : Mark) :
    Lexer :=
  if lx.inFlow then lx
  else if lx.indent < (column : Int) then
    let lx := { lx with indents := lx.indent :: lx.indents, indent := (column : Int) }
    match position with
    | some p => lx.insert p kind m
    | none => lx.pushAt kind m
  else lx

/-- Closes the blocks right of `column`. -/
def closeBlocks (column : Int) : List Int → Lexer → Lexer
  | [], lx => lx
  | outer :: rest, lx =>
    if lx.inFlow || lx.indent ≤ column then lx
    else closeBlocks column rest
      { lx.pushAt .blockEnd lx.mark with indent := outer, indents := rest }

/-- Whether the possible key of this level still holds: it has to stand on the current line and
    within 1024 characters.  The outer option refuses a required key that was lost. -/
def keyHolds? (lx : Lexer) : Option Bool :=
  match lx.key with
  | none => some false
  | some k =>
    if k.mark.line < lx.mark.line || k.mark.index + 1024 < lx.mark.index then
      if k.required then none else some false
    else some true

/-! ### 6. White space and comments -/

/-- Passes comment lines: the cursor stands on a `#`, and stops at the break that ends the last
    comment of an uninterrupted group. -/
def skipComments : Nat → Cursor → Cursor
  | 0, c => c
  | fuel + 1, c =>
    let c := c.skipWhile (fun ch => !isBreakOrEnd ch) (c.rest.length + 1)
    let ahead := c.rest.dropWhile fun ch => isBlank ch || isBreak ch
    if ahead.head? == some '#' then skipComments fuel (walk (c.rest.length - ahead.length) c)
    else c
where
  /-- Passes `n` characters, line breaks included. -/
  walk : Nat → Cursor → Cursor
    | 0, c => c
    | n + 1, c =>
      if isBreak c.peek then
        walk (n - (if c.peek == '\r' && c.at' 1 == '\n' then 1 else 0)) c.skipLine
      else walk n c.skip

/-- Passes white space and comments up to the next token. -/
def skipToToken : Nat → Lexer → Lexer
  | 0, lx => lx
  | fuel + 1, lx =>
    let c := lx.cursor
    let c := if c.mark.column == 0 && c.peek.toNat == 0xFEFF then c.skip else c
    let tabs := lx.inFlow || !lx.keyAllowed
    let c := c.skipWhile (fun ch => ch == ' ' || (tabs && ch == '\t')) (c.rest.length + 1)
    let c := if c.peek == '#' then skipComments (c.rest.length + 1) c else c
    if isBreak c.peek then
      skipToToken fuel
        { lx with cursor := c.skipLine, keyAllowed := lx.keyAllowed || !lx.inFlow }
    else { lx with cursor := c }

/-! ### 7. One token -/

/-- Takes an indicator of `n` characters as a token. -/
def indicator (lx : Lexer) (n : Nat) (kind : Token.Kind) : Lexer :=
  let c := lx.cursor.skipMany n
  { lx with toks := lx.toks.push { kind, start := lx.mark, stop := c.mark }, cursor := c }

/-- Closes all blocks and forgets the possible key, as between documents. -/
def leaveDocument? (lx : Lexer) : Option Lexer := do
  let lx ← (closeBlocks (-1) lx.indents lx).dropKey?
  some { lx with keyAllowed := false }

/-- An opening bracket or brace. -/
def openFlow? (lx : Lexer) (kind : Token.Kind) : Option Lexer := do
  let lx ← lx.saveKey?
  let lx := { lx with outerKeys := lx.key :: lx.outerKeys, key := none, keyAllowed := true }
  some (lx.indicator 1 kind)

/-- A closing bracket or brace. -/
def closeFlow? (lx : Lexer) (kind : Token.Kind) : Option Lexer := do
  let lx ← lx.dropKey?
  let lx := match lx.outerKeys with
    | outer :: rest => { lx with key := outer, outerKeys := rest }
    | [] => lx
  some ({ lx with keyAllowed := false }.indicator 1 kind)

/-- A comma inside brackets or braces. -/
def flowEntry? (lx : Lexer) : Option Lexer := do
  let lx ← lx.dropKey?
  some ({ lx with keyAllowed := true }.indicator 1 .flowEntry)

/-- A dash that starts an item of a sequence. -/
def blockEntry? (lx : Lexer) : Option Lexer := do
  if !lx.inFlow && !lx.keyAllowed then none
  let lx := lx.openBlock lx.mark.column none .blockSequenceStart lx.mark
  let lx ← lx.dropKey?
  some ({ lx with keyAllowed := true }.indicator 1 .blockEntry)

/-- A question mark that starts a key. -/
def keyMark? (lx : Lexer) : Option Lexer := do
  if !lx.inFlow && !lx.keyAllowed then none
  let lx := lx.openBlock lx.mark.column none .blockMappingStart lx.mark
  let lx ← lx.dropKey?
  some ({ lx with keyAllowed := !lx.inFlow }.indicator 1 .key)

/-- A colon that starts a value.  If a key without a mark precedes it, the mark is added now. -/
def valueMark? (lx : Lexer) : Option Lexer := do
  match lx.key, ← lx.keyHolds? with
  | some k, true =>
    let lx := lx.insert k.position .key k.mark
    let lx := lx.openBlock k.mark.column (some k.position) .blockMappingStart k.mark
    some ({ lx with key := none, keyAllowed := false }.indicator 1 .value)
  | _, _ =>
    if !lx.inFlow && !lx.keyAllowed then none
    let lx := lx.openBlock lx.mark.column none .blockMappingStart lx.mark
    some ({ lx with key := none, keyAllowed := !lx.inFlow }.indicator 1 .value)

/-- Takes a token that may itself be a key. -/
def keyToken? (lx : Lexer) (read : Cursor → Option (Token × Cursor)) : Option Lexer := do
  let lx ← lx.saveKey?
  let (t, c) ← read lx.cursor
  some { lx.push t with cursor := c, keyAllowed := false }

/-- Whether a plain scalar may start here. -/
def startsPlain (lx : Lexer) : Bool :=
  let ch := lx.cursor.peek
  let next := lx.cursor.at' 1
  let indicators := "-?:,[]\x7b\x7d#&*!|>'\"%@`".toList
  !(isBlankOrEnd ch || indicators.contains ch) ||
  (ch == '-' && !isBlank next) ||
  (!lx.inFlow && (ch == '?' || ch == ':') && !isBlankOrEnd next)

/-- Takes the next token.  The text is unreadable here if there is none. -/
def next? (lx : Lexer) : Option Lexer :=
  let c := lx.cursor
  let ch := c.peek
  let spaced := isBlankOrEnd (c.at' 1)
  if c.mark.column == 0 && ch == '%' then do
    let lx ← lx.leaveDocument?
    let (t, c) ← directive? lx.cursor
    some { lx.push t with cursor := c }
  else if c.atMarker '-' then do
    let lx ← lx.leaveDocument?
    some (lx.indicator 3 .documentStart)
  else if c.atMarker '.' then do
    let lx ← lx.leaveDocument?
    some (lx.indicator 3 .documentEnd)
  else if ch == '[' then lx.openFlow? .flowSequenceStart
  else if ch == '{' then lx.openFlow? .flowMappingStart
  else if ch == ']' then lx.closeFlow? .flowSequenceEnd
  else if ch == '}' then lx.closeFlow? .flowMappingEnd
  else if ch == ',' then lx.flowEntry?
  else if ch == '-' && spaced then lx.blockEntry?
  else if ch == '?' && (lx.inFlow || spaced) then lx.keyMark?
  else if ch == ':' && (lx.inFlow || spaced) then lx.valueMark?
  else if ch == '*' then
    lx.keyToken? fun c => (anchorName? c).map fun (name, c') =>
      ({ kind := .reference name, start := c.mark, stop := c'.mark }, c')
  else if ch == '&' then
    lx.keyToken? fun c => (anchorName? c).map fun (name, c') =>
      ({ kind := .anchor name, start := c.mark, stop := c'.mark }, c')
  else if ch == '!' then lx.keyToken? tag?
  else if (ch == '|' || ch == '>') && !lx.inFlow then do
    let lx ← lx.dropKey?
    let (t, c) ← blockScalar? (ch == '|') lx.indent lx.cursor
    some { lx.push t with cursor := c, keyAllowed := true }
  else if ch == '\'' then lx.keyToken? (quotedScalar? true)
  else if ch == '"' then lx.keyToken? (quotedScalar? false)
  else if lx.startsPlain then do
    let lx ← lx.saveKey?
    let (t, c, broken) ← plainScalar? lx.inFlow lx.indent lx.cursor
    some { lx.push t with cursor := c, keyAllowed := broken }
  else none

/-- The end of the stream closes all blocks. -/
def finish? (lx : Lexer) : Option Lexer := do
  let m := lx.mark
  let m := if m.column == 0 then m else { m with line := m.line + 1, column := 0 }
  let lx ← { lx with cursor := { lx.cursor with mark := m } }.leaveDocument?
  some (lx.pushAt .streamEnd m)

/-- All tokens. -/
def run : Nat → Lexer → Tokens
  | 0, lx => { toks := lx.toks, readable := false }
  | fuel + 1, lx =>
    let lx := skipToToken (lx.cursor.rest.length + 1) lx
    let lx := closeBlocks (lx.mark.column : Int) lx.indents lx
    if isEnd lx.cursor.peek then
      match lx.finish? with
      | some lx => { toks := lx.toks, readable := true }
      | none => { toks := lx.toks, readable := false }
    else
      match lx.next? with
      | some lx => run fuel lx
      | none => { toks := lx.toks, readable := false }

end Lexer

/-- The tokens of a text.  A text with a forbidden character has none. -/
def Tokens.ofText (text : String) : Tokens :=
  let cs := text.toList
  if cs.all isAllowed then Lexer.run (cs.length + 2) { cursor := { rest := cs } }
  else { toks := #[], readable := false }

end DropFlow.Yaml
