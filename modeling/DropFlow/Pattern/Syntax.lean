/-
  DropFlow/Pattern/Syntax.lean
  ============================
  The notation of regular expressions.

  An expression is read from left to right with a stack of open groups.  Each group
  holds the finished alternatives and the items of the current one; a repetition
  applies to the last item.  A text that is not well formed gives no expression: an
  open or unopened group, a repetition of nothing or of a repetition, a repetition of
  more than a thousand, an unknown escape or group, a class without end.
-/
import DropFlow.Pattern.Expression
import DropFlow.Text.Category
import DropFlow.Text.Decimal
import DropFlow.Text.Script

namespace DropFlow.Pattern

open DropFlow.Text

/-! ### 1. Options and groups -/

/-- The options that an expression may set for itself. -/
structure Options where
  /-- Letters match regardless of case. -/
  foldCase : Bool := false
  /-- The start and the end of every line count as such. -/
  multiLine : Bool := false
  /-- The point matches a line break too. -/
  dotAll : Bool := false
  deriving DecidableEq, Repr

structure Group where
  /-- The alternatives that are finished, the latest first. -/
  alternatives : List Expression := []
  /-- The items of the current alternative, the latest first. -/
  items : List Expression := []
  /-- The options in force where the group was opened. -/
  outer : Options := {}

/-- The expression of a group. -/
def Group.finish (g : Group) : Expression :=
  .eitherAll ((Expression.sequenceAll g.items.reverse :: g.alternatives).reverse)

structure Reading where
  options : Options := {}
  /-- The innermost open group. -/
  group : Group := {}
  /-- The groups around it, the innermost first. -/
  around : List Group := []
  /-- Whether the last thing read was a repetition. -/
  repeated : Bool := false

namespace Reading

def push (r : Reading) (e : Expression) : Reading :=
  { r with group := { r.group with items := e :: r.group.items }, repeated := false }

/-- Opens a group with options for its inside. -/
def openGroup (r : Reading) (inside : Options) : Reading :=
  { options := inside, group := { outer := r.options }, around := r.group :: r.around }

/-- Closes the innermost group. -/
def closeGroup (r : Reading) : Option Reading :=
  match r.around with
  | [] => none
  | g :: rest =>
    some { options := r.group.outer
           group := { g with items := r.group.finish :: g.items }, around := rest }

/-- Starts the next alternative. -/
def nextAlternative (r : Reading) : Reading :=
  { r with
    group := { r.group with
      alternatives := Expression.sequenceAll r.group.items.reverse :: r.group.alternatives
      items := [] }
    repeated := false }

/-- Applies a repetition to the last item. -/
def repeatLast (r : Reading) (f : Expression → Expression) : Option Reading :=
  if r.repeated then none
  else
    match r.group.items with
    | [] => none
    | e :: rest =>
      some { r with group := { r.group with items := f e :: rest }, repeated := true }

end Reading

/-! ### 2. Single characters and sets -/

def single (o : Options) (n : Nat) : CharSet := { folded := o.foldCase, ranges := [(n, n)] }

def literal (o : Options) (c : Char) : Expression := .one { parts := [single o c.toNat] }

def hexValue? (c : Char) : Option Nat :=
  if '0' ≤ c && c ≤ '9' then some (c.toNat - 48)
  else if 'a' ≤ c && c ≤ 'f' then some (c.toNat - 87)
  else if 'A' ≤ c && c ≤ 'F' then some (c.toNat - 55)
  else none

def isOctal (c : Char) : Bool := '0' ≤ c && c ≤ '7'

/-- Hexadecimal digits up to a closing brace, at least one, for a code point. -/
def bracedHex? (value digits : Nat) : List Char → Option (Nat × List Char)
  | [] => none
  | c :: rest =>
    if c = '\x7d' then if digits = 0 then none else some (value, rest)
    else
      match hexValue? c with
      | none => none
      | some d =>
        if 0x10FFFF < value * 16 + d then none else bracedHex? (value * 16 + d) (digits + 1) rest

/-- Reads what follows a backslash as one code point. -/
def escape? : List Char → Option (Nat × List Char)
  | [] => none
  | 'x' :: '\x7b' :: rest => bracedHex? 0 0 rest
  | 'x' :: a :: b :: rest => do
    let x ← hexValue? a
    let y ← hexValue? b
    return (x * 16 + y, rest)
  | 'a' :: rest => some (7, rest)
  | 'f' :: rest => some (12, rest)
  | 'n' :: rest => some (10, rest)
  | 'r' :: rest => some (13, rest)
  | 't' :: rest => some (9, rest)
  | 'v' :: rest => some (11, rest)
  | c :: rest =>
    if isOctal c && (c == '0' || rest.head?.any isOctal) then
      let more := (rest.take 2).takeWhile isOctal
      some (more.foldl (fun n d => n * 8 + (d.toNat - 48)) (c.toNat - 48), rest.drop more.length)
    else if c.toNat < 0x80 && !c.isAlphanum then some (c.toNat, rest)
    else none

/-- The digits, the blanks and the word characters by their letter. -/
def namedRanges? : Char → Option (List (Nat × Nat))
  | 'd' => some [(0x30, 0x39)]
  | 's' => some [(0x09, 0x0A), (0x0C, 0x0D), (0x20, 0x20)]
  | 'w' => some [(0x30, 0x39), (0x41, 0x5A), (0x5F, 0x5F), (0x61, 0x7A)]
  | _ => none

/-- The set of a class letter after a backslash; a capital letter is the complement. -/
def letterSet? (o : Options) (c : Char) : Option CharSet :=
  match namedRanges? c with
  | some ranges => some { folded := o.foldCase, ranges }
  | none =>
    if 'A' ≤ c && c ≤ 'Z' then
      (namedRanges? c.toLower).map fun ranges => { negated := true, folded := o.foldCase, ranges }
    else none

/-- The code points with a property: all of them, or those of a category or of a script. -/
def propertyRanges? (name : String) : Option (List (Nat × Nat)) :=
  if name = "Any" then some [(0, 0x10FFFF)]
  else (categoryRanges? name).or (scriptRanges? name)

/-- The name of a property: one character, or what stands between braces. -/
def propertyName? : List Char → Option (List Char × List Char)
  | [] => none
  | '\x7b' :: cs =>
    match cs.dropWhile (· ≠ '\x7d') with
    | [] => none
    | _ :: rest => some (cs.takeWhile (· ≠ '\x7d'), rest)
  | c :: rest => some ([c], rest)

/-- The set of a property after `p`, or after `P` for the complement; a circumflex in front of
    the name complements once more. -/
def propertySet? (o : Options) (letter : Char) (cs : List Char) : Option (CharSet × List Char) := do
  let (name, rest) ← propertyName? cs
  let (turned, name) := match name with
    | '^' :: name => (true, name)
    | _ => (false, name)
  let ranges ← propertyRanges? (String.ofList name)
  return ({ negated := (letter == 'P') != turned, folded := o.foldCase, ranges }, rest)

def startsProperty (c : Char) : Bool := c == 'p' || c == 'P'

/-- The classes that are written between colons in brackets. -/
def bracketRanges? (name : String) : Option (List (Nat × Nat)) :=
  match name with
  | "alnum" => some [(0x30, 0x39), (0x41, 0x5A), (0x61, 0x7A)]
  | "alpha" => some [(0x41, 0x5A), (0x61, 0x7A)]
  | "ascii" => some [(0x00, 0x7F)]
  | "blank" => some [(0x09, 0x09), (0x20, 0x20)]
  | "cntrl" => some [(0x00, 0x1F), (0x7F, 0x7F)]
  | "digit" => some [(0x30, 0x39)]
  | "graph" => some [(0x21, 0x7E)]
  | "lower" => some [(0x61, 0x7A)]
  | "print" => some [(0x20, 0x7E)]
  | "punct" => some [(0x21, 0x2F), (0x3A, 0x40), (0x5B, 0x60), (0x7B, 0x7E)]
  | "space" => some [(0x09, 0x0D), (0x20, 0x20)]
  | "upper" => some [(0x41, 0x5A)]
  | "word" => some [(0x30, 0x39), (0x41, 0x5A), (0x5F, 0x5F), (0x61, 0x7A)]
  | "xdigit" => some [(0x30, 0x39), (0x41, 0x46), (0x61, 0x66)]
  | _ => none

/-- The characters before the first `:]` and those after it. -/
def untilBracketEnd? : List Char → Option (List Char × List Char)
  | ':' :: ']' :: rest => some ([], rest)
  | c :: rest => (untilBracketEnd? rest).map fun (name, after) => (c :: name, after)
  | [] => none

/-- The set of a class name between colons, with a circumflex for the complement. -/
def bracketSet? (o : Options) (name : List Char) : Option CharSet :=
  let (negated, name) := match name with
    | '^' :: rest => (true, rest)
    | _ => (false, name)
  (bracketRanges? (String.ofList name)).map fun ranges =>
    { negated, folded := o.foldCase, ranges }

/-! ### 3. Classes in brackets -/

/-- One end of an interval. -/
def classPoint? : List Char → Option (Nat × List Char)
  | [] => none
  | '\\' :: rest => escape? rest
  | c :: rest => some (c.toNat, rest)

/-- A character or an interval of a class. -/
def classRange? (o : Options) (cs : List Char) : Option (CharSet × List Char) := do
  let (lo, rest) ← classPoint? cs
  match rest with
  | '-' :: c :: more =>
    if c = ']' then return ({ folded := o.foldCase, ranges := [(lo, lo)] }, rest)
    else
      let (hi, rest) ← classPoint? (c :: more)
      if hi < lo then failure
      return ({ folded := o.foldCase, ranges := [(lo, hi)] }, rest)
  | _ => return ({ folded := o.foldCase, ranges := [(lo, lo)] }, rest)

/-- One part of a class. -/
def classPart? (o : Options) (cs : List Char) : Option (CharSet × List Char) :=
  match cs with
  | '[' :: ':' :: rest =>
    match untilBracketEnd? rest with
    | some (name, after) => (bracketSet? o name).map fun s => (s, after)
    | none => classRange? o cs
  | '\\' :: c :: rest =>
    if startsProperty c then propertySet? o c rest
    else
      match letterSet? o c with
      | some s => some (s, rest)
      | none => classRange? o cs
  | _ => classRange? o cs

/-- The parts of a class up to its closing bracket, which may stand first as a character. -/
def classParts? (o : Options) : Nat → Bool → List Char → Option (List CharSet × List Char)
  | 0, _, _ => none
  | fuel + 1, first, cs =>
    match cs, first with
    | ']' :: rest, false => some ([], rest)
    | _, _ => do
      let (part, rest) ← classPart? o cs
      let (parts, rest) ← classParts? o fuel false rest
      return (part :: parts, rest)

/-- A class, after its opening bracket. -/
def class? (o : Options) (cs : List Char) : Option (Expression × List Char) := do
  let (negated, cs) := match cs with
    | '^' :: rest => (true, rest)
    | _ => (false, cs)
  let (parts, rest) ← classParts? o (cs.length + 1) true cs
  return (.one { negated, parts }, rest)

/-! ### 4. Groups with options and repetitions with counts -/

/-- The options after `(?`, up to a colon, which opens a group, or a closing parenthesis.
    `negative` tells whether options are being switched off, `seen` whether one has been named
    since the last switch. -/
def options? (o : Options) (negative seen : Bool) :
    List Char → Option (Options × Bool × List Char)
  | [] => none
  | c :: rest =>
    match c with
    | 'i' => options? { o with foldCase := !negative } negative true rest
    | 'm' => options? { o with multiLine := !negative } negative true rest
    | 's' => options? { o with dotAll := !negative } negative true rest
    | 'U' => options? o negative true rest
    | '-' => if negative then none else options? o true false rest
    | ':' => if negative && !seen then none else some (o, true, rest)
    | ')' => if negative && !seen then none else some (o, false, rest)
    | _ => none

/-- The name of a group, up to the closing angle bracket. -/
def groupName? (cs : List Char) : Option (List Char) :=
  let name := cs.takeWhile (· ≠ '>')
  let rest := cs.dropWhile (· ≠ '>')
  if name.isEmpty || !name.all isWordChar || rest.isEmpty then none else some (rest.drop 1)

/-- The beginning of a group, after its opening parenthesis. -/
def group? (r : Reading) : List Char → Option (Reading × List Char)
  | '?' :: 'P' :: '<' :: rest => (groupName? rest).map fun rest => (r.openGroup r.options, rest)
  | '?' :: '<' :: rest => (groupName? rest).map fun rest => (r.openGroup r.options, rest)
  | '?' :: rest =>
    (options? r.options false false rest).map fun (o, opens, rest) =>
      -- options without a colon hold up to the end of the group around them
      if opens then (r.openGroup o, rest) else ({ r with options := o, repeated := false }, rest)
  | rest => some (r.openGroup r.options, rest)

/-- A decimal number without needless zeros in front. -/
def count? (cs : List Char) : Option (Nat × List Char) :=
  let ds := cs.takeWhile Char.isDigit
  match ds with
  | [] => none
  | '0' :: _ :: _ => none
  | _ => (numeral? ds).map fun n => (n, cs.dropWhile Char.isDigit)

/-- The counts of a repetition, after its opening brace. -/
def counts? (cs : List Char) : Option (Nat × Option Nat × List Char) := do
  let (least, rest) ← count? cs
  match rest with
  | '\x7d' :: rest => return (least, some least, rest)
  | ',' :: '\x7d' :: rest => return (least, none, rest)
  | ',' :: rest =>
    let (most, rest) ← count? rest
    match rest with
    | '\x7d' :: rest => return (least, some most, rest)
    | _ => failure
  | _ => failure

/-- Skips the mark of a reluctant repetition, which makes no difference to whether there is a
    match. -/
def skipReluctant : List Char → List Char
  | '?' :: rest => rest
  | cs => cs

/-- The greatest count of a repetition. -/
def greatestCount : Nat := 1000

/-- A repetition with counts. -/
def counted? (r : Reading) (least : Nat) (most : Option Nat) : Option Reading := do
  if greatestCount < least then failure
  if most.any fun m => m < least || greatestCount < m then failure
  let r ← r.repeatLast (.counted least most)
  -- nested counts multiply
  if (2 ≤ least || most.any (2 ≤ ·)) && !(r.group.items.head?.any (·.repeatsWithin greatestCount))
  then failure
  return r

/-! ### 5. Expressions -/

/-- The characters up to `\E`, or all of them, and the rest. -/
def untilQuoteEnd : List Char → List Char × List Char
  | '\\' :: 'E' :: rest => ([], rest)
  | c :: rest =>
    let (inside, after) := untilQuoteEnd rest
    (c :: inside, after)
  | [] => ([], [])

def escaped? (r : Reading) : List Char → Option (Reading × List Char)
  | 'A' :: rest => some (r.push (.anchor .textStart), rest)
  | 'b' :: rest => some (r.push (.anchor .wordBoundary), rest)
  | 'B' :: rest => some (r.push (.anchor .noWordBoundary), rest)
  | 'z' :: rest => some (r.push (.anchor .textEnd), rest)
  | 'C' :: _ => none
  | 'Q' :: rest =>
    let (inside, after) := untilQuoteEnd rest
    let r := inside.foldl (fun r c => r.push (literal r.options c)) r
    some ({ r with repeated := false }, after)
  | cs =>
    match cs with
    | [] => none
    | c :: rest =>
      let one (s : CharSet) : Reading := r.push (.one { parts := [s] })
      if startsProperty c then (propertySet? r.options c rest).map fun (s, rest) => (one s, rest)
      else
        match letterSet? r.options c with
        | some s => some (one s, rest)
        | none => (escape? cs).map fun (n, rest) => (one (single r.options n), rest)

def piece? (r : Reading) (c : Char) (rest : List Char) : Option (Reading × List Char) :=
  match c with
  | '(' => group? r rest
  | ')' => r.closeGroup.map fun r => (r, rest)
  | '|' => some (r.nextAlternative, rest)
  | '^' => some (r.push (.anchor (if r.options.multiLine then .lineStart else .textStart)), rest)
  | '$' => some (r.push (.anchor (if r.options.multiLine then .lineEnd else .textEnd)), rest)
  | '.' =>
    let excluded : CharSet := { ranges := if r.options.dotAll then [] else [(0x0A, 0x0A)] }
    some (r.push (.one { negated := true, parts := [excluded] }), rest)
  | '[' => (class? r.options rest).map fun (e, rest) => (r.push e, rest)
  | '*' => (r.repeatLast .star).map fun r => (r, skipReluctant rest)
  | '+' => (r.repeatLast fun e => .sequence e (.star e)).map fun r => (r, skipReluctant rest)
  | '?' => (r.repeatLast fun e => .either e .empty).map fun r => (r, skipReluctant rest)
  -- a brace that opens no counts is a character like any other
  | '\x7b' =>
    match counts? rest with
    | none => some (r.push (literal r.options c), rest)
    | some (least, most, after) => (counted? r least most).map fun r => (r, skipReluctant after)
  | '\\' => escaped? r rest
  | _ => some (r.push (literal r.options c), rest)

/-- Reads pieces until the end of the text. -/
def pieces? : Nat → Reading → List Char → Option Reading
  | _, r, [] => some r
  | 0, _, _ :: _ => none
  | fuel + 1, r, c :: rest => do
    let (r, rest) ← piece? r c rest
    pieces? fuel r rest

/-- The expression that a text denotes. -/
def Expression.parse? (s : String) : Option Expression := do
  let cs := s.toList
  let r ← pieces? cs.length {} cs
  if r.around.isEmpty then some r.group.finish else none

end DropFlow.Pattern
