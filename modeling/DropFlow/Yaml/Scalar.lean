/-
  DropFlow/Yaml/Scalar.lean
  =========================
  What a scalar means: null, a truth value, a number, a point in time, the merge
  key, or text, which may be written as binary data.

  Only the first character of a plain scalar decides which of these is tried, so a
  name such as `inf` or `<<` in the place of a value stays text.
-/
import DropFlow.Text.Binary
import DropFlow.Text.Real
import DropFlow.Yaml.Token

namespace DropFlow.Yaml

open DropFlow.Text

/-- The meaning of a scalar. -/
inductive Scalar where
  | null
  | bool (b : Bool)
  | int (i : Int)
  /-- A finite number with a fraction or an exponent, cut off to an integer. -/
  | float (i : Int)
  | infinity (negative : Bool)
  | notANumber
  | timestamp
  | text (s : String)
  deriving DecidableEq, Repr

def Scalar.tag : Scalar → String
  | .null => "!!null"
  | .bool _ => "!!bool"
  | .int _ => "!!int"
  | .float _ => "!!float"
  | .infinity _ => "!!float"
  | .notANumber => "!!float"
  | .timestamp => "!!timestamp"
  | .text _ => "!!str"

/-! ### 1. Integers -/

/-- The value of a digit in a base up to 16. -/
def digitIn? (base : Nat) (c : Char) : Option Nat :=
  let n := c.toNat
  let d : Option Nat :=
    if 48 ≤ n ∧ n ≤ 57 then some (n - 48)
    else if 97 ≤ n ∧ n ≤ 102 then some (n - 87)
    else if 65 ≤ n ∧ n ≤ 70 then some (n - 55)
    else none
  d.filter (· < base)

/-- The number written by digits of a base; an empty list writes nothing. -/
def numberIn? (base : Nat) (cs : List Char) : Option Nat :=
  cs.foldlM (fun n c => (digitIn? base c).map (base * n + ·)) 0

/-- The magnitude of an integer whose base is shown by how it starts: `0x`, `0o`, `0b`, a
    leading zero for base eight, and base ten otherwise. -/
def magnitude? : List Char → Option Nat
  | [] => none
  | '0' :: 'x' :: c :: cs => numberIn? 16 (c :: cs)
  | '0' :: 'X' :: c :: cs => numberIn? 16 (c :: cs)
  | '0' :: 'o' :: c :: cs => numberIn? 8 (c :: cs)
  | '0' :: 'O' :: c :: cs => numberIn? 8 (c :: cs)
  | '0' :: 'b' :: c :: cs => numberIn? 2 (c :: cs)
  | '0' :: 'B' :: c :: cs => numberIn? 2 (c :: cs)
  | '0' :: cs => numberIn? 8 cs
  | cs => numberIn? 10 cs

/-- The bounds of an integer: a signed word, or an unsigned word without a sign. -/
def bounded? (signed : Bool) (i : Int) : Option Int :=
  if minWord ≤ i ∧ i ≤ maxWord then some i
  else if !signed && decide (0 ≤ i) && decide (i < 18446744073709551616) then some i
  else none

/-- Applies a reader of magnitudes after an optional sign. -/
def signed? (read : List Char → Option Nat) : List Char → Option Int
  | '-' :: cs => (read cs).bind fun n => bounded? true (-(n : Int))
  | '+' :: cs => (read cs).bind fun n => bounded? true (n : Int)
  | cs => (read cs).bind fun n => bounded? false (n : Int)

/-- The digits after a base mark, which may carry a sign of their own. -/
def afterMark? (base : Nat) (cs : List Char) : Option Int :=
  signed? (fun ds => if ds.isEmpty then none else numberIn? base ds) cs

/-- Reads an integer; underscores have been removed. -/
def integer? (cs : List Char) : Option Int :=
  match signed? magnitude? cs with
  | some i => some i
  | none => none

/-- Integers that carry the base mark in front of their sign. -/
def markedInteger? : List Char → Option Int
  | '0' :: 'b' :: cs => afterMark? 2 cs
  | '-' :: '0' :: 'b' :: cs => afterMark? 2 ('-' :: cs)
  | '0' :: 'o' :: cs => afterMark? 8 cs
  | '-' :: '0' :: 'o' :: cs => afterMark? 8 ('-' :: cs)
  | _ => none

/-! ### 2. Points in time -/

/-- Reads one or two digits as a number. -/
def shortNumber? : List Char → Option (Nat × List Char)
  | a :: b :: rest =>
    if a.isDigit && b.isDigit then some (digitsValue [a, b], rest)
    else if a.isDigit then some (digitsValue [a], b :: rest)
    else none
  | [a] => if a.isDigit then some (digitsValue [a], []) else none
  | [] => none

/-- Passes one given character. -/
def expect? (ch : Char) : List Char → Option (List Char)
  | c :: rest => if c == ch then some rest else none
  | [] => none

/-- The number of days of a month. -/
def daysIn (year month : Nat) : Nat :=
  let leap := year % 4 == 0 && (year % 100 != 0 || year % 400 == 0)
  match month with
  | 2 => if leap then 29 else 28
  | 4 => 30
  | 6 => 30
  | 9 => 30
  | 11 => 30
  | _ => 31

/-- Reads a date `year-month-day` with a year of four digits. -/
def date? (cs : List Char) : Option (List Char) := do
  let (year, rest) := spanDigits cs
  if year.length != 4 then none
  let rest ← expect? '-' rest
  let (month, rest) ← shortNumber? rest
  let rest ← expect? '-' rest
  let (day, rest) ← shortNumber? rest
  if month < 1 || 12 < month || day < 1 || daysIn (digitsValue year) month < day then none
  some rest

/-- Reads a time of day `hour:minute:second` with an optional fraction. -/
def timeOfDay? (cs : List Char) : Option (List Char) := do
  let (hour, rest) ← shortNumber? cs
  let rest ← expect? ':' rest
  let (minute, rest) ← shortNumber? rest
  let rest ← expect? ':' rest
  let (second, rest) ← shortNumber? rest
  if 24 ≤ hour || 60 ≤ minute || 60 ≤ second then none
  match rest with
  | p :: d :: more =>
    if (p == '.' || p == ',') && d.isDigit then some (more.dropWhile Char.isDigit) else some rest
  | _ => some rest

/-- Reads an offset from universal time, `Z` or `±hh:mm`. -/
def offset? : List Char → Option (List Char)
  | 'Z' :: rest => some rest
  | s :: a :: b :: ':' :: c :: d :: rest =>
    if (s == '+' || s == '-') && [a, b, c, d].all Char.isDigit then some rest else none
  | _ => none

/-- Whether a text is a point in time: a date alone, with a time of day after a blank, or with
    a time of day and an offset after a `T`. -/
def isTimestamp (cs : List Char) : Bool :=
  match date? cs with
  | none => false
  | some [] => true
  | some (c :: rest) =>
    match timeOfDay? rest with
    | none => false
    | some after =>
      if c == ' ' then after.isEmpty
      else if c == 'T' || c == 't' then offset? after == some []
      else false

/-! ### 3. Plain scalars -/

/-- The words with a meaning of their own. -/
def word? : String → Option Scalar
  | "true" | "True" | "TRUE" => some (.bool true)
  | "false" | "False" | "FALSE" => some (.bool false)
  | "" | "~" | "null" | "Null" | "NULL" => some .null
  | ".nan" | ".NaN" | ".NAN" => some .notANumber
  | ".inf" | ".Inf" | ".INF" | "+.inf" | "+.Inf" | "+.INF" => some (.infinity false)
  | "-.inf" | "-.Inf" | "-.INF" => some (.infinity true)
  | _ => none

/-- A fraction that fits double precision. -/
def float? (cs : List Char) : Option Scalar := do
  let f ← fraction? cs
  match f.truncate with
  | .value i => some (.float i)
  | .overflow => none

/-- Whether every underscore separates two digits. -/
def underscoresSeparate : Bool → List Char → Bool
  | _, [] => true
  | afterDigit, '_' :: rest =>
    afterDigit && (rest.headD ' ').isDigit && underscoresSeparate false rest
  | _, c :: rest => underscoresSeparate c.isDigit rest

/-- The meaning of a number-like text; with `dated` set, a point in time is tried first. -/
def number? (dated : Bool) (cs : List Char) : Option Scalar :=
  if dated && isTimestamp cs then some .timestamp
  else
    let bare := cs.filter (· != '_')
    match integer? bare with
    | some i => some (.int i)
    | none =>
      match float? bare with
      | some s => some s
      | none => (markedInteger? bare).map .int

/-- The meaning of a plain scalar, of which the tag is not known to exclude points in time. -/
def Scalar.ofPlain (dated : Bool) (text : String) : Scalar :=
  match text.toList with
  | [] => .null
  | c :: cs =>
    let found : Option Scalar :=
      if "yYnNtTfFoO~".toList.contains c then word? text
      else if c == '.' then
        match word? text with
        | some s => some s
        | none =>
          if underscoresSeparate false (c :: cs) then float? ((c :: cs).filter (· != '_'))
          else none
      else if c.isDigit || c == '+' || c == '-' then
        match word? text with
        | some s => some s
        | none => number? dated (c :: cs)
      else none
    found.getD (.text text)

/-! ### 4. Scalars of a document -/

/-- Whether a scalar is text by the way it is written: quoted, or tagged so. -/
def indicatesText (tag : Option String) (style : Style) : Bool :=
  match tag with
  | some t => t == "!!str"
  | none => style != .plain

/-- The tag that a scalar shows in messages. -/
def scalarTag (tag : Option String) (style : Style) (text : String) : String :=
  match tag with
  | some t => t
  | none =>
    if style != .plain then "!!str"
    else if text == "<<" then "!!merge"
    else (Scalar.ofPlain true text).tag

/-- The tags that promise a meaning. -/
def knownTags : List String := ["!!null", "!!bool", "!!int", "!!float", "!!timestamp"]

/-- The meaning of a scalar, or nothing if its explicit tag contradicts its text.  Under a tag
    that promises no meaning a scalar is text. -/
def Scalar.read? (tag : Option String) (style : Style) (text : String) : Option Scalar :=
  if indicatesText tag style then some (.text text)
  else
    match tag with
    | none => some (Scalar.ofPlain true text)
    | some t =>
      if t == "!!binary" then (base64Text? text).map .text
      else if !knownTags.contains t then some (.text text)
      else
        let s := Scalar.ofPlain (t == "!!timestamp") text
        if s.tag == t then some s
        else
          match t, s with
          | "!!float", .int i => some (.float i)
          | _, _ => none

end DropFlow.Yaml
