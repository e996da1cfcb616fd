/-
  DropFlow/Text/Real.lean
  =======================
  Decimal fractions, read to the nearest binary fraction of double precision and
  cut off to an integer.

  A decimal is kept exactly as `digits · 10 ^ exponent`.  Rounding it to 53 binary
  digits is done in exact arithmetic on naturals, ties to even, so that
  `2.9999999999999999999` is cut off to 3 and not to 2.
-/
import DropFlow.Text.Decimal

namespace DropFlow.Text

/-- A decimal fraction `± coefficient · 10 ^ exponent`. -/
structure Fraction where
  negative : Bool
  coefficient : Nat
  exponent : Int
  deriving DecidableEq, Repr

/-! ### Reading a decimal fraction -/

/-- The leading decimal digits of a list and the rest. -/
def spanDigits (cs : List Char) : List Char × List Char :=
  (cs.takeWhile Char.isDigit, cs.dropWhile Char.isDigit)

/-- The number written by decimal digits; no digits write zero. -/
def digitsValue (ds : List Char) : Nat := ds.foldl (fun n d => 10 * n + (d.toNat - 48)) 0

/-- An exponent part, or nothing at the end of the list. -/
def exponentPart? : List Char → Option Int
  | [] => some 0
  | e :: rest =>
    if e != 'e' && e != 'E' then none
    else
      let (negative, ds) := match rest with
        | '-' :: ds => (true, ds)
        | '+' :: ds => (false, ds)
        | ds => (false, ds)
      if ds.isEmpty || !ds.all Char.isDigit then none
      else some (if negative then -(digitsValue ds : Int) else (digitsValue ds : Int))

/-- Reads a decimal fraction: an optional sign, digits with an optional point, at least one of
    them a digit, and an optional exponent. -/
def fraction? (cs : List Char) : Option Fraction :=
  let (negative, cs) := match cs with
    | '-' :: rest => (true, rest)
    | '+' :: rest => (false, rest)
    | rest => (false, rest)
  let (whole, rest) := spanDigits cs
  let (part, rest) := match rest with
    | '.' :: rest => spanDigits rest
    | rest => ([], rest)
  if whole.isEmpty && part.isEmpty then none
  else
    (exponentPart? rest).map fun e =>
      { negative, coefficient := digitsValue (whole ++ part), exponent := e - part.length }

/-! ### Rounding to double precision -/

/-- The quotient of two naturals rounded to the nearest one, ties to even. -/
def roundQuotient (num den : Nat) : Nat :=
  let q := num / den
  let r := num % den
  if 2 * r < den then q
  else if den < 2 * r then q + 1
  else if q % 2 = 0 then q else q + 1

/-- A fraction after rounding to double precision, cut off towards zero. -/
inductive Truncated where
  /-- The value is too large for double precision. -/
  | overflow
  | value (i : Int)
  deriving DecidableEq, Repr

/-- The numerator and denominator of the absolute value of a fraction. -/
def Fraction.ratio (f : Fraction) : Nat × Nat :=
  match f.exponent with
  | .ofNat e => (f.coefficient * Nat.pow 10 e, 1)
  | .negSucc e => (f.coefficient, Nat.pow 10 (e + 1))

/-- Rounds to 53 binary digits and cuts off the part after the point. -/
def Fraction.truncate (f : Fraction) : Truncated :=
  let magnitude : Int := (digits f.coefficient).length + f.exponent
  if f.coefficient = 0 ∨ magnitude < -5 then .value 0
  else if 400 < magnitude then .overflow
  else
    let (num, den) := f.ratio
    -- the scale that leaves 53 binary digits, or one more after rounding up
    let scale : Int := (Nat.log2 num : Int) - (Nat.log2 den : Int) - 52
    let scale :=
      if num * Nat.pow 2 (-scale).toNat < den * Nat.pow 2 (52 + scale.toNat) then scale - 1
      else scale
    let rounded := roundQuotient (num * Nat.pow 2 (-scale).toNat) (den * Nat.pow 2 scale.toNat)
    let value : Nat :=
      if 0 ≤ scale then rounded * Nat.pow 2 scale.toNat else rounded / Nat.pow 2 (-scale).toNat
    if Nat.pow 2 1024 ≤ value then .overflow
    else .value (if f.negative then -(value : Int) else (value : Int))

end DropFlow.Text
