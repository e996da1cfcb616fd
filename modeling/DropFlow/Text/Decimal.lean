/-
  DropFlow/Text/Decimal.lean
  ==========================
  Integers as decimal text, in both directions.

  Writing is canonical: no leading zero, a minus sign for a negative number and
  no plus sign.  Reading is more lenient: a sign of either kind may stand in
  front, and leading zeros are skipped, but the value has to fit a signed word
  of 64 bits.
-/

namespace DropFlow.Text

/-! ### Writing -/

def digitChar (d : Nat) : Char := Char.ofNat (48 + d)

/-- The decimal digits of a number, most significant first. -/
def digits (n : Nat) : List Char :=
  if n < 10 then [digitChar n] else digits (n / 10) ++ [digitChar (n % 10)]
termination_by n
decreasing_by omega

def decimalChars : Int → List Char
  | .ofNat n => digits n
  | .negSucc n => '-' :: digits (n + 1)

/-- An integer in decimal. -/
def decimal (i : Int) : String := String.ofList (decimalChars i)

/-- A number in decimal, filled up with zeros on the left to `width` digits. -/
def padded (width n : Nat) : String :=
  let ds := digits n
  String.ofList (List.replicate (width - ds.length) '0' ++ ds)

/-! ### Reading -/

def digitValue? (c : Char) : Option Nat :=
  if '0' ≤ c ∧ c ≤ '9' then some (c.toNat - 48) else none

/-- The number that a list of digits continues, if all of them are digits. -/
def numeralFrom? (acc : Nat) : List Char → Option Nat
  | [] => some acc
  | c :: rest =>
    match digitValue? c with
    | none => none
    | some d => numeralFrom? (10 * acc + d) rest

/-- The number written by one or more decimal digits. -/
def numeral? : List Char → Option Nat
  | [] => none
  | cs => numeralFrom? 0 cs

/-- The least integer of a signed word of 64 bits. -/
def minWord : Int := -9223372036854775808

/-- The greatest integer of a signed word of 64 bits. -/
def maxWord : Int := 9223372036854775807

/-- An integer kept only if it fits a signed word of 64 bits. -/
def word? (i : Int) : Option Int :=
  if minWord ≤ i ∧ i ≤ maxWord then some i else none

/-- Reads an optional sign and one or more decimal digits as a signed word. -/
def readWord? : List Char → Option Int
  | '-' :: rest => (numeral? rest).bind fun n => word? (-(n : Int))
  | '+' :: rest => (numeral? rest).bind fun n => word? (n : Int)
  | cs => (numeral? cs).bind fun n => word? (n : Int)

end DropFlow.Text
