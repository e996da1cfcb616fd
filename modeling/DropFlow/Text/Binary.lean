/-
  DropFlow/Text/Binary.lean
  =========================
  Binary data in a text, in base 64, and the text that the bytes write.

  Line breaks may stand anywhere between the digits.  The last group is filled up with
  `=` signs, and the bits that it has too many are not looked at.  A byte that starts no
  character is replaced, and reading goes on with the byte after it.
-/

namespace DropFlow.Text

/-! ### 1. Base 64 -/

/-- The value of a digit in base 64. -/
def base64Digit? (c : Char) : Option Nat :=
  let n := c.toNat
  if 65 ≤ n ∧ n ≤ 90 then some (n - 65)
  else if 97 ≤ n ∧ n ≤ 122 then some (n - 71)
  else if 48 ≤ n ∧ n ≤ 57 then some (n + 4)
  else if c = '+' then some 62
  else if c = '/' then some 63
  else none

/-- The bytes of groups of four digits, of which the last may be filled up. -/
def base64Bytes? : List Char → Option (List Nat)
  | [] => some []
  | [a, b, '=', '='] => do
    let x ← base64Digit? a
    let y ← base64Digit? b
    return [4 * x + y / 16]
  | [a, b, c, '='] => do
    let x ← base64Digit? a
    let y ← base64Digit? b
    let z ← base64Digit? c
    return [4 * x + y / 16, y % 16 * 16 + z / 4]
  | a :: b :: c :: d :: rest => do
    let x ← base64Digit? a
    let y ← base64Digit? b
    let z ← base64Digit? c
    let w ← base64Digit? d
    let more ← base64Bytes? rest
    return [4 * x + y / 16, y % 16 * 16 + z / 4, z % 4 * 64 + w] ++ more
  | _ => none

/-! ### 2. Characters -/

/-- The bits that a byte adds to a character that has begun. -/
def continuation? (b : Nat) : Option Nat :=
  if 0x80 ≤ b ∧ b ≤ 0xBF then some (b - 0x80) else none

/-- The character with which some bytes start, and how many bytes follow its first one. -/
def leadingChar? : List Nat → Option (Char × Nat)
  | [] => none
  | a :: rest =>
    if a < 0x80 then some (Char.ofNat a, 0)
    else if 0xC2 ≤ a ∧ a ≤ 0xDF then do
      let x ← rest[0]?.bind continuation?
      return (Char.ofNat ((a - 0xC0) * 64 + x), 1)
    else if 0xE0 ≤ a ∧ a ≤ 0xEF then do
      let x ← rest[0]?.bind continuation?
      let y ← rest[1]?.bind continuation?
      let n := ((a - 0xE0) * 64 + x) * 64 + y
      if 0x800 ≤ n ∧ ¬(0xD800 ≤ n ∧ n ≤ 0xDFFF) then some (Char.ofNat n, 2) else none
    else if 0xF0 ≤ a ∧ a ≤ 0xF4 then do
      let x ← rest[0]?.bind continuation?
      let y ← rest[1]?.bind continuation?
      let z ← rest[2]?.bind continuation?
      let n := (((a - 0xF0) * 64 + x) * 64 + y) * 64 + z
      if 0x10000 ≤ n ∧ n ≤ 0x10FFFF then some (Char.ofNat n, 3) else none
    else none

/-- The characters of some bytes, of which the first `skip` belong to a character before. -/
def charsFrom : Nat → List Nat → List Char
  | _, [] => []
  | skip + 1, _ :: rest => charsFrom skip rest
  | 0, b :: rest =>
    match leadingChar? (b :: rest) with
    | some (c, more) => c :: charsFrom more rest
    | none => Char.ofNat 0xFFFD :: charsFrom 0 rest

/-- The text that is written in base 64, if anything is. -/
def base64Text? (s : String) : Option String :=
  (base64Bytes? (s.toList.filter fun c => c ≠ '\n' ∧ c ≠ '\r')).map fun bytes =>
    String.ofList (charsFrom 0 bytes)

example : base64Text? "aGVsbG8=" = some "hello" := by decide +kernel
example : base64Text? "***" = none := by decide +kernel

end DropFlow.Text
