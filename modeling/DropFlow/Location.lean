/-
  DropFlow/Location.lean
  ======================
  Source ranges and blocks of the program: where an effect stands in the text, and
  where it stands in the control flow.
-/
import DropFlow.Text.Decimal

namespace DropFlow

open DropFlow.Text

/-! ### 1. Source ranges -/

/-- A source range.  An empty file name means that the range is unknown, and an end line that
    is not positive that only the start is known. -/
structure Location where
  file : String := ""
  line : Int := 0
  column : Int := 0
  endLine : Int := 0
  endColumn : Int := 0
  deriving DecidableEq, Repr, Inhabited

namespace Location

def text (l : Location) : String :=
  if l.file = "" then "<unknown>"
  else
    let start := l.file ++ ":" ++ decimal l.line ++ ":" ++ decimal l.column
    if 0 < l.endLine then start ++ ": " ++ decimal l.endLine ++ ":" ++ decimal l.endColumn
    else start

/-- The order of a report: by file, and then by the four numbers. -/
def less (a b : Location) : Bool :=
  if a.file ≠ b.file then a.file < b.file
  else if a.line ≠ b.line then a.line < b.line
  else if a.column ≠ b.column then a.column < b.column
  else if a.endLine ≠ b.endLine then a.endLine < b.endLine
  else a.endColumn < b.endColumn

end Location

/-! ### 2. Blocks of the program -/

/-- A basic block of a function of the program. -/
structure BlockRef where
  function : Int
  block : Int
  deriving DecidableEq, Repr, Inhabited

def BlockRef.text (b : BlockRef) : String :=
  "f" ++ decimal b.function ++ ":bb" ++ decimal b.block

/-- A program point where an effect happens. -/
structure Site where
  function : Int
  block : Int
  location : Location := {}
  deriving DecidableEq, Repr, Inhabited

def Site.blockRef (s : Site) : BlockRef := ⟨s.function, s.block⟩

def Site.text (s : Site) : String := s.blockRef.text ++ " (" ++ s.location.text ++ ")"

end DropFlow
