/-
  DropFlow/Command/Hint.lean
  ==========================
  Hints on what to do about an error, found by the wording of its message.
-/
import DropFlow.Pattern.Expression

namespace DropFlow.Command

/-- The list itself and all that remains after some of its first elements. -/
def suffixes {α : Type} : List α → List (List α)
  | [] => [[]]
  | a :: rest => (a :: rest) :: suffixes rest

def holds (text part : String) : Bool := (suffixes text.toList).any part.toList.isPrefixOf

/-- Whether a message tells of the opening of a file that is named like a flag. -/
def opensFlag (message : String) : Bool :=
  let start := "open -".toList
  (suffixes message.toList).any fun cs =>
    start.isPrefixOf cs && (cs[start.length]?).any Pattern.isWordChar

/-- A hint for an error message; empty if there is none. -/
def hint (message : String) : String :=
  if ["load program", "read IR file", "decode IR"].any fun what =>
      holds message ("could not " ++ what) then
    if opensFlag message then "all command line flags should be before the paths to the IR files"
    else "make sure the arguments are IR files (yaml or json) produced by the front end"
  else if holds message "no function with a body" then
    "the IR files only declare functions; " ++
      "the front end should emit the bodies of the crate's functions"
  else if holds message "analysis invariant violated" then
    "the IR is malformed or not supported; " ++
      "run with -open-debug -debug=ir to print the lowered functions"
  else ""

end DropFlow.Command
