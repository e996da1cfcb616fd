/-
  DropFlow/Finding/Report.lean
  ============================
  Findings for people and for programs: a text with or without colors, and a JSON
  document.
-/
import DropFlow.Finding
import DropFlow.Text.Emphasis
import DropFlow.Text.Json

namespace DropFlow

open DropFlow.Text

/-! ### 1. Text -/

/-- What happens at a location, and to which variable. -/
def describe (what name : String) : String :=
  if name = "" then what ++ "." else what ++ ", relative variable: " ++ escaped name

def Finding.report (colored : Bool) (title firstly then' : String) (f : Finding) : String :=
  let arrow := Emphasis.faint.apply colored "-->"
  Emphasis.yellow.apply colored "warning:" ++ Emphasis.cyan.apply colored "(memory check)" ++ " " ++
    Emphasis.bold.apply colored title ++ "\n" ++
  "  " ++ arrow ++ " " ++ f.first.text ++ "\n" ++
  "    " ++ Emphasis.yellow.apply colored (describe firstly f.firstName) ++ "\n" ++
  "  " ++ arrow ++ " " ++ f.second.text ++ "\n" ++
  "    " ++ Emphasis.yellow.apply colored (describe then' f.secondName) ++ "\n\n"

def Findings.report (colored : Bool) (r : Findings) : String :=
  String.join (r.uses.map (Finding.report colored "use after free memory bug may exists"
    "first drop here" "then dereference here")) ++
  String.join (r.drops.map (Finding.report colored "double free memory bug may exists"
    "first drop here" "then drop here"))

/-! ### 2. JSON -/

def Location.toJson (l : Location) : Json :=
  .object [("file", .string l.file), ("line", .number l.line), ("col", .number l.column),
    ("end_line", .number l.endLine), ("end_col", .number l.endColumn)]

/-- The field of a variable; none if it has no name. -/
def nameField (key name : String) : List (String × Json) :=
  if name = "" then [] else [(key, .string name)]

def Finding.useJson (f : Finding) : Json :=
  .object ([("deref", f.second.toJson)] ++ nameField "deref_var" f.secondName ++
    [("drop", f.first.toJson)] ++ nameField "drop_var" f.firstName)

def Finding.dropJson (f : Finding) : Json :=
  .object ([("first_drop", f.first.toJson)] ++ nameField "first_drop_var" f.firstName ++
    [("then_drop", f.second.toJson)] ++ nameField "then_drop_var" f.secondName)

/-- The document of all findings; both lists are null when there is no result at all. -/
def Findings.document : Option Findings → Json
  | none => .object [("use_after_free", .null), ("double_free", .null)]
  | some r =>
    .object [("use_after_free", .array (r.uses.map Finding.useJson)),
      ("double_free", .array (r.drops.map Finding.dropJson))]

def Findings.json (r : Findings) : String := (Findings.document (some r)).text

end DropFlow
