/-
  DropFlow/Command/Flag.lean
  ==========================
  The flags of a command line.

  Flags come before the operands and start with one or two dashes; the first argument
  that does not ends them, and so does `--`.  A value follows an equals sign or is the
  next argument; a switch takes a value only after an equals sign.
-/
import DropFlow.Text.Quoted
import DropFlow.Text.Space

namespace DropFlow.Command

open DropFlow.Text

/-! ### 1. Flags and their values -/

structure Flag where
  name : String
  usage : String
  /-- Whether the flag is on or off, rather than set to a value. -/
  isSwitch : Bool := false
  deriving DecidableEq, Repr

def Flag.default (f : Flag) : String := if f.isSwitch then "false" else ""

/-- The spellings of true and false. -/
def truth? (s : String) : Option Bool :=
  if ["1", "t", "T", "TRUE", "true", "True"].contains s then some true
  else if ["0", "f", "F", "FALSE", "false", "False"].contains s then some false
  else none

/-- The items of a list that commas divide, without blanks around them. -/
def listItems (value : String) : List String :=
  ((split ',' value).map trim).filter (· ≠ "")

/-! ### 2. Reading arguments -/

/-- An argument, by its shape. -/
inductive Word where
  /-- Not a flag. -/
  | operand
  /-- The end of the flags. -/
  | finish
  /-- A flag without a name. -/
  | malformed
  | flag (name : String) (value : Option String)
  deriving DecidableEq, Repr

/-- The shape of an argument after its dashes. -/
def Word.named (cs : List Char) : Word :=
  if cs.head? = some '-' ∨ cs.head? = some '=' then .malformed
  else
    let (name, value) := cutChars '=' cs
    .flag (String.ofList name) (value.map String.ofList)

def Word.ofText (s : String) : Word :=
  match s.toList with
  | ['-', '-'] => .finish
  | '-' :: '-' :: rest => .named rest
  | '-' :: c :: rest => .named (c :: rest)
  | _ => .operand

/-- Why arguments are refused, or not acted on. -/
inductive FlagError where
  | badSyntax (argument : String)
  | undefined (name : String)
  | valueMissing (name : String)
  | notTruth (value name : String)
  | helpWanted
  deriving DecidableEq, Repr

/-- The wording of a cause; a wish for help has none. -/
def FlagError.message : FlagError → String
  | .badSyntax argument => "bad flag syntax: " ++ argument
  | .undefined name => "flag provided but not defined: -" ++ name
  | .valueMissing name => "flag needs an argument: -" ++ name
  | .notTruth value name =>
    "invalid boolean value " ++ quoted value ++ " for -" ++ name ++ ": parse error"
  | .helpWanted => ""

/-- The flags that are set, in order, and the operands. -/
structure Arguments where
  settings : List (String × String) := []
  operands : List String := []
  deriving DecidableEq, Repr

namespace Arguments

/-- Puts a setting in front. -/
def set (a : Arguments) (name value : String) : Arguments :=
  { a with settings := (name, value) :: a.settings }

def read (flags : List Flag) : List String → Except FlagError Arguments
  | [] => .ok {}
  | word :: rest =>
    match Word.ofText word with
    | .operand => .ok { operands := word :: rest }
    | .finish => .ok { operands := rest }
    | .malformed => .error (.badSyntax word)
    | .flag name value =>
      match flags.find? (·.name = name) with
      | none =>
        if name = "help" ∨ name = "h" then .error .helpWanted else .error (.undefined name)
      | some f =>
        if f.isSwitch then
          match truth? (value.getD "true") with
          | some on => (read flags rest).map (·.set name (if on then "true" else "false"))
          | none => .error (.notTruth (value.getD "true") name)
        else
          match value with
          | some v => (read flags rest).map (·.set name v)
          | none =>
            match rest with
            | v :: rest => (read flags rest).map (·.set name v)
            | [] => .error (.valueMissing name)

/-- All values that a flag is set to. -/
def values (a : Arguments) (name : String) : List String :=
  (a.settings.filter (·.1 = name)).map (·.2)

/-- The value of a flag: the last one that it is set to. -/
def value (a : Arguments) (name : String) : String := (a.values name).getLast?.getD ""

def isOn (a : Arguments) (name : String) : Bool := a.value name = "true"

/-- The items of all the lists that a flag is set to. -/
def items (a : Arguments) (name : String) : List String := (a.values name).flatMap listItems

end Arguments

/-! ### 3. Usage -/

/-- How a command is used: an introduction, and a line for each flag. -/
def usageText (introduction : String) (flags : List Flag) : String :=
  introduction ++ "\nOptions:\n" ++ String.join (flags.map fun f =>
    "  " ++ f.name ++ ": " ++ f.usage ++ " (default: " ++ quoted f.default ++ ")\n")

end DropFlow.Command
