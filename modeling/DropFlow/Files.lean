/-
  DropFlow/Files.lean
  ===================
  A tree of files with a working directory, as a value.

  A path is followed step by step, from the root or from the working directory: every
  step but the last has to lead to a directory.  The directories on the way to the
  working directory exist; apart from them only what is listed exists.
-/
import DropFlow.Text.Decimal
import DropFlow.Text.Space

namespace DropFlow

open DropFlow.Text

/-! ### 1. The tree -/

/-- A file with its contents, or a directory. -/
inductive FileEntry where
  | file (text : String)
  | directory
  deriving DecidableEq, Repr, Inhabited

/-- The entries of a tree and the working directory, by the names that lead there from the
    root. -/
structure Files where
  entries : List (List String × FileEntry) := []
  workingDirectory : List String := []
  deriving DecidableEq, Repr, Inhabited

/-- Why a path cannot be followed, or not be used as it is wanted. -/
inductive FileFault where
  | missing
  | notDirectory
  | isDirectory
  deriving DecidableEq, Repr

def FileFault.message : FileFault → String
  | .missing => "no such file or directory"
  | .notDirectory => "not a directory"
  | .isDirectory => "is a directory"

/-- A fault, with what was tried on which path. -/
structure FileError where
  action : String
  path : String
  fault : FileFault
  deriving DecidableEq, Repr

def FileError.message (e : FileError) : String :=
  e.action ++ " " ++ e.path ++ ": " ++ e.fault.message

/-! ### 2. Following a path -/

namespace Files

/-- The entry at a spot. -/
def entryAt? (fs : Files) (spot : List String) : Option FileEntry :=
  if spot.isPrefixOf fs.workingDirectory then some .directory else fs.entries.lookup spot

/-- Follows names from a spot; every spot on the way has to be a directory. -/
def walk (fs : Files) (spot : List String) : List String → Except FileFault (List String)
  | [] => .ok spot
  | name :: rest =>
    match fs.entryAt? spot with
    | none => .error .missing
    | some (.file _) => .error .notDirectory
    | some .directory =>
      if name = "" ∨ name = "." then walk fs spot rest
      -- above the root there is the root again
      else if name = ".." then walk fs spot.dropLast rest
      else walk fs (spot ++ [name]) rest

/-- Where the steps of a path start. -/
def start (fs : Files) (path : String) : List String :=
  if path.toList.head? = some '/' then [] else fs.workingDirectory

/-- The spot of a path. -/
def spot (fs : Files) (path : String) : Except FileFault (List String) :=
  if path = "" then .error .missing else fs.walk (fs.start path) (split '/' path)

/-- The steps of a path, without the empty ones at its end. -/
def steps (path : String) : List String :=
  ((split '/' path).reverse.dropWhile (· = "")).reverse

/-- The directory that holds what a path leads to, and the last name of the path. -/
def holder (fs : Files) (path : String) : Except FileFault (List String × String) :=
  match (steps path).getLast? with
  | none => if path = "" then .error .missing else .ok ([], ".")
  | some last =>
    match fs.walk (fs.start path) (steps path).dropLast with
    | .error fault => .error fault
    | .ok spot =>
      match fs.entryAt? spot with
      | some .directory => .ok (spot, last)
      | some (.file _) => .error .notDirectory
      | none => .error .missing

/-! ### 3. Reading and writing -/

def read (fs : Files) (path : String) : Except FileError String :=
  match fs.spot path with
  | .error fault => .error ⟨"open", path, fault⟩
  | .ok spot =>
    match fs.entryAt? spot with
    | none => .error ⟨"open", path, .missing⟩
    | some .directory => .error ⟨"read", path, .isDirectory⟩
    | some (.file text) => .ok text

def isDirectory (fs : Files) (path : String) : Bool :=
  match fs.spot path with
  | .ok spot => fs.entryAt? spot = some .directory
  | .error _ => false

def put (fs : Files) (spot : List String) (e : FileEntry) : Files :=
  { fs with entries := fs.entries.filter (·.1 ≠ spot) ++ [(spot, e)] }

/-- Whether a name stands for a directory by itself. -/
def isDots (name : String) : Bool := name = "." || name = ".."

/-- Writes a file, which may exist already.  A path that ends with a slash means a directory. -/
def write (fs : Files) (path text : String) : Except FileError Files :=
  match fs.holder path with
  | .error fault => .error ⟨"open", path, fault⟩
  | .ok (spot, last) =>
    if isDots last || path.toList.getLast? = some '/' ||
        fs.entryAt? (spot ++ [last]) = some .directory then
      .error ⟨"open", path, .isDirectory⟩
    else .ok (fs.put (spot ++ [last]) (.file text))

/-- Makes a directory; a path that leads to something already is left alone. -/
def makeDirectory (fs : Files) (path : String) : Except FileError Files :=
  match fs.holder path with
  | .error fault => .error ⟨"mkdir", path, fault⟩
  | .ok (spot, last) =>
    if isDots last || (fs.entryAt? (spot ++ [last])).isSome then .ok fs
    else .ok (fs.put (spot ++ [last]) .directory)

/-- Removes what a path leads to and all that is below it; a path that ends with a step to
    itself is refused. -/
def removeAll (fs : Files) (path : String) : Files :=
  match fs.holder path with
  | .error _ => fs
  | .ok (spot, last) =>
    if last = "." then fs
    else { fs with entries := fs.entries.filter fun e => !(spot ++ [last]).isPrefixOf e.1 }

/-- The names and contents of the files in a directory, by name. -/
def listing (fs : Files) (path : String) : List (String × String) :=
  match fs.spot path with
  | .error _ => []
  | .ok spot =>
    (fs.entries.filterMap fun (names, e) =>
      match e with
      | .file text =>
        if names.dropLast = spot then names.getLast?.map fun last => (last, text) else none
      | .directory => none).mergeSort fun a b => decide (a.1 ≤ b.1)

/-! ### 4. Names of paths -/

/-- Removes empty and neutral steps and resolves steps upwards, as far as possible. -/
def cleanSteps (rooted : Bool) : List String → List String → List String
  | done, [] => done
  | done, name :: rest =>
    if name = "" ∨ name = "." then cleanSteps rooted done rest
    else if name = ".." then
      match done.getLast? with
      | none => cleanSteps rooted (if rooted then [] else [".."]) rest
      | some ".." => cleanSteps rooted (done ++ [".."]) rest
      | some _ => cleanSteps rooted done.dropLast rest
    else cleanSteps rooted (done ++ [name]) rest

/-- The shortest path that means the same. -/
def clean (path : String) : String :=
  let rooted := path.toList.head? = some '/'
  let steps := cleanSteps rooted [] (split '/' path)
  let body := "/".intercalate steps
  if rooted then "/" ++ body else if steps.isEmpty then "." else body

def directoryOf (path : String) : String :=
  clean (String.ofList (path.toList.reverse.dropWhile (· ≠ '/')).reverse)

/-- Two paths joined; empty parts are left out. -/
def join (a b : String) : String :=
  if a = "" ∧ b = "" then ""
  else if a = "" then clean b
  else if b = "" then clean a
  else clean (a ++ "/" ++ b)

/-- The full name of a path. -/
def absolute (fs : Files) (path : String) : String :=
  if path.toList.head? = some '/' then clean path
  else join ("/" ++ "/".intercalate fs.workingDirectory) path

end Files

end DropFlow
