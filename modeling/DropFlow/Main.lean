/-
  DropFlow/Main.lean
  ==================
  The program: it looks at the files that its arguments mention, lets the command line
  respond, and carries the response out.

  Nothing is decided here.  The files are looked at twice, because the first look
  brings the configuration, which may mention a directory for reports.
-/
import DropFlow.Command

namespace DropFlow.Command

open DropFlow.Text

/-- The path of a spot. -/
def pathOf (spot : List String) : String := "/" ++ "/".intercalate spot

/-- Looks at a spot of the disk whose parent is a directory. -/
def lookAt (spot : List String) : IO (Option FileEntry) := do
  try
    return some (.file (← IO.FS.readFile (pathOf spot)))
  catch e =>
    match e with
    | .inappropriateType .. => return some .directory
    | _ => return none

/-- Follows names on the disk and adds what is found on the way. -/
def follow (files : Files) (spot : List String) : List String → IO Files
  | [] => return files
  | name :: rest => do
    if name = "" ∨ name = "." then follow files spot rest
    else if name = ".." then follow files spot.dropLast rest
    else
      let spot := spot ++ [name]
      match files.entryAt? spot with
      | some .directory => follow files spot rest
      | some (.file _) => return files
      | none =>
        match ← lookAt spot with
        | some .directory => follow (files.put spot .directory) spot rest
        | some (.file text) => return files.put spot (.file text)
        | none => return files

/-- Adds what the arguments mention. -/
def lookAround (args : List String) (files : Files) : IO Files :=
  (mentionedPaths files args).foldlM
    (fun files path => follow files (files.start path) (split '/' path)) files

/-- Makes the directories and writes the files that are new. -/
def carryOut (before after : Files) : IO Unit :=
  after.entries.forM fun (spot, entry) =>
    if before.entries.lookup spot = some entry then return
    else
      match entry with
      | .directory => IO.FS.createDir (pathOf spot)
      | .file text => IO.FS.writeFile (pathOf spot) text

end DropFlow.Command

section

open DropFlow DropFlow.Command

def main (args : List String) : IO UInt32 := do
  let started ← IO.monoMsNow
  let home := (Text.split '/' (toString (← IO.currentDir))).filter (· ≠ "")
  let files ← lookAround args (← lookAround args { workingDirectory := home })
  let surroundings : Surroundings :=
    { files, terminal := ← (← IO.getStdout).isTty, reportNumber := ← IO.rand 0 999999999 }
  let response ← IO.lazyPure fun _ => respond surroundings args
  carryOut files response.files
  let elapsed := ((← IO.monoMsNow) - started) / 10
  (← IO.getStderr).putStr (response.errorOutput elapsed)
  (← IO.getStdout).putStr response.output
  return response.status.toUInt32

end
