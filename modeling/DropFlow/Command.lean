/-
  DropFlow/Command.lean
  =====================
  The command line: which command is run, what is written and with which status the
  program ends.

  The status is 0 when all is well, 1 when there are findings and 2 after an error.
-/
import DropFlow.Command.Hint
import DropFlow.Command.Run

namespace DropFlow.Command

open DropFlow.Text

/-! ### Texts -/

def version : String := "v0.1.0"

def usage : String :=
  "Memcheck: use-after-free and double-free detection\n" ++
  "Usage:\n" ++
  "  memcheck [tool] [options] <IR file(s)>\n" ++
  "Tools:\n" ++
  "  - check: analyzes the program from its entry points and reports the memory bugs found\n" ++
  "  - render: writes the pointer flow graph of an entry point in graphviz format\n" ++
  "Exit status:\n" ++
  "  0 when no bug is found, 1 when bugs are reported, 2 on errors\n" ++
  "Examples:\n" ++
  "  Check a crate: memcheck check -config config.yaml crate.yaml\n" ++
  "  Render a graph: memcheck render -entry main -o pfg.dot crate.yaml"

/-! ### Responses -/

/-- What the program does in the end. -/
structure Response where
  status : Nat
  /-- What is written on standard output. -/
  output : String := ""
  files : Files
  logger : Logger := {}
  /-- What is announced on standard error. -/
  notices : List Notice := []

/-- What is written on standard error, after so many hundredths of a second. -/
def Response.errorOutput (r : Response) (elapsed : Nat) : String :=
  r.logger.transcript elapsed .standard r.notices

def Response.complain (s : Surroundings) (status : Nat) (text : String) : Response :=
  { status, files := s.files, notices := [Notice.plain fun _ => text] }

/-- The lines about an error, with a hint if there is one. -/
def complaint (e : CommandError) : String :=
  let help := hint e.message
  "error: " ++ e.message ++ "\n" ++ (if help = "" then "" else "Hint: " ++ help ++ "\n")

/-- The response to a run; `finish` gives the status and the output of a result. -/
def Run.respond {α : Type} (r : Run α) (finish : α → Nat × String) : Response :=
  match r.result with
  | .ok a =>
    { status := (finish a).1, output := (finish a).2, files := r.files, logger := r.logger
      notices := r.notices }
  | .error e =>
    { status := 2, files := r.files, logger := r.logger
      notices := r.notices ++ [Notice.plain fun _ => complaint e] }

/-- The response to arguments that cannot be read. -/
def refuse (s : Surroundings) (introduction : String) (flags : List Flag) : FlagError → Response
  | .helpWanted => .complain s 0 (usageText introduction flags)
  | e => .complain s 2 (e.message ++ "\n" ++ usageText introduction flags)

def respondCheck (s : Surroundings) (args : List String) : Response :=
  match Arguments.read checkFlags args with
  | .error e => refuse s checkUsage checkFlags e
  | .ok a => (runCheck s a).respond fun r => (if 0 < r.count then 1 else 0, r.output)

def respondRender (s : Surroundings) (args : List String) : Response :=
  match Arguments.read renderFlags args with
  | .error e => refuse s renderUsage renderFlags e
  | .ok a => (runRender s a).respond fun text => (0, text)

/-- The response of the program to its arguments. -/
def respond (s : Surroundings) : List String → Response
  | [] => .complain s 2 ("error: expected subcommand\n" ++ usage ++ "\n")
  | word :: args =>
    if word = "-help" ∨ word = "--help" then
      { status := 0, output := usage ++ "\n", files := s.files }
    else if word = "-version" ∨ word = "--version" then
      { status := 0, output := version ++ "\n", files := s.files }
    else if word = "check" then respondCheck s args
    else if word = "render" then respondRender s args
    else .complain s 2 ("error: unexpected command: " ++ word ++ "\nusage:\n" ++ usage ++ "\n")

/-! ### Looking around -/

/-- The directory for reports that a configuration file names. -/
def reportDirectory (files : Files) (path : String) : List String :=
  match loadConfig files path false with
  | (.ok c, _) => [c.options.reportsDir]
  | (.error (.config _ (.directory path)), _) => [path]
  | (.error _, _) => []

/-- The paths that a response looks at or writes to: what the arguments name, and the directory
    for reports as far as the configuration file is among the files. -/
def mentionedPaths (files : Files) : List String → List String
  | "check" :: args =>
    match Arguments.read checkFlags args with
    | .ok a => a.value "config" :: reportDirectory files (a.value "config") ++ a.operands
    | .error _ => []
  | "render" :: args =>
    match Arguments.read renderFlags args with
    | .ok a =>
      a.value "config" :: a.value "o" :: reportDirectory files (a.value "config") ++ a.operands
    | .error _ => []
  | _ => []

end DropFlow.Command
