/-
  DropFlow/Command/Run.lean
  =========================
  The two commands: the check of a program, and the drawing of a flow graph.

  A run takes its arguments and its surroundings and gives a result, together with what
  it announces and the files that it leaves behind.
-/
import DropFlow.Check
import DropFlow.Command.Flag
import DropFlow.Config.Document

namespace DropFlow.Command

open DropFlow.Text

/-! ### 1. Runs -/

/-- What a command finds around it. -/
structure Surroundings where
  files : Files
  /-- Whether the standard output is a terminal. -/
  terminal : Bool := false
  /-- The number of the report file, if one is written. -/
  reportNumber : Nat := 0
  deriving DecidableEq, Repr

inductive CommandError where
  | config (path : String) (e : ConfigError)
  | unknownTopic (topic : String)
  | noFiles
  | entryMissing
  | loading (e : CheckError)
  | checking (e : CheckError)
  | unwritable (e : FileError)
  deriving DecidableEq, Repr

def CommandError.message : CommandError → String
  | .config path e => "failed to load config file " ++ path ++ ": " ++ e.message
  | .unknownTopic topic => (ConfigError.unknownTopic topic).message
  | .noFiles => "could not load program: no IR file given"
  | .entryMissing => "an entry function is required (-entry)"
  | .loading e => "could not load program: " ++ e.message
  | .checking e => e.message
  | .unwritable e => "could not write graph: " ++ e.message

structure Run (α : Type) where
  result : Except CommandError α
  files : Files
  logger : Logger := {}
  notices : List Notice := []

/-- The configuration of a file, or the default one without a file. -/
def loadConfig (files : Files) (path : String) (verbose : Bool) :
    Except CommandError Config × Files :=
  let (result, files) :=
    if path = "" then (.ok {}, files)
    else
      let (loaded, files) := Config.loadFile files path
      (loaded.mapError (CommandError.config path), files)
  (result.map fun c => if verbose then c.verbose else c, files)

/-- The first line that a run announces. -/
def readingText (colored : Bool) : String :=
  Emphasis.faint.apply colored "Reading IR files" ++ "\n"

/-! ### 2. The check -/

def checkFlags : List Flag := [
  { name := "config", usage := "config file path for analysis" },
  { name := "debug", usage := "comma separated debug topics (ir, assign, reachable, worklist, " ++
      "pfg, callgraph, check, all)" },
  { name := "entries", usage := "comma separated entry functions, matched by their last segments" },
  { name := "json", usage := "print the findings as JSON", isSwitch := true },
  { name := "no-color", usage := "disable colors in the output", isSwitch := true },
  { name := "open-debug", usage := "print the debug topics", isSwitch := true },
  { name := "verbose", usage := "verbose printing on standard error", isSwitch := true }]

def checkUsage : String :=
  "Check a program for use-after-free and double-free bugs.\n" ++
  "Usage:\n" ++
  "  memcheck check [options] <IR file(s)>\n" ++
  "Examples:\n" ++
  "  % memcheck check -config config.yaml target/memcheck/*.yaml\n" ++
  "  % memcheck check -entries server.run -json crate.yaml\n" ++
  "  % memcheck check -open-debug -debug pfg,check crate.yaml\n"

/-- The number of findings, and the text that shows them. -/
structure Answer where
  count : Nat
  output : String
  deriving DecidableEq, Repr

/-- A configuration with what the arguments of the check put in its place. -/
def overrideConfig (c : Config) (a : Arguments) : Except CommandError Config := do
  let entries := a.items "entries"
  let topics := a.items "debug"
  let c := if entries.isEmpty then c else { c with options := { c.options with entries } }
  let c ← if topics.isEmpty then .ok c else (c.setTopics topics).mapError .unknownTopic
  return if a.isOn "open-debug" then { c with options := { c.options with openDebug := true } }
    else c

/-- The answer of the check to its findings. -/
def answerOf (a : Arguments) (colored : Bool) (r : Findings) : Answer :=
  ⟨r.count, if a.isOn "json" then r.json else r.report colored⟩

def checkFiles (s : Surroundings) (files : Files) (c : Config) (a : Arguments) : Run Answer :=
  let colored := s.terminal && !(a.isOn "no-color" || a.isOn "json")
  if a.operands.isEmpty then { result := .error .noFiles, files, logger := c.logger }
  else
    let notices := [Notice.info fun _ => readingText colored]
    match Loaded.load files c a.operands with
    | (.error e, more) =>
      { result := .error (.loading e), files, logger := c.logger, notices := notices ++ more }
    | (.ok l, more) =>
      let out := l.run c files s.reportNumber
      { files := out.files
        logger := c.logger
        notices := notices ++ more ++ out.notices
        result := match out.error with
          | some e => .error (.checking e)
          | none => .ok (answerOf a colored (out.findings.getD {})) }

def runCheck (s : Surroundings) (a : Arguments) : Run Answer :=
  match loadConfig s.files (a.value "config") (a.isOn "verbose") with
  | (.error e, files) => { result := .error e, files }
  | (.ok c, files) =>
    match overrideConfig c a with
    | .error e => { result := .error e, files }
    | .ok c => checkFiles s files c a

/-! ### 3. The drawing -/

def renderFlags : List Flag := [
  { name := "config", usage := "config file path for analysis" },
  { name := "entry", usage := "entry function, matched by its last segments" },
  { name := "o", usage := "output file for the graph (standard output if not specified)" },
  { name := "verbose", usage := "verbose printing on standard error", isSwitch := true }]

def renderUsage : String :=
  "Render the pointer flow graph of an entry point.\n" ++
  "Usage:\n" ++
  "  memcheck render [options] -entry <function> <IR file(s)>\n" ++
  "Examples:\n" ++
  "  % memcheck render -entry main -o pfg.dot crate.yaml\n" ++
  "  % dot -Tsvg pfg.dot -o pfg.svg\n"

/-- Gives a drawing to the standard output, or to a file if one is named. -/
def deliver (files : Files) (path text : String) :
    Except CommandError String × Files × List Notice :=
  if path = "" then (.ok text, files, [])
  else
    match files.write path text with
    | .error e => (.error (.unwritable e), files, [])
    | .ok files => (.ok "", files, [Notice.plain fun _ => "Graph written in " ++ path ++ "\n"])

def renderFiles (s : Surroundings) (files : Files) (c : Config) (a : Arguments) : Run String :=
  let notices := [Notice.plain fun _ => readingText s.terminal]
  match Loaded.load files c a.operands with
  | (.error e, more) =>
    { result := .error (.loading e), files, logger := c.logger, notices := notices ++ more }
  | (.ok l, more) =>
    match l.draw c (a.value "entry") with
    | (.error e, last) =>
      { result := .error (.checking e), files, logger := c.logger
        notices := notices ++ more ++ last }
    | (.ok text, last) =>
      let (result, files, written) := deliver files (a.value "o") text
      { result, files, logger := c.logger, notices := notices ++ more ++ last ++ written }

def runRender (s : Surroundings) (a : Arguments) : Run String :=
  if a.value "entry" = "" then { result := .error .entryMissing, files := s.files }
  else
    match loadConfig s.files (a.value "config") (a.isOn "verbose") with
    | (.error e, files) => { result := .error e, files }
    | (.ok c, files) => renderFiles s files c a

end DropFlow.Command
