/-
  DropFlow/Check.lean
  ===================
  The check of a program: loading, the analysis of each entry, and the findings of all
  of them merged.

  Loading lowers every function, so that what cannot be lowered is refused before any
  analysis.  Each entry has a flow graph of its own.  Findings on silenced lines are
  left out, and the rest may also be written to a report file.
-/
import DropFlow.Entries
import DropFlow.Finding.Detection
import DropFlow.Finding.Report
import DropFlow.Flow.Analysis
import DropFlow.Program.Loading

namespace DropFlow

open DropFlow.Text

/-! ### 1. Causes of a failure -/

inductive CheckError where
  | loading (e : Program.LoadError)
  | nothingDefined (paths : List String)
  | lowering (e : Program.BodyError)
  | calls (e : Program.BodyError)
  | entries (e : EntryError)
  | ambiguous (entry : String) (names : List String)
  | aborted (entry : String) (e : AnalysisError)
  | unanswered (entry : String)
  | report (e : FileError)
  deriving DecidableEq, Repr

def CheckError.message : CheckError → String
  | .loading e => e.message
  | .nothingDefined paths => "no function with a body in " ++ bracketed paths
  | .lowering e => "failed to lower IR: " ++ e.message
  | .calls e => e.message
  | .entries e => e.message
  | .ambiguous entry names =>
    "entry " ++ quoted entry ++ " is ambiguous, it matches " ++ bracketed names
  | .aborted entry e => "analysis of " ++ entry ++ " aborted: " ++ e.message
  | .unanswered entry => "a call in the analysis of " ++ entry ++ " leaves the program"
  | .report e => "could not create report file: " ++ e.message

/-! ### 2. Loading -/

/-- A program whose functions are lowered, with its calls. -/
structure Loaded where
  program : Program
  calls : CallGraph
  deriving DecidableEq, Repr

/-- Lowers a program and finds its calls. -/
def Program.prepare (p : Program) (config : Config) (paths : List String) :
    Except CheckError Loaded × List Notice :=
  if p.defined.isEmpty then (.error (.nothingDefined paths), [])
  else
    match p.lowerAll with
    | (_, notices, some e) => (.error (.lowering e), notices)
    | (p, notices, none) =>
      match staticCallGraph p config with
      | (.error e, _, more) => (.error (.calls e), notices ++ more)
      | (.ok calls, p, more) =>
        let done : Notice := ⟨.level .debug, fun elapsed => ["Loaded " ++ decimal p.size ++
          " functions (" ++ decimal p.defined.length ++ " with a body) in " ++
          secondsText elapsed ++ " s\n"]⟩
        (.ok ⟨p, calls⟩, notices ++ more ++ [done])

def Loaded.load (files : Files) (config : Config) (paths : List String)
    (yaml : Yaml.Library := Yaml.Library.own) : Except CheckError Loaded × List Notice :=
  match Program.load files paths yaml with
  | (.error e, notices) => (.error (.loading e), notices)
  | (.ok p, notices) =>
    let (result, more) := p.prepare config paths
    (result, notices ++ more)

/-! ### 3. One entry -/

def analyzedNotice (p : Program) (entry : Int) (s : Flow.State) : Notice :=
  ⟨.level .debug, fun elapsed => [p.name entry ++ ": " ++ decimal s.reached.length ++
    " contextual calls, " ++ decimal s.graph.size ++ " nodes (" ++ secondsText elapsed ++ " s)\n"]⟩

def analyzeEntry (p : Program) (config : Config) (entry : Int) :
    Except CheckError Flow.State × List Notice :=
  match Flow.analyze p config entry with
  | (s, some e) => (.error (.aborted (p.name entry) e), s.notices.toList)
  | (s, none) => (.ok s, s.notices.toList ++ [analyzedNotice p entry s])

structure EntryResult where
  /-- The program, with the bodies that have been asked for. -/
  program : Program
  graph : Flow.Graph
  detected : Detected

def detectedNotice (p : Program) (entry : Int) (d : Detected) : Notice :=
  .debug fun _ => p.name entry ++ ": " ++ decimal d.uses.length ++ " use after free, " ++
    decimal d.drops.length ++ " double free before merging\n"

/-- Analyzes an entry and finds the uses and drops after a drop. -/
def checkEntry (p : Program) (config : Config) (entry : Int) :
    Except CheckError EntryResult × List Notice :=
  match analyzeEntry p config entry with
  | (.error e, notices) => (.error e, notices)
  | (.ok s, notices) =>
    match detect s.graph (Oracle.make s.program s.calls) with
    | (o, none) => (.error (.unanswered (p.name entry)), notices ++ o.notices.toList)
    | (o, some d) =>
      (.ok ⟨o.program, s.graph, d⟩, notices ++ o.notices.toList ++ [detectedNotice p entry d])

/-! ### 4. All entries -/

/-- Merges the findings of entries, up to the first entry that fails. -/
def checkEntries (config : Config) (p : Program) (m : Merger) :
    List Int → Except CheckError Merger × List Notice
  | [] => (.ok m, [])
  | entry :: rest =>
    match checkEntry p config entry with
    | (.error e, notices) => (.error e, notices)
    | (.ok r, notices) =>
      let (result, more) := checkEntries config r.program (m.addDetected r.graph r.detected) rest
      (result, notices ++ more)

def doneNotices (all kept : Findings) : List Notice :=
  let silenced := all.count - kept.count
  (if 0 < silenced then [Notice.info fun _ => decimal silenced ++ " findings suppressed\n"]
    else []) ++
  [⟨.level .info, fun elapsed => ["Memory check done (" ++ secondsText elapsed ++ " s): " ++
    decimal kept.uses.length ++ " use after free, " ++ decimal kept.drops.length ++
    " double free\n"]⟩]

/-- The findings of a program that are not silenced. -/
def Loaded.check (l : Loaded) (config : Config) : Except CheckError Findings × List Notice :=
  match findEntries l.program l.calls config.options.entries with
  | (.error e, notices) => (.error (.entries e), notices)
  | (.ok entries, notices) =>
    let notices := notices ++ [Notice.info fun _ =>
      "Checking " ++ decimal entries.length ++ " entry points ...\n"]
    match checkEntries config l.program {} entries with
    | (.error e, more) => (.error e, notices ++ more)
    | (.ok m, more) =>
      let kept := m.findings.filter l.program.isSuppressed
      (.ok kept, notices ++ more ++ doneNotices m.findings kept)

/-! ### 5. Reports -/

structure CheckOutcome where
  /-- The findings, unless there is no result. -/
  findings : Option Findings
  error : Option CheckError
  files : Files
  notices : List Notice

def reportPath (directory : String) (number : Nat) : String :=
  let slash := if directory.toList.getLast? = some '/' then "" else "/"
  directory ++ slash ++ "memcheck-report-" ++ decimal number ++ ".json"

def writeReport (files : Files) (directory : String) (number : Nat) (r : Findings) :
    Except CheckError Files × List Notice :=
  let path := reportPath directory number
  match files.write path r.json with
  | .error e => (.error (.report e), [])
  | .ok files =>
    (.ok files, [Notice.info fun _ => "Report written in " ++ files.absolute path ++ "\n"])

/-- Checks a program and writes a report file, if there is a directory for it.  The findings
    remain when only the report fails. -/
def Loaded.run (l : Loaded) (config : Config) (files : Files) (reportNumber : Nat) : CheckOutcome :=
  match l.check config with
  | (.error e, notices) => ⟨none, some e, files, notices⟩
  | (.ok r, notices) =>
    if config.options.reportsDir = "" then ⟨some r, none, files, notices⟩
    else
      match writeReport files config.options.reportsDir reportNumber r with
      | (.error e, more) => ⟨some r, some e, files, notices ++ more⟩
      | (.ok files, more) => ⟨some r, none, files, notices ++ more⟩

/-! ### 6. Drawings -/

/-- The drawing of the flow graph of the one function that an entry names. -/
def Loaded.draw (l : Loaded) (config : Config) (entry : String) :
    Except CheckError String × List Notice :=
  match namedEntries l.program [entry] with
  | (.error e, notices) => (.error (.entries e), notices)
  | (.ok ids, notices) =>
    match ids with
    | [id] =>
      match analyzeEntry l.program config id with
      | (.error e, more) => (.error e, notices ++ more)
      | (.ok s, more) =>
        (.ok (s.graph.drawing (l.program.name id) l.program.name), notices ++ more)
    | _ => (.error (.ambiguous entry (ids.map l.program.name)), notices)

end DropFlow
