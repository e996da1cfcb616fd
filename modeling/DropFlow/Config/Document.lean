/-
  DropFlow/Config/Document.lean
  =============================
  Configurations as YAML documents, and their loading.

  A field that is not written keeps its default, and fields that are not known are
  ignored.  Loading makes the directory for reports, puts the default in the place of a
  log level of zero and of a depth that is not positive, and checks the debug topics.
-/
import DropFlow.Config
import DropFlow.Yaml.Decoding

namespace DropFlow

open DropFlow.Text DropFlow.Yaml

/-! ### 1. Reading -/

/-- Reads a pattern: a scalar, or a mapping with the pattern as its only field. -/
def readPattern : FieldReader CalleePattern := fun n old => do
  let n ← target n
  if isNull n then return (old, false)
  match n with
  | .scalar _ _ text _ => return (⟨text⟩, true)
  | .mapping .. =>
    let before := (← get).length
    let (p, _) ← readRecord "struct" [
      .of "pattern" readText (fun p : CalleePattern => p.text) (fun _ v => ⟨v⟩)] n ⟨""⟩
    return if (← get).length = before then (p, true) else (old, false)
  | _ =>
    throw (.refused ("line " ++ decimal n.line ++
      ": callee pattern should be a string or have a pattern field"))

def readOptions : FieldReader Options := readRecord "config.Options" [
  .of "reports-dir" readText (·.reportsDir) (fun o v => { o with reportsDir := v }),
  .of "log-level" (readInt "int") (·.logLevel) (fun o v => { o with logLevel := v }),
  .of "silence-warn" readBool (·.silenceWarn) (fun o v => { o with silenceWarn := v }),
  .of "debug-topics" (readList "[]string" readText "") (·.debugTopics)
    (fun o v => { o with debugTopics := v }),
  .of "open-debug" readBool (·.openDebug) (fun o v => { o with openDebug := v }),
  .of "entries" (readList "[]string" readText "") (·.entries) (fun o v => { o with entries := v }),
  .of "max-path-depth" (readInt "int") (·.maxDepth) (fun o v => { o with maxDepth := v })]

def readFilters : FieldReader CalleeFilters := readRecord "config.CalleeFilters" [
  .of "ignored" (readList "[]config.CalleePattern" readPattern ⟨""⟩) (·.ignored)
    (fun f v => { f with ignored := v }),
  .of "passthrough" (readList "[]config.CalleePattern" readPattern ⟨""⟩) (·.passthrough)
    (fun f v => { f with passthrough := v })]

def readConfig : FieldReader Config := readRecord "config.Config" [
  .of "options" readOptions (·.options) (fun c v => { c with options := v }),
  .of "callee-filters" readFilters (·.filters) (fun c v => { c with filters := v })]

/-! ### 2. Loading -/

inductive ConfigError where
  | unreadable (e : FileError)
  | undecodable (e : DecodeError)
  | directory (path : String)
  | unknownTopic (topic : String)
  deriving DecidableEq, Repr

def ConfigError.message : ConfigError → String
  | .unreadable e => "could not read config file: " ++ e.message
  | .undecodable e => "could not unmarshal config file: " ++ e.message
  | .directory path => "could not create directory " ++ path
  | .unknownTopic topic => "unknown debug topic " ++ quoted topic

namespace Config

def makeReportsDir (c : Config) (files : Files) : Except ConfigError Files :=
  let path := c.options.reportsDir
  if path = "" then .ok files
  else (files.makeDirectory path).mapError fun _ => .directory path

/-- Replaces a log level of zero and a depth that is not positive. -/
def withDefaults (c : Config) : Config :=
  { c with options := { c.options with
    logLevel := if c.options.logLevel = 0 then Level.info.rank else c.options.logLevel
    maxDepth := if c.options.maxDepth ≤ 0 then defaultMaxDepth else c.options.maxDepth } }

/-- The configuration of a text, and the files after its directory has been made. -/
def load (files : Files) (sourceFile text : String) (yaml : Library := Library.own) :
    Except ConfigError Config × Files :=
  match decodeText yaml false readConfig {} text with
  | .error e => (.error (.undecodable e), files)
  | .ok c =>
    match c.makeReportsDir files with
    | .error e => (.error e, files)
    | .ok files =>
      let c := { c.withDefaults with sourceFile }
      ((c.setTopics c.options.debugTopics).mapError .unknownTopic, files)

/-- The configuration of a file. -/
def loadFile (files : Files) (path : String) (yaml : Library := Library.own) :
    Except ConfigError Config × Files :=
  match files.read path with
  | .error e => (.error (.unreadable e), files)
  | .ok text => load files path text yaml

/-! ### 3. Writing -/

def toTree (c : Config) : Tree :=
  let texts (ss : List String) : Tree := .list (ss.map Tree.text)
  let o := c.options
  .fields [
    ("options", .fields [
      ("reports-dir", .text o.reportsDir), ("log-level", .int o.logLevel),
      ("silence-warn", .bool o.silenceWarn), ("debug-topics", texts o.debugTopics),
      ("open-debug", .bool o.openDebug), ("entries", texts o.entries),
      ("max-path-depth", .int o.maxDepth)]),
    ("callee-filters", .fields [
      ("ignored", texts (c.filters.ignored.map (·.text))),
      ("passthrough", texts (c.filters.passthrough.map (·.text)))])]

/-- The text of a configuration, indented by four columns for each level. -/
def encode (c : Config) (yaml : Library := Library.own) : String := yaml.print 4 c.toTree

end Config

end DropFlow
