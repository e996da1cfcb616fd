/-
  DropFlow/Config.lean
  ====================
  The options of a check, and the callees whose calls are treated apart.
-/
import DropFlow.Files
import DropFlow.Log
import DropFlow.Pattern
import DropFlow.Text.Quoted

namespace DropFlow

open DropFlow.Text

/-! ### 1. Options -/

/-- The greatest depth of the places that the propagation creates, unless one is set. -/
def defaultMaxDepth : Int := 6

structure Options where
  /-- The directory for report files; none is written if it is empty. -/
  reportsDir : String := ""
  logLevel : Int := Level.info.rank
  silenceWarn : Bool := false
  debugTopics : List String := []
  openDebug : Bool := false
  /-- The ends of the names of the entry functions; the entries are detected if it is empty. -/
  entries : List String := []
  /-- The greatest depth of the places that the propagation creates. -/
  maxDepth : Int := defaultMaxDepth
  deriving DecidableEq, Repr, Inhabited

/-- Callees that are treated apart when they have no body. -/
structure CalleeFilters where
  /-- A call to one of these does not link its arguments to its result. -/
  ignored : List CalleePattern := []
  /-- A call to one of these is not linked, nor are its dispatch candidates followed. -/
  passthrough : List CalleePattern := []
  deriving DecidableEq, Repr, Inhabited

/-- Callees that make a new value of their argument. -/
def defaultIgnored : List CalleePattern :=
  ["::clone$", "::to_owned$", "::to_string$"].map CalleePattern.mk

/-- Callees that only give access to their argument. -/
def defaultPassthrough : List CalleePattern :=
  ["::identity$", "::as_ref$", "::as_mut$", "::borrow$", "::borrow_mut$", "::as_ptr$",
   "::as_mut_ptr$"].map CalleePattern.mk

structure Config where
  options : Options := {}
  filters : CalleeFilters := ⟨defaultIgnored, defaultPassthrough⟩
  /-- The file that the configuration was read from. -/
  sourceFile : String := ""
  deriving DecidableEq, Repr, Inhabited

namespace Config

/-- Whether calls to an unresolved callee link nothing. -/
def isIgnored (c : Config) (name : String) : Bool := anyMatch c.filters.ignored name

/-- Whether calls to a callee without body are passed over. -/
def isPassthrough (c : Config) (name : String) : Bool := anyMatch c.filters.passthrough name

def isVerbose (c : Config) : Bool := c.options.logLevel ≥ Level.debug.rank

/-- A path relative to the file of the configuration. -/
def relativePath (c : Config) (path : String) : String :=
  Files.join (Files.directoryOf c.sourceFile) path

/-- The depth limit of the propagation; one that is not positive is replaced. -/
def depthLimit (c : Config) : Nat :=
  (if c.options.maxDepth ≤ 0 then defaultMaxDepth else c.options.maxDepth).toNat

def logger (c : Config) : Logger :=
  .make c.options.logLevel c.options.silenceWarn c.options.openDebug c.options.debugTopics

/-- Raises the log level to debugging, if it is lower. -/
def verbose (c : Config) : Config :=
  if c.options.logLevel < Level.debug.rank then
    { c with options := { c.options with logLevel := Level.debug.rank } }
  else c

/-- Sets the debug topics; the first unknown one is the error. -/
def setTopics (c : Config) (topics : List String) : Except String Config :=
  match topics.find? fun t => !knownTopics.contains t with
  | some t => .error t
  | none => .ok { c with options := { c.options with debugTopics := topics } }

end Config

end DropFlow
