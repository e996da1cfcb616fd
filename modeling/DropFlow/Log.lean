/-
  DropFlow/Log.lean
  =================
  The log: notices on channels, and the loggers that decide which of them are
  written and where.

  A channel is one of five levels, a debug topic or the plain one.  A level is open
  when the logger's level is at least that level; a topic is open when debugging is
  open and the topic, or the topic that stands for all of them, was asked for; the
  plain channel is always open.

  A notice keeps the way to its text rather than the text, so that a notice on a
  closed channel costs nothing.  The text may depend on the time that has passed,
  in hundredths of a second.
-/
import DropFlow.Text.Decimal
import DropFlow.Text.Space

namespace DropFlow

open DropFlow.Text

/-! ### 1. Channels and notices -/

inductive Level where
  | error
  | warn
  | info
  | debug
  | trace
  deriving DecidableEq, Repr

/-- The rank of a level in a configuration. -/
def Level.rank : Level → Int
  | .error => 1
  | .warn => 2
  | .info => 3
  | .debug => 4
  | .trace => 5

/-- What stands in front of every message of a level. -/
def Level.heading : Level → String
  | .error => "[ERROR] "
  | .warn => "[WARN] "
  | .info => "[INFO] "
  | .debug => "[DEBUG] "
  | .trace => "[TRACE] "

/-- Where a notice is announced. -/
inductive Channel where
  | level (l : Level)
  | topic (name : String)
  /-- For lines that are always written, and without a heading. -/
  | plain
  deriving DecidableEq, Repr

/-- One or more messages on a channel, as functions of the time that has passed. -/
structure Notice where
  channel : Channel
  messages : Nat → List String

namespace Notice

/-- A notice of one message. -/
def one (channel : Channel) (message : Unit → String) : Notice :=
  ⟨channel, fun _ => [message ()]⟩

/-- A message on a debug topic. -/
def onTopic (name : String) (message : Unit → String) : Notice := one (.topic name) message

def warning (message : Unit → String) : Notice := one (.level .warn) message

def info (message : Unit → String) : Notice := one (.level .info) message

def debug (message : Unit → String) : Notice := one (.level .debug) message

def trace (message : Unit → String) : Notice := one (.level .trace) message

/-- A message that is always written. -/
def plain (message : Unit → String) : Notice := one .plain message

end Notice

/-- A time in hundredths of a second, in seconds with two places. -/
def secondsText (hundredths : Nat) : String :=
  decimal (hundredths / 100) ++ "." ++ padded 2 (hundredths % 100)

/-! ### 2. The topics -/

/-- The topic that opens all the others. -/
def topicAll : String := "all"

/-- The topics that may be asked for. -/
def knownTopics : List String :=
  ["ir", "assign", "reachable", "worklist", "pfg", "callgraph", "check", topicAll]

/-! ### 3. Loggers -/

/-- Where a logger writes. -/
inductive Sink where
  | standard
  | other
  | discard
  deriving DecidableEq, Repr

/-- A logger: what is open, and where each channel goes. -/
structure Logger where
  level : Int := 3
  openDebug : Bool := false
  topics : List String := []
  traceSink : Sink := .standard
  debugSink : Sink := .standard
  infoSink : Sink := .standard
  warnSink : Sink := .standard
  errorSink : Sink := .standard
  topicSink : Sink := .standard
  deriving DecidableEq, Repr

namespace Logger

/-- The logger of given settings.  Warnings are discarded on demand, but not at the lowest
    level, where they are not written in any case. -/
def make (level : Int) (silenceWarn openDebug : Bool) (topics : List String) : Logger :=
  { level, openDebug, topics
    warnSink := if silenceWarn && level > Level.error.rank then .discard else .standard }

def redirectAll (l : Logger) (s : Sink) : Logger :=
  { l with
    traceSink := s, debugSink := s, infoSink := s, warnSink := s, errorSink := s, topicSink := s }

def redirectErrors (l : Logger) (s : Sink) : Logger := { l with errorSink := s }

/-- Whether a topic is written. -/
def topicOpen (l : Logger) (topic : String) : Bool :=
  l.openDebug && (l.topics.contains topic || l.topics.contains topicAll)

/-- Whether messages for debugging are written. -/
def logsDebug (l : Logger) : Bool := l.level ≥ Level.debug.rank

/-- Whether a channel is written. -/
def isOpen (l : Logger) : Channel → Bool
  | .level lv => l.level ≥ lv.rank
  | .topic name => l.topicOpen name
  | .plain => true

def sink (l : Logger) : Channel → Sink
  | .level .trace => l.traceSink
  | .level .debug => l.debugSink
  | .level .info => l.infoSink
  | .level .warn => l.warnSink
  | .level .error => l.errorSink
  | .topic _ => l.topicSink
  | .plain => .standard

/-- A message as it is written on a channel: the heading, the message and a line break, unless
    the message ends with one. -/
def written (channel : Channel) (message : String) : String :=
  let text := match channel with
    | .level lv => lv.heading ++ message
    | .topic name => "[" ++ name ++ "] " ++ message
    | .plain => message
  if text.toList.getLast? = some '\n' then text else text ++ "\n"

/-- What a notice writes, and where; nothing when its channel is closed. -/
def write (l : Logger) (elapsed : Nat) (n : Notice) : List (Sink × String) :=
  if l.isOpen n.channel then
    (n.messages elapsed).map fun m => (l.sink n.channel, written n.channel m)
  else []

/-- What notices write to a sink, in order. -/
def transcript (l : Logger) (elapsed : Nat) (s : Sink) (ns : List Notice) : String :=
  String.join ((ns.flatMap (l.write elapsed)).filterMap fun (t, text) =>
    if t = s then some text else none)

end Logger

end DropFlow
