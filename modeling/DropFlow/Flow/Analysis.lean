/-
  DropFlow/Flow/Analysis.lean
  ===========================
  The analysis of one entry point: the graph is expanded from the entry, and then the
  objects are propagated.
-/
import DropFlow.Flow.Dot
import DropFlow.Flow.Expansion
import DropFlow.Flow.Solution

namespace DropFlow.Flow

open DropFlow.Text

/-- The source name of the slot of a place in a function. -/
def programName (p : Program) (function : Int) (place : Place) : String :=
  match (p.fetch function).body with
  | .ok f => f.varName place
  | .error _ => ""

def rules (p : Program) (config : Config) : Rules := ⟨config.depthLimit, programName p⟩

/-- The state before the expansion. -/
def State.start (p : Program) (entry : Int) : State :=
  { program := p, reached := [⟨entry, .entry⟩] }

/-- Expands the graph from an entry. -/
def expandFrom (p : Program) (config : Config) (entry : Int) : State × Option AnalysisError :=
  (State.start p entry).expand config (activationBound p + 1)

def expansionNotices (s : State) (entry : Int) : List Notice :=
  [.debug fun _ => "Reached " ++ decimal s.reached.length ++ " contextual calls from " ++
      s.program.name entry ++ ", " ++ decimal s.graph.size ++ " nodes, " ++
      decimal s.pending.length ++ " pending deltas\n",
    ⟨.topic "reachable", fun _ => s.reached.map fun a =>
      s.program.name a.function ++ " in context " ++ a.context.text ++ "\n"⟩]

def solutionNotices (p : Program) (entry : Int) (s : Solution) : List Notice :=
  [.debug fun _ => "Propagation converged after " ++ decimal s.steps ++ " steps, " ++
      decimal s.graph.size ++ " nodes\n",
    .onTopic "pfg" fun _ => "pointer flow graph of " ++ p.name entry ++ ":\n" ++
      s.graph.listing p.name]

/-- Propagates the objects of an expanded graph. -/
def State.solve (s : State) (config : Config) (entry : Int) : State :=
  let solution := Flow.solve (rules s.program config) s.graph s.pending
  { s with
    graph := solution.graph
    pending := []
    notices := s.notices ++ expansionNotices s entry ++ solution.notices ++
      solutionNotices s.program entry solution }

/-- Analyzes a program from an entry.  When the analysis is aborted, the state is the one that
    was reached. -/
def analyze (p : Program) (config : Config) (entry : Int) : State × Option AnalysisError :=
  if !p.hasBody entry then ({ program := p }, some (.entryWithoutBody (p.name entry)))
  else
    match expandFrom p config entry with
    | (s, some e) => (s, some e)
    | (s, none) => (s.solve config entry, none)

end DropFlow.Flow
