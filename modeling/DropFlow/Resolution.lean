/-
  DropFlow/Resolution.lean
  ========================
  Which functions a call may invoke.

  The static callee counts if it has a body, and so do the dispatch candidates that
  have one, except those that are to be passed over.  A static callee without a body
  that is to be passed over ends the matter before the candidates are looked at.
-/
import DropFlow.CallGraph
import DropFlow.Config
import DropFlow.Program

namespace DropFlow

open DropFlow.Text

/-- How a call is treated. -/
inductive CallKind where
  /-- At least one function with a body may be invoked. -/
  | resolved
  /-- Neither expanded nor linked. -/
  | passthrough
  /-- Not resolved, and nothing is linked. -/
  | ignored
  /-- Not resolved: the arguments are linked to the destination. -/
  | external
  deriving DecidableEq, Repr

def CallKind.name : CallKind → String
  | .resolved => "resolved"
  | .passthrough => "passthrough"
  | .ignored => "ignored"
  | .external => "external"

/-- Adds the function of a name, if it has a body and is not yet among the targets. -/
def addTarget (p : Program) (targets : List Int) (name : String) : List Int :=
  match p.lookup name with
  | some id => if targets.contains id then targets else targets ++ [id]
  | none => targets

/-- The functions that a call may invoke, and how it is treated. -/
def resolve (p : Program) (c : Config) (callee : String) (candidates : List String) :
    List Int × CallKind :=
  let static := addTarget p [] callee
  -- the empty name is that of a dynamic call, which has candidates only
  if static.isEmpty && callee ≠ "" && c.isPassthrough callee then ([], .passthrough)
  else
    let targets := (candidates.filter fun name => !c.isPassthrough name).foldl (addTarget p) static
    if !targets.isEmpty then (targets, .resolved)
    else if c.isIgnored callee then ([], .ignored)
    else ([], .external)

/-- The functions that the call of a block may invoke. -/
def Block.targets (p : Program) (c : Config) (b : Block) : List Int :=
  match b.call? with
  | some call => (resolve p c call.callee call.candidates).1
  | none => []

def CallGraph.addBody (g : CallGraph) (p : Program) (c : Config) (f : Body) : CallGraph :=
  f.blocks.foldl (fun g b => (b.targets p c).foldl (fun g t => g.add ⟨f.id, b.id⟩ t) g)
    (g.register f.id)

/-- The calls of functions, up to the first one that has no usable body. -/
def staticCallsFrom (c : Config) (g : CallGraph) (p : Program) :
    List Int → Except Program.BodyError CallGraph × Program × List Notice
  | [] => (.ok g, p, [])
  | id :: rest =>
    let got := p.fetch id
    match got.body with
    | .error e => (.error e, got.program, got.notices)
    | .ok f =>
      let (result, p, notices) := staticCallsFrom c (g.addBody p c f) got.program rest
      (result, p, got.notices ++ notices)

/-- The calls of every defined function. -/
def staticCallGraph (p : Program) (c : Config) :
    Except Program.BodyError CallGraph × Program × List Notice :=
  staticCallsFrom c {} p p.defined

end DropFlow
