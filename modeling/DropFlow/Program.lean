/-
  DropFlow/Program.lean
  =====================
  The functions of a program.

  A function gets its identifier when its name is first added, and keeps it.  A
  declaration may come before or after the definition; two definitions of one name are
  refused.  Bodies are lowered on demand and kept, so that what lowering announces is
  announced once.
-/
import DropFlow.Body.Lowering

namespace DropFlow

open DropFlow.Text

/-- A function of a program, with its body once it has been lowered. -/
structure Program.Entry where
  source : Source.Function
  body : Option Body := none
  deriving DecidableEq, Repr, Inhabited

/-- A program: its functions in the order of their identifiers, and the lines on which findings
    are silenced. -/
structure Program where
  entries : Array Program.Entry := #[]
  suppressions : List Suppression := []
  deriving DecidableEq, Repr, Inhabited

namespace Program

/-! ### 1. Looking up -/

/-- The number of functions, declared or defined. -/
def size (p : Program) : Nat := p.entries.size

def function? (p : Program) (id : Int) : Option Entry :=
  if 0 ≤ id then p.entries[id.toNat]? else none

def name (p : Program) (id : Int) : String :=
  match p.function? id with
  | some e => e.source.name
  | none => "<unknown f" ++ decimal id ++ ">"

/-- Whether a function is defined. -/
def hasBody (p : Program) (id : Int) : Bool :=
  match p.function? id with
  | some e => e.source.isDefined
  | none => false

/-- The identifier of a name, declared or defined. -/
def idOf? (p : Program) (name : String) : Option Int :=
  (p.entries.findIdx? fun e => e.source.name = name).map fun (i : Nat) => (i : Int)

/-- The identifier of a name that is defined. -/
def lookup (p : Program) (name : String) : Option Int :=
  (p.idOf? name).filter p.hasBody

/-- The defined functions, in increasing order. -/
def defined (p : Program) : List Int :=
  ((List.range p.size).map fun (i : Nat) => (i : Int)).filter p.hasBody

/-- Whether findings at a location are silenced. -/
def isSuppressed (p : Program) (l : Location) : Bool := p.suppressions.any (·.covers l)

theorem isSuppressed_iff {p : Program} {l : Location} : p.isSuppressed l = true ↔
    ∃ s ∈ p.suppressions, s.line = l.line ∧ s.file ≠ "" ∧ l.file ≠ "" ∧
      (s.file.toList <:+ l.file.toList ∨ l.file.toList <:+ s.file.toList) := by
  simp only [isSuppressed, List.any_eq_true, Suppression.covers_iff]

/-! ### 2. Adding -/

inductive AddError where
  | nameMissing
  | definedTwice (name : String)
  deriving DecidableEq, Repr

def AddError.message : AddError → String
  | .nameMissing => "function without name"
  | .definedTwice name => "function " ++ name ++ " is defined twice"

/-- Replaces a declaration by a definition. -/
def define (p : Program) (id : Int) (f : Source.Function) : Program :=
  { p with entries := p.entries.modify id.toNat fun e => { e with source := f } }

/-- Adds a function and gives its identifier. -/
def add (p : Program) (f : Source.Function) : Except AddError (Program × Int) :=
  if f.name = "" then .error .nameMissing
  else
    match p.idOf? f.name with
    | some id =>
      if !f.isDefined then .ok (p, id)
      else if p.hasBody id then .error (.definedTwice f.name)
      else .ok (p.define id f, id)
    | none => .ok ({ p with entries := p.entries.push { source := f } }, p.size)

/-- Adds functions up to the first one that is refused. -/
def addFunctions (p : Program) : List Source.Function → Program × Option AddError
  | [] => (p, none)
  | f :: rest =>
    match p.add f with
    | .error e => (p, some e)
    | .ok (p, _) => addFunctions p rest

/-- Adds the contents of a file; the suppressions come last, and only if all functions were
    added. -/
def addFile (p : Program) (f : Source.File) : Program × Option AddError :=
  match p.addFunctions f.functions with
  | (p, some e) => (p, some e)
  | (p, none) => ({ p with suppressions := p.suppressions ++ f.suppressions }, none)

/-! ### 3. Bodies -/

inductive BodyError where
  | noBody (name : String)
  | lowering (e : LoweringError)
  deriving DecidableEq, Repr

def BodyError.message : BodyError → String
  | .noBody name => "function " ++ name ++ " has no body"
  | .lowering e => e.message

/-- The body of a function, as its source lowers. -/
def body (p : Program) (id : Int) : Except BodyError Body :=
  match p.function? id with
  | none => .error (.noBody (p.name id))
  | some e =>
    if !e.source.isDefined then .error (.noBody (p.name id))
    else (lowerFunction id e.source).mapError .lowering

/-- A body that has been asked for, the program that keeps it, and what was announced. -/
structure Fetched where
  body : Except BodyError Body
  program : Program
  notices : List Notice

/-- The body of a function: the one that is kept, or else a newly lowered one, which is kept
    from now on. -/
def fetch (p : Program) (id : Int) : Fetched :=
  match (p.function? id).bind (·.body) with
  | some b => ⟨.ok b, p, []⟩
  | none =>
    match p.function? id with
    | none => ⟨p.body id, p, []⟩
    | some e =>
      if !e.source.isDefined then ⟨p.body id, p, []⟩
      else
        match lowerFunction id e.source with
        | .error err => ⟨.error (.lowering err), p, loweringNotices e.source⟩
        | .ok b =>
          { body := .ok b
            program := { p with
              entries := p.entries.modify id.toNat fun e => { e with body := some b } }
            notices := loweringNotices e.source ++ [Notice.onTopic "ir" fun _ => b.listing] }

/-- Lowers functions in order, up to the first one that fails. -/
def fetchAll (p : Program) : List Int → Program × List Notice × Option BodyError
  | [] => (p, [], none)
  | id :: rest =>
    let got := p.fetch id
    match got.body with
    | .error e => (got.program, got.notices, some e)
    | .ok _ =>
      let (p, notices, failure) := fetchAll got.program rest
      (p, got.notices ++ notices, failure)

/-- Lowers every defined function. -/
def lowerAll (p : Program) : Program × List Notice × Option BodyError := p.fetchAll p.defined

end Program

end DropFlow
