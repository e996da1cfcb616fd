/-
  DropFlow/Finding.lean
  =====================
  Findings and their merging.

  A finding names two locations: memory is dropped at the first and touched again at
  the second, by a use or by another drop.  Each comes with the variable involved, if
  its name is known.  The same pair of locations may be found many times, in several
  activations and for several objects.  Merging keeps, for each pair, all distinct
  findings with a name if there is one, and otherwise the one without names.
-/
import DropFlow.Location

namespace DropFlow

/-! ### 1. Findings -/

/-- Memory dropped at the first location may be touched at the second. -/
structure Finding where
  first : Location
  firstName : String := ""
  second : Location
  secondName : String := ""
  deriving DecidableEq, Repr, Inhabited

namespace Finding

/-- Whether one of the variables has a name. -/
def isNamed (f : Finding) : Bool := f.firstName ≠ "" || f.secondName ≠ ""

def locations (f : Finding) : Location × Location := (f.first, f.second)

/-- Both names, divided by a character that sorts before all others. -/
def names (f : Finding) : String := f.firstName ++ "\x00" ++ f.secondName

/-- The order of a report: by the first location, the second location and the names. -/
def less (a b : Finding) : Bool :=
  if a.first ≠ b.first then a.first.less b.first
  else if a.second ≠ b.second then a.second.less b.second
  else a.names < b.names

end Finding

/-! ### 2. Merging -/

structure Groups where
  entries : List ((Location × Location) × List Finding) := []
  deriving DecidableEq, Repr

/-- Adds a finding to the findings of its pair of locations. -/
def mergeInto (group : List Finding) (f : Finding) : List Finding :=
  if group.isEmpty then [f]
  else if !f.isNamed || group.contains f then group
  else
    match group with
    -- a nameless finding stands only until one with a name comes
    | [only] => if only.isNamed then [only, f] else [f]
    | _ => group ++ [f]

namespace Groups

def group (g : Groups) (pair : Location × Location) : List Finding :=
  (g.entries.lookup pair).getD []

/-- Puts a group in the place of the one with the same pair, or at the end. -/
def put (pair : Location × Location) (fs : List Finding) :
    List ((Location × Location) × List Finding) → List ((Location × Location) × List Finding)
  | [] => [(pair, fs)]
  | (p, old) :: rest => if p = pair then (p, fs) :: rest else (p, old) :: put pair fs rest

/-- Merges a finding. -/
def add (g : Groups) (f : Finding) : Groups :=
  ⟨put f.locations (mergeInto (g.group f.locations) f) g.entries⟩

/-- All findings, in the order of a report. -/
def sorted (g : Groups) : List Finding :=
  (g.entries.flatMap (·.2)).mergeSort fun a b => !b.less a

end Groups

structure Merger where
  uses : Groups := {}
  drops : Groups := {}
  deriving DecidableEq, Repr

namespace Merger

def addUse (m : Merger) (f : Finding) : Merger := { m with uses := m.uses.add f }

def addDrop (m : Merger) (f : Finding) : Merger := { m with drops := m.drops.add f }

def addAll (m : Merger) (uses drops : List Finding) : Merger :=
  drops.foldl addDrop (uses.foldl addUse m)

end Merger

/-! ### 3. Results -/

structure Findings where
  /-- Memory that may be used after it was dropped. -/
  uses : List Finding := []
  /-- Memory that may be dropped twice. -/
  drops : List Finding := []
  deriving DecidableEq, Repr, Inhabited

/-- What has been merged, in the order of a report. -/
def Merger.findings (m : Merger) : Findings := ⟨m.uses.sorted, m.drops.sorted⟩

namespace Findings

def count (r : Findings) : Nat := r.uses.length + r.drops.length

/-- The findings neither of whose locations is suppressed. -/
def filter (r : Findings) (suppressed : Location → Bool) : Findings :=
  let keep (f : Finding) : Bool := !suppressed f.first && !suppressed f.second
  ⟨r.uses.filter keep, r.drops.filter keep⟩

end Findings

/-! ### 4. Suppressions -/

/-- A source line on which findings are silenced. -/
structure Suppression where
  file : String := ""
  line : Int := 0
  deriving DecidableEq, Repr, Inhabited

/-- Whether a suppression covers a location: the same line, and one file name ends with the
    other.  An empty file name covers nothing. -/
def Suppression.covers (s : Suppression) (l : Location) : Bool :=
  s.line = l.line && s.file ≠ "" && l.file ≠ "" &&
  (s.file.toList.isSuffixOf l.file.toList || l.file.toList.isSuffixOf s.file.toList)

theorem Suppression.covers_iff {s : Suppression} {l : Location} : s.covers l = true ↔
    s.line = l.line ∧ s.file ≠ "" ∧ l.file ≠ "" ∧
      (s.file.toList <:+ l.file.toList ∨ l.file.toList <:+ s.file.toList) := by
  simp [covers, and_assoc]

end DropFlow
