/-
  DropFlow/Flow/Solution.lean
  ===========================
  The propagation until no work is left.

  The order in which work is taken does not matter for the termination: `solve` takes
  the oldest item first.
-/
import DropFlow.Flow.Bounds

namespace DropFlow.Flow

/-- The end of a propagation: the graph, the number of items processed, and what was announced. -/
structure Solution where
  graph : Graph
  steps : Nat
  notices : Array Notice

/-- A step leaves less room, or as much room and less work. -/
theorem room_lex_propagate {r : Rules} {b : Bounds} {g : Graph} {item : WorkItem}
    {rest : List WorkItem} (h : Within r b g (item :: rest)) :
    room b (propagate r g item).graph < room b g ∨
      (room b (propagate r g item).graph = room b g ∧
        (rest ++ (propagate r g item).work).length < (item :: rest).length) := by
  have hle := h.propagate.total_le
  rcases total_propagate r g item with hlt | ⟨heq, hwork⟩
  · left
    unfold room
    omega
  · right
    unfold room
    rw [heq, hwork]
    simp

/-- Processes work until none is left, within bounds that the work keeps. -/
def solveWithin (r : Rules) (b : Bounds) (g : Graph) (pending : List WorkItem)
    (h : Within r b g pending) (steps : Nat) (notices : Array Notice) : Solution :=
  match pending, h with
  | [], _ => ⟨g, steps, notices⟩
  | item :: rest, h =>
    let next := propagate r g item
    solveWithin r b next.graph (rest ++ next.work) h.propagate (steps + 1)
      (notices ++ next.notices)
termination_by (room b g, pending.length)
decreasing_by
  rcases room_lex_propagate h with hlt | ⟨heq, hlt⟩
  · exact Prod.Lex.left _ _ hlt
  · rw [heq]
    exact Prod.Lex.right _ hlt

/-- Processes work until none is left. -/
def solve (r : Rules) (g : Graph) (pending : List WorkItem) : Solution :=
  solveWithin r (.start r g pending) g pending (within_start r g pending) 0 #[]

end DropFlow.Flow
