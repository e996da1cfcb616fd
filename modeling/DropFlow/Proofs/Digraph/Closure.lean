/-
  DropFlow/Proofs/Digraph/Closure.lean
  ====================================
  The search for what can be reached is exact.

  Every node met can be reached (`reachFrom_sound`).  Conversely, the successors of the
  nodes met are met or still to be looked at; each round takes one node away, and adds
  the successors of a node only once, so that the rounds suffice when there is one for
  each node to be looked at and for each arc that leaves a node not yet met.
-/
import DropFlow.Digraph.Closure
import Mathlib.Logic.Relation

namespace DropFlow

namespace Digraph

variable {α : Type} [DecidableEq α]

/-! ### 1. The rounds that are needed -/

/-- The number of arcs that leave the nodes of a list that have not been met. -/
def openArcs (successors : α → List α) (met : List α) : List α → Nat
  | [] => 0
  | x :: rest =>
    (if met.contains x then 0 else (successors x).length) + openArcs successors met rest

theorem openArcs_nil (successors : α → List α) (nodes : List α) :
    openArcs successors [] nodes = (nodes.flatMap successors).length := by
  induction nodes with
  | nil => rfl
  | cons x rest ih =>
    rw [openArcs, ih, List.flatMap_cons, List.length_append]
    rfl

theorem openArcs_cons_le (successors : α → List α) (met nodes : List α) (x : α) :
    openArcs successors (x :: met) nodes ≤ openArcs successors met nodes := by
  induction nodes with
  | nil => exact Nat.le_refl 0
  | cons y rest ih =>
    rw [openArcs, openArcs]
    refine Nat.add_le_add ?_ ih
    rw [List.contains_cons]
    by_cases hy : met.contains y = true
    · refine Nat.le_of_eq ?_
      rw [hy, Bool.or_true]
    · rw [if_neg hy]
      split
      · exact Nat.zero_le _
      · exact Nat.le_refl _

/-- Meeting a node closes its arcs. -/
theorem openArcs_cons (successors : α → List α) {nodes met : List α} {x : α}
    (hx : x ∈ nodes) (hnew : met.contains x = false) :
    (successors x).length + openArcs successors (x :: met) nodes ≤
      openArcs successors met nodes := by
  induction nodes with
  | nil => exact nomatch hx
  | cons y rest ih =>
    rw [openArcs, openArcs, List.contains_cons]
    by_cases hyx : y = x
    · have hle := openArcs_cons_le successors met rest x
      rw [hyx, beq_self_eq_true, Bool.true_or, if_pos rfl, hnew, if_neg Bool.false_ne_true]
      omega
    · have hrest : x ∈ rest := (List.mem_cons.mp hx).resolve_left (Ne.symm hyx)
      have hle := ih hrest
      rw [beq_eq_false_iff_ne.mpr hyx, Bool.false_or]
      omega

/-! ### 2. Exactness -/

theorem mem_reachFrom_of_mem (successors : α → List α) (bound : Nat) :
    ∀ {todo met : List α} {y : α}, y ∈ met → y ∈ reachFrom successors bound todo met := by
  induction bound with
  | zero => exact fun hy => hy
  | succ bound ih =>
    intro todo met y hy
    cases todo with
    | nil => exact hy
    | cons x rest =>
      rw [reachFrom]
      split
      · exact ih hy
      · exact ih (List.mem_cons_of_mem _ hy)

/-- A node that is met was met before, or can be reached from a node to be looked at. -/
theorem reachFrom_sound (successors : α → List α) (bound : Nat) :
    ∀ {todo met : List α} {y : α}, y ∈ reachFrom successors bound todo met →
      y ∈ met ∨ ∃ x ∈ todo, Relation.ReflTransGen (fun a b => b ∈ successors a) x y := by
  induction bound with
  | zero => exact fun hy => Or.inl hy
  | succ bound ih =>
    intro todo met y hy
    cases todo with
    | nil => exact Or.inl hy
    | cons x rest =>
      rw [reachFrom] at hy
      split at hy
      · rcases ih hy with h | ⟨z, hz, hreach⟩
        · exact Or.inl h
        · exact Or.inr ⟨z, List.mem_cons_of_mem _ hz, hreach⟩
      · rcases ih hy with h | ⟨z, hz, hreach⟩
        · rcases List.mem_cons.mp h with rfl | h
          · exact Or.inr ⟨y, List.mem_cons_self .., Relation.ReflTransGen.refl⟩
          · exact Or.inl h
        · rcases List.mem_append.mp hz with hz | hz
          · exact Or.inr ⟨x, List.mem_cons_self .., Relation.ReflTransGen.head hz hreach⟩
          · exact Or.inr ⟨z, List.mem_cons_of_mem _ hz, hreach⟩

/-- With enough rounds, the nodes to be looked at are met, and so are the successors of all the
    nodes met. -/
theorem reachFrom_closed {successors : α → List α} {nodes : List α}
    (hnodes : ∀ x, successors x ≠ [] → x ∈ nodes) (bound : Nat) :
    ∀ {todo met : List α}, todo.length + openArcs successors met nodes ≤ bound →
      (∀ x ∈ met, ∀ y ∈ successors x, y ∈ met ∨ y ∈ todo) →
      (∀ x ∈ todo, x ∈ reachFrom successors bound todo met) ∧
        ∀ x ∈ reachFrom successors bound todo met, ∀ y ∈ successors x,
          y ∈ reachFrom successors bound todo met := by
  induction bound with
  | zero =>
    intro todo met hbound hinv
    have hnil : todo = [] := List.eq_nil_of_length_eq_zero (by omega)
    subst hnil
    refine ⟨fun x hx => (nomatch hx), fun x hx y hy => ?_⟩
    exact (hinv x hx y hy).resolve_right List.not_mem_nil
  | succ bound ih =>
    intro todo met hbound hinv
    cases todo with
    | nil =>
      refine ⟨fun x hx => (nomatch hx), fun x hx y hy => ?_⟩
      exact (hinv x hx y hy).resolve_right List.not_mem_nil
    | cons x rest =>
      rw [reachFrom]
      rw [List.length_cons] at hbound
      split
      · rename_i hmet
        have hmem : x ∈ met := by simpa using hmet
        have hround : rest.length + openArcs successors met nodes ≤ bound := by omega
        obtain ⟨htodo, hclosed⟩ := ih hround (by
          intro z hz y hy
          rcases hinv z hz y hy with h | h
          · exact Or.inl h
          · rcases List.mem_cons.mp h with rfl | h
            · exact Or.inl hmem
            · exact Or.inr h)
        refine ⟨fun z hz => ?_, hclosed⟩
        rcases List.mem_cons.mp hz with rfl | hz
        · exact mem_reachFrom_of_mem successors bound hmem
        · exact htodo z hz
      · rename_i hmet
        have hnew : met.contains x = false := by simpa using hmet
        -- the arcs of the node are either none, or closed now
        have hround : (successors x ++ rest).length + openArcs successors (x :: met) nodes ≤
            bound := by
          rw [List.length_append]
          by_cases hne : successors x = []
          · have hle := openArcs_cons_le successors met nodes x
            rw [hne, List.length_nil]
            omega
          · have hle := openArcs_cons successors (hnodes x hne) hnew
            omega
        obtain ⟨htodo, hclosed⟩ := ih hround (by
          intro z hz y hy
          rcases List.mem_cons.mp hz with rfl | hz
          · exact Or.inr (List.mem_append_left _ hy)
          · rcases hinv z hz y hy with h | h
            · exact Or.inl (List.mem_cons_of_mem _ h)
            · rcases List.mem_cons.mp h with rfl | h
              · exact Or.inl (List.mem_cons_self ..)
              · exact Or.inr (List.mem_append_right _ h))
        refine ⟨fun z hz => ?_, hclosed⟩
        rcases List.mem_cons.mp hz with rfl | hz
        · exact mem_reachFrom_of_mem successors bound (List.mem_cons_self ..)
        · exact htodo z (List.mem_append_right _ hz)

/-- **The search is exact** when there is a round for its start and for each arc. -/
theorem mem_reachFrom_iff {successors : α → List α} {nodes : List α} {bound : Nat} {v y : α}
    (hnodes : ∀ x, successors x ≠ [] → x ∈ nodes)
    (hbound : 1 + (nodes.flatMap successors).length ≤ bound) :
    y ∈ reachFrom successors bound [v] [] ↔
      Relation.ReflTransGen (fun a b => b ∈ successors a) v y := by
  constructor
  · intro hy
    rcases reachFrom_sound successors bound hy with h | ⟨x, hx, hreach⟩
    · exact nomatch h
    · rw [List.mem_singleton.mp hx] at hreach
      exact hreach
  · intro hreach
    have hrounds : [v].length + openArcs successors [] nodes ≤ bound := by
      rw [openArcs_nil]
      exact hbound
    obtain ⟨hstart, hclosed⟩ := reachFrom_closed hnodes bound hrounds fun x hx => nomatch hx
    induction hreach with
    | refl => exact hstart v (List.mem_singleton.mpr rfl)
    | tail _ hstep ih => exact hclosed _ ih _ hstep

/-! ### 3. Graphs of nodes and arcs -/

theorem lookup_map_row {β : Type} (row : Int → β) (keys : List Int) (v : Int) :
    (keys.map fun k => (k, row k)).lookup v = if v ∈ keys then some (row v) else none := by
  induction keys with
  | nil => simp
  | cons k rest ih =>
    rw [List.map_cons, List.lookup_cons]
    by_cases hv : v = k
    · subst hv
      simp
    · rw [beq_eq_false_iff_ne.mpr hv, ih]
      simp [hv]

section Make

variable {order : Int} {nodes : List Int} {pairs : List (Int × Int)}
  {labels : List (Int × String)}

theorem mem_keys_make {v : Int} : v ∈ (make order nodes pairs labels).keys ↔ v ∈ nodes := by
  simp [make, List.mem_mergeSort]

theorem mem_successors_make {v w : Int} : w ∈ (make order nodes pairs labels).successors v ↔
    v ∈ nodes ∧ w ∈ nodes ∧ (v, w) ∈ pairs := by
  unfold successors
  rw [make]
  dsimp only
  rw [lookup_map_row]
  by_cases hv : v ∈ nodes
  · rw [if_pos (List.mem_mergeSort.mpr hv), Option.getD_some, ← IdSet.mem_def, IdSet.mem_ofList,
      List.mem_map]
    simp only [List.mem_filter, Bool.and_eq_true, beq_iff_eq, List.contains_iff_mem]
    constructor
    · rintro ⟨⟨a, b⟩, ⟨hm, rfl, hb⟩, rfl⟩
      exact ⟨hv, hb, hm⟩
    · rintro ⟨_, hw, hm⟩
      exact ⟨(v, w), ⟨hm, rfl, hw⟩, rfl⟩
  · rw [if_neg (mt List.mem_mergeSort.mp hv), Option.getD_none]
    constructor
    · intro h
      exact nomatch h
    · rintro ⟨h, _⟩
      exact absurd h hv

theorem length_arcs_make : (make order nodes pairs labels).arcs.length =
    ((make order nodes pairs labels).keys.flatMap
      (make order nodes pairs labels).successors).length := by
  unfold arcs
  rw [List.length_flatMap, List.length_flatMap]
  unfold successors
  rw [make]
  dsimp only
  rw [List.map_map]
  congr 1
  refine List.map_congr_left fun k hk => ?_
  rw [lookup_map_row, if_pos hk, Option.getD_some, Function.comp_apply, List.length_map]

theorem mem_reachable_make {v w : Int} : w ∈ (make order nodes pairs labels).reachable v ↔
    Relation.ReflTransGen (fun a b => b ∈ (make order nodes pairs labels).successors a) v w := by
  have hkeys : ∀ x, (make order nodes pairs labels).successors x ≠ [] →
      x ∈ (make order nodes pairs labels).keys := by
    intro x hne
    obtain ⟨y, hy⟩ := List.exists_mem_of_ne_nil _ hne
    exact mem_keys_make.mpr (mem_successors_make.mp hy).1
  refine mem_reachFrom_iff hkeys (Nat.le_of_eq ?_)
  rw [length_arcs_make]

end Make

end Digraph

end DropFlow
