/-
  DropFlow/Proofs/Flow/Run.lean
  =============================
  Runs of the propagation that take the pending work in any order.

  `Next` processes one item of work, whichever it is, and leaves the rest in any order;
  a run is a sequence of such steps.  The function that takes the oldest item first is
  one run among them (`runs_solve`).

  A run keeps the edges, the drop sites and the addresses of the cells (`Evolves`), and
  the marks of the objects that hold several objects are exact all along (`MarksExact`).
-/
import DropFlow.Flow.Solution
import DropFlow.Proofs.Flow.Step
import Mathlib.Logic.Relation

namespace DropFlow.Flow

/-! ### 1. Runs -/

/-- A graph and the work that is pending for it. -/
structure Stage where
  graph : Graph
  pending : List WorkItem

/-- One item of work is processed; what is pending may be reordered before and after. -/
def Stage.Next (r : Rules) (w w' : Stage) : Prop :=
  ∃ item rest, w.pending.Perm (item :: rest) ∧ w'.graph = (propagate r w.graph item).graph ∧
    w'.pending.Perm (rest ++ (propagate r w.graph item).work)

/-- Work is processed item by item, in any order. -/
abbrev Runs (r : Rules) : Stage → Stage → Prop := Relation.ReflTransGen (Stage.Next r)

theorem runs_solveWithin {r : Rules} {b : Bounds} {g : Graph} {pending : List WorkItem}
    (h : Within r b g pending) (steps : Nat) (notices : Array Notice) :
    Runs r ⟨g, pending⟩ ⟨(solveWithin r b g pending h steps notices).graph, []⟩ := by
  induction g, pending, h, steps, notices using solveWithin.induct with
  | case1 g steps notices h => rw [solveWithin]
  | case2 g steps notices item rest h h' next ih =>
    rw [solveWithin]
    refine Relation.ReflTransGen.head ?_ ih
    exact ⟨item, rest, List.Perm.refl _, rfl, List.Perm.refl _⟩

/-- The propagation of a graph is a run that leaves no work. -/
theorem runs_solve (r : Rules) (g : Graph) (pending : List WorkItem) :
    Runs r ⟨g, pending⟩ ⟨(solve r g pending).graph, []⟩ :=
  runs_solveWithin (within_start r g pending) 0 #[]

/-- A run may start with its work in another order. -/
theorem Runs.of_perm {r : Rules} {g g' : Graph} {pending pending' : List WorkItem}
    (hperm : pending.Perm pending') (hrun : Runs r ⟨g, pending'⟩ ⟨g', []⟩) :
    Runs r ⟨g, pending⟩ ⟨g', []⟩ := by
  rcases Relation.ReflTransGen.cases_head hrun with heq | ⟨w, hnext, hrest⟩
  · cases heq
    rw [List.perm_nil.mp hperm]
  · obtain ⟨item, rest, hfirst, hgraph, hpending⟩ := hnext
    exact Relation.ReflTransGen.head ⟨item, rest, hperm.trans hfirst, hgraph, hpending⟩ hrest

/-! ### 2. What a run keeps -/

/-- A later graph of a run: the cells are the same as far as they were there, they hold at least
    as much, no new cell is dropped, and the edges are the same. -/
structure Graph.Evolves (g g' : Graph) : Prop where
  old : ∀ id c, g.cell? id = some c →
    ∃ c', g'.cell? id = some c' ∧ c.Alike c' ∧ ∀ o ∈ c.objects, o ∈ c'.objects
  dropped : ∀ id c', g'.cell? id = some c' → c'.isObject = true → ∃ c, g.cell? id = some c
  edges : g'.edges = g.edges

namespace Graph

theorem Evolves.refl (g : Graph) : g.Evolves g where
  old := fun _ c hc => ⟨c, hc, ⟨rfl, rfl, rfl, rfl⟩, fun _ ho => ho⟩
  dropped := fun _ c hc _ => ⟨c, hc⟩
  edges := rfl

theorem Evolves.trans {g₁ g₂ g₃ : Graph} (h₁ : g₁.Evolves g₂) (h₂ : g₂.Evolves g₃) :
    g₁.Evolves g₃ where
  old := fun id c hc => by
    obtain ⟨c', hc', ha, ho⟩ := h₁.old id c hc
    obtain ⟨c'', hc'', ha', ho'⟩ := h₂.old id c' hc'
    refine ⟨c'', hc'', ?_, fun o hm => ho' o (ho o hm)⟩
    exact ⟨ha'.activation.trans ha.activation, ha'.place.trans ha.place, ha'.name.trans ha.name,
      ha'.drops.trans ha.drops⟩
  dropped := fun id c'' hc'' hobject => by
    obtain ⟨c', hc'⟩ := h₂.dropped id c'' hc'' hobject
    obtain ⟨d, hd, ha, _⟩ := h₂.old id c' hc'
    rw [hc''] at hd
    cases hd
    refine h₁.dropped id c' hc' ?_
    rw [Cell.isObject_iff] at hobject ⊢
    exact ha.drops ▸ hobject
  edges := h₂.edges.trans h₁.edges

theorem Extends.evolves {g g' : Graph} (h : g.Extends g') : g.Evolves g' where
  old := fun id c hc => ⟨c, h.old id c hc, ⟨rfl, rfl, rfl, rfl⟩, fun _ ho => ho⟩
  dropped := fun _ c' hc' hobject =>
    ⟨c', h.old_of_nonempty hc' (Or.inr (Cell.isObject_iff.mp hobject))⟩
  edges := h.edges

theorem Evolves.find? {g g' : Graph} (h : g.Evolves g') {a : Activation} {p : Place} {id : Int}
    (hf : g.find? a p = some id) : g'.find? a p = some id := by
  obtain ⟨c, hc, ha⟩ := find?_eq_some_iff.mp hf
  obtain ⟨c', hc', halike, _⟩ := h.old id c hc
  exact find?_eq_some_iff.mpr ⟨c', hc', halike.address.trans ha⟩

theorem Evolves.dropsOf {g g' : Graph} (h : g.Evolves g') (id : Int) :
    g'.dropsOf id = g.dropsOf id := by
  cases hc : g.cell? id with
  | some c =>
    obtain ⟨c', hc', halike, _⟩ := h.old id c hc
    rw [dropsOf_of_cell? hc, dropsOf_of_cell? hc', halike.drops]
  | none =>
    have hnil : g.dropsOf id = [] := by simp [Graph.dropsOf, hc]
    rw [hnil, List.eq_nil_iff_forall_not_mem]
    intro d hd
    obtain ⟨c', hc', hd'⟩ := exists_cell_of_mem_dropsOf hd
    obtain ⟨c, hold⟩ := h.dropped id c' hc' (Cell.isObject_iff.mpr ⟨d, hd'⟩)
    rw [hc] at hold
    cases hold

theorem Evolves.anchored {g g' : Graph} (h : g.Evolves g') (hg : g.Anchored) : g'.Anchored := by
  intro e he
  rw [h.edges] at he
  obtain ⟨⟨s, hs⟩, t, ht⟩ := hg e he
  obtain ⟨s', hs', _⟩ := h.old e.source s hs
  obtain ⟨t', ht', _⟩ := h.old e.target t ht
  exact ⟨⟨s', hs'⟩, t', ht'⟩

end Graph

theorem evolves_absorb (g : Graph) (id : Int) (delta : IdSet) :
    g.Evolves (absorb g id delta) where
  old := fun j c hc => by
    obtain ⟨c', hc', halike, hobjects⟩ := exists_cell_absorb hc id delta
    exact ⟨c', hc', halike, fun o ho => (hobjects o).mpr (Or.inl ho)⟩
  dropped := fun j c' hc' _ => by
    obtain ⟨c, hc, _⟩ := exists_cell_of_absorb hc'
    exact ⟨c, hc⟩
  edges := edges_absorb g id delta

/-- The ends of the edges and the targets of the work are cells. -/
structure Stage.Placed (w : Stage) : Prop where
  anchored : w.graph.Anchored
  work : ∀ item ∈ w.pending, ∃ c, w.graph.cell? item.cell = some c

/-- What a step leads to, in terms of the rules: the graph stays and the work was in vain, or the
    step is an advance at the cell of the item. -/
theorem Stage.Next.cases {r : Rules} {w w' : Stage} (hw : w.Placed) (h : w.Next r w') :
    ∃ item rest c, w.pending.Perm (item :: rest) ∧ w.graph.cell? item.cell = some c ∧
      (((∀ o ∈ item.objects, o ∈ c.objects) ∧ w'.graph = w.graph ∧ w'.pending.Perm rest) ∨
        ∃ work, Advance r.limit w.graph item.cell (w.graph.missing item.cell item.objects)
          w'.graph work ∧ w'.pending.Perm (rest ++ work)) := by
  obtain ⟨item, rest, hperm, hgraph, hpending⟩ := h
  obtain ⟨c, hc⟩ := hw.work item (hperm.mem_iff.mpr (List.mem_cons_self ..))
  refine ⟨item, rest, c, hperm, hc, ?_⟩
  rcases propagate_spec r hw.anchored hc with ⟨hsub, hsame, hnone⟩ | hadv
  · left
    rw [hnone, List.append_nil] at hpending
    exact ⟨hsub, hgraph.trans hsame, hpending⟩
  · right
    rw [← hgraph] at hadv
    exact ⟨_, hadv, hpending⟩

theorem Stage.Next.evolves {r : Rules} {w w' : Stage} (hw : w.Placed) (h : w.Next r w') :
    w.graph.Evolves w'.graph := by
  obtain ⟨item, _, _, _, _, ⟨_, hsame, _⟩ | ⟨_, hadv, _⟩⟩ := h.cases hw
  · rw [hsame]
    exact Graph.Evolves.refl _
  · exact (evolves_absorb _ _ _).trans hadv.ext.evolves

theorem Stage.Placed.next {r : Rules} {w w' : Stage} (hw : w.Placed) (h : w.Next r w') :
    w'.Placed := by
  have hevolves := h.evolves hw
  refine ⟨hevolves.anchored hw.anchored, fun item hitem => ?_⟩
  have hold : ∀ item ∈ w.pending, ∃ c, w'.graph.cell? item.cell = some c := by
    intro i hi
    obtain ⟨c, hc⟩ := hw.work i hi
    obtain ⟨c', hc', _⟩ := hevolves.old _ c hc
    exact ⟨c', hc'⟩
  obtain ⟨first, rest, _, hperm, _, ⟨_, _, hpending⟩ | ⟨work, hadv, hpending⟩⟩ := h.cases hw
  · exact hold item (hperm.mem_iff.mpr (List.mem_cons_of_mem _ (hpending.mem_iff.mp hitem)))
  · rcases List.mem_append.mp (hpending.mem_iff.mp hitem) with hitem | hitem
    · exact hold item (hperm.mem_iff.mpr (List.mem_cons_of_mem _ hitem))
    · obtain ⟨d, hd, _⟩ := hadv.sound item hitem
      exact ⟨d, hd⟩

/-- What a step keeps, a run keeps. -/
theorem Runs.induction {r : Rules} {P : Stage → Prop} {w w' : Stage} (hrun : Runs r w w')
    (hw : w.Placed) (start : P w)
    (step : ∀ v v' : Stage, v.Placed → v.Next r v' → P v → P v') : P w' := by
  have hboth : w'.Placed ∧ P w' := by
    induction hrun with
    | refl => exact ⟨hw, start⟩
    | tail _ hnext ih => exact ⟨ih.1.next hnext, step _ _ ih.1 hnext ih.2⟩
  exact hboth.2

theorem Runs.evolves {r : Rules} {w w' : Stage} (hrun : Runs r w w') (hw : w.Placed) :
    w.graph.Evolves w'.graph :=
  hrun.induction (P := fun v => w.graph.Evolves v.graph) hw (Graph.Evolves.refl _)
    fun _ _ hv hnext h => h.trans (hnext.evolves hv)

/-! ### 3. The marks -/

/-- The marked cells are the dropped cells that hold several objects. -/
def Graph.MarksExact (g : Graph) : Prop :=
  ∀ id, id ∈ g.multiDrop ↔ ∃ c, g.cell? id = some c ∧ c.isObject = true ∧ 1 < c.objects.size

theorem size_le_size_union (s t : IdSet) : s.size ≤ (s.union t).size :=
  length_le_of_nodup_of_forall_mem (nodup_toList s) fun _ hx => IdSet.mem_union.mpr (Or.inl hx)

theorem mem_multiDrop_absorb {g : Graph} {id j : Int} {delta : IdSet} :
    j ∈ (absorb g id delta).multiDrop ↔ j ∈ g.multiDrop ∨ (j = id ∧
      ∃ c, (absorb g id delta).cell? id = some c ∧ c.isObject = true ∧ 1 < c.objects.size) := by
  have hcell : (absorb g id delta).cell? id = (g.addObjects id delta).cell? id := by
    unfold Graph.cell?
    rw [cells_absorb]
  rw [hcell]
  unfold absorb
  dsimp only
  split
  · rename_i c hc
    split
    · rename_i hcond
      simp only [Bool.and_eq_true, decide_eq_true_eq] at hcond
      simp only [Graph.markMultiDrop, IdSet.mem_insert, Graph.multiDrop_addObjects]
      constructor
      · rintro (rfl | h)
        · exact Or.inr ⟨rfl, c, hc, hcond.1, hcond.2⟩
        · exact Or.inl h
      · rintro (h | ⟨rfl, _⟩)
        · exact Or.inr h
        · exact Or.inl rfl
    · rename_i hcond
      simp only [Bool.and_eq_true, decide_eq_true_eq] at hcond
      rw [Graph.multiDrop_addObjects]
      constructor
      · exact Or.inl
      · rintro (h | ⟨_, d, hd, hobject, hsize⟩)
        · exact h
        · rw [hc] at hd
          cases hd
          exact absurd ⟨hobject, hsize⟩ hcond
  · rename_i hc
    rw [Graph.multiDrop_addObjects]
    constructor
    · exact Or.inl
    · rintro (h | ⟨_, d, hd, _⟩)
      · exact h
      · rw [hc] at hd
        exact nomatch hd

theorem Graph.MarksExact.absorb {g : Graph} (h : g.MarksExact) (id : Int) (delta : IdSet) :
    (Flow.absorb g id delta).MarksExact := by
  intro j
  rw [mem_multiDrop_absorb]
  by_cases hj : j = id
  · subst hj
    constructor
    · rintro (hm | ⟨_, hex⟩)
      · -- it was marked before, and has not become smaller
        obtain ⟨c, hc, hobject, hsize⟩ := (h j).mp hm
        refine ⟨{ c with objects := c.objects.union delta }, ?_, hobject, ?_⟩
        · rw [cell?_absorb, if_pos rfl, hc, Option.map_some]
        · exact Nat.lt_of_lt_of_le hsize (size_le_size_union _ _)
      · exact hex
    · intro hex
      exact Or.inr ⟨rfl, hex⟩
  · rw [h j, cell?_absorb g id j, if_neg hj]
    constructor
    · rintro (hex | ⟨heq, _⟩)
      · exact hex
      · exact absurd heq hj
    · exact Or.inl

theorem Graph.MarksExact.extends {g g' : Graph} (h : g.MarksExact) (hext : g.Extends g') :
    g'.MarksExact := by
  intro id
  rw [hext.multiDrop, h id]
  constructor
  · rintro ⟨c, hc, hrest⟩
    exact ⟨c, hext.old id c hc, hrest⟩
  · rintro ⟨c, hc, hobject, hsize⟩
    exact ⟨c, hext.old_of_nonempty hc (Or.inr (Cell.isObject_iff.mp hobject)), hobject, hsize⟩

/-- A run keeps the marks exact. -/
theorem Runs.marksExact {r : Rules} {w w' : Stage} (hrun : Runs r w w') (hw : w.Placed)
    (h : w.graph.MarksExact) : w'.graph.MarksExact := by
  refine hrun.induction (P := fun v => v.graph.MarksExact) hw h fun v v' hv hnext hmarks => ?_
  obtain ⟨item, _, _, _, _, ⟨_, hsame, _⟩ | ⟨_, hadv, _⟩⟩ := hnext.cases hv
  · rw [hsame]
    exact hmarks
  · exact (hmarks.absorb _ _).extends hadv.ext

end DropFlow.Flow
