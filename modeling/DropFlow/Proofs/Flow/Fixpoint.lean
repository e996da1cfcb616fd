/-
  DropFlow/Proofs/Flow/Fixpoint.lean
  ==================================
  No flow is lost: when no work is left, the rules demand nothing more.

  An expanded graph holds nothing yet, and the work is to make every dropped cell hold
  itself (`Seeded`).  From there on, what the rules demand of the objects held so far is
  held or waits to be added (`Covered`); every step keeps this, whichever item it takes.
  When nothing waits, the sets are closed under the rules (`Closed`).
-/
import DropFlow.Proofs.Flow.Effects
import DropFlow.Proofs.Flow.Run

namespace DropFlow.Flow

/-! ### 1. Expanded graphs -/

/-- A graph before the propagation: nothing is held or marked, the ends of the edges are cells,
    and the work is to make each dropped cell hold itself. -/
structure Stage.Seeded (w : Stage) : Prop where
  hollow : ∀ id c, w.graph.cell? id = some c → c.objects = ∅
  unmarked : w.graph.multiDrop = ∅
  anchored : w.graph.Anchored
  seeds : ∀ id c, w.graph.cell? id = some c → c.isObject = true →
    ⟨id, .singleton id⟩ ∈ w.pending
  work : ∀ item ∈ w.pending, ∃ c, w.graph.cell? item.cell = some c ∧ c.isObject = true ∧
    item.objects = .singleton item.cell

namespace Stage.Seeded

variable {g : Graph} {pending : List WorkItem}

theorem empty : Stage.Seeded ⟨{}, []⟩ where
  hollow := fun id c hc => by simp [Graph.cell?] at hc
  unmarked := rfl
  anchored := fun e he => nomatch he
  seeds := fun id c hc => by simp [Graph.cell?] at hc
  work := fun item hitem => nomatch hitem

theorem grow {g' : Graph} (h : Stage.Seeded ⟨g, pending⟩) (hext : g.Extends g') :
    Stage.Seeded ⟨g', pending⟩ where
  hollow := fun id c hc => by
    rcases hext.fresh id c hc with hold | ⟨hempty, _⟩
    · exact h.hollow id c hold
    · exact hempty
  unmarked := hext.multiDrop.trans h.unmarked
  anchored := hext.evolves.anchored h.anchored
  seeds := fun id c hc hobject =>
    h.seeds id c (hext.old_of_nonempty hc (Or.inr (Cell.isObject_iff.mp hobject))) hobject
  work := fun item hitem => by
    obtain ⟨c, hc, hobject, hself⟩ := h.work item hitem
    exact ⟨c, hext.old _ c hc, hobject, hself⟩

theorem connect {source target : Int} {s t : Cell} (h : Stage.Seeded ⟨g, pending⟩)
    (hs : g.cell? source = some s) (ht : g.cell? target = some t) (site : Site)
    (passing : Graph.Passing) :
    Stage.Seeded ⟨(g.connect source target site passing).1,
      pending ++ (g.connect source target site passing).2⟩ := by
  have hempty : (g.pointsTo source).isEmpty = true := by
    rw [Graph.pointsTo_of_cell? hs, h.hollow source s hs]
    rfl
  rw [Graph.connect_snd_of_isEmpty hempty, List.append_nil]
  refine ⟨?_, ?_, ?_, ?_, ?_⟩
  · intro id c hc
    rw [Graph.cell?_connect] at hc
    exact h.hollow id c hc
  · rw [Graph.multiDrop_connect]
    exact h.unmarked
  · intro e he
    rw [Graph.cell?_connect, Graph.cell?_connect]
    rw [Graph.edges_connect] at he
    split at he
    · exact h.anchored e he
    · rw [Array.toList_push, List.mem_append, List.mem_singleton] at he
      rcases he with he | rfl
      · exact h.anchored e he
      · rw [Graph.source_edgeFor, Graph.target_edgeFor]
        exact ⟨⟨s, hs⟩, t, ht⟩
  · intro id c hc
    rw [Graph.cell?_connect] at hc
    exact h.seeds id c hc
  · intro item hitem
    rw [Graph.cell?_connect]
    exact h.work item hitem

theorem addDrop {id : Int} {c : Cell} (h : Stage.Seeded ⟨g, pending⟩) (hc : g.cell? id = some c)
    (site : Site) :
    Stage.Seeded ⟨g.addDrop id site,
      if (g.dropsOf id).isEmpty then pending ++ [⟨id, .singleton id⟩] else pending⟩ := by
  have hcell : ∀ j d, (g.addDrop id site).cell? j = some d →
      (j = id ∧ d = { c with drops := c.drops ++ [site] }) ∨ (j ≠ id ∧ g.cell? j = some d) := by
    intro j d hd
    rw [Graph.cell?_addDrop] at hd
    split at hd
    · rename_i hj
      rw [hj, hc, Option.map_some] at hd
      exact Or.inl ⟨hj, (Option.some.inj hd).symm⟩
    · rename_i hj
      exact Or.inr ⟨hj, hd⟩
  have hold : ∀ {j : Int} {d : Cell}, g.cell? j = some d →
      ∃ d', (g.addDrop id site).cell? j = some d' ∧ (d.isObject = true → d'.isObject = true) := by
    intro j d hd
    rw [Graph.cell?_addDrop]
    split
    · rw [hd, Option.map_some]
      exact ⟨_, rfl, fun _ => Cell.isObject_iff.mpr ⟨site, by simp⟩⟩
    · exact ⟨d, hd, fun hobject => hobject⟩
  have hkept : ∀ item ∈ pending,
      item ∈ if (g.dropsOf id).isEmpty then pending ++ [⟨id, .singleton id⟩] else pending := by
    intro item hitem
    split
    · exact List.mem_append_left _ hitem
    · exact hitem
  refine ⟨?_, ?_, ?_, ?_, ?_⟩
  · intro j d hd
    rcases hcell j d hd with ⟨_, rfl⟩ | ⟨_, hd⟩
    · exact h.hollow id c hc
    · exact h.hollow j d hd
  · rw [Graph.multiDrop_addDrop]
    exact h.unmarked
  · intro e he
    rw [Graph.edges_addDrop] at he
    obtain ⟨⟨s, hs⟩, t, ht⟩ := h.anchored e he
    obtain ⟨s', hs', _⟩ := hold hs
    obtain ⟨t', ht', _⟩ := hold ht
    exact ⟨⟨s', hs'⟩, t', ht'⟩
  · intro j d hd hobject
    rcases hcell j d hd with ⟨rfl, _⟩ | ⟨_, hd⟩
    · -- it was dropped before, or its seed is new
      by_cases hfirst : (g.dropsOf j).isEmpty = true
      · rw [if_pos hfirst]
        exact List.mem_append_right _ (List.mem_singleton.mpr rfl)
      · refine hkept _ (h.seeds j c hc ?_)
        rw [Graph.dropsOf_of_cell? hc] at hfirst
        simpa [Cell.isObject] using hfirst
    · exact hkept _ (h.seeds j d hd hobject)
  · have hwork : ∀ item ∈ pending, ∃ d, (g.addDrop id site).cell? item.cell = some d ∧
        d.isObject = true ∧ item.objects = .singleton item.cell := by
      intro item hitem
      obtain ⟨d, hd, hobject, hself⟩ := h.work item hitem
      obtain ⟨d', hd', hkeeps⟩ := hold hd
      exact ⟨d', hd', hkeeps hobject, hself⟩
    intro item hitem
    split at hitem
    · rcases List.mem_append.mp hitem with hitem | hitem
      · exact hwork item hitem
      · cases List.mem_singleton.mp hitem
        refine ⟨{ c with drops := c.drops ++ [site] }, ?_, ?_, rfl⟩
        · rw [Graph.cell?_addDrop, if_pos rfl, hc, Option.map_some]
        · exact Cell.isObject_iff.mpr ⟨site, by simp⟩
    · exact hwork item hitem

end Stage.Seeded

/-- The graph and the work of an outline. -/
def Outline.stage (w : Outline) : Stage := ⟨w.graph, w.pending⟩

theorem Graph.exists_cell_cellFor (g : Graph) (r : CellRef) :
    ∃ c, (g.cellFor r).1.cell? (g.cellFor r).2 = some c ∧ c.address = (r.activation, r.place) :=
  Graph.find?_eq_some_iff.mp (Graph.find?_ensure g r.activation r.place r.name)

theorem Graph.extends_cellFor (g : Graph) (r : CellRef) : g.Extends (g.cellFor r).1 :=
  Graph.extends_ensure g r.activation r.place r.name

theorem Stage.Seeded.carry {w : Outline} (h : w.stage.Seeded) (e : Effect) :
    (w.carry e).stage.Seeded := by
  cases e with
  | touch c => exact h.grow (w.graph.extends_cellFor c)
  | link source target site passing news =>
    have hext := (w.graph.cellFor source).1.extends_cellFor target
    obtain ⟨s, hs, _⟩ := w.graph.exists_cell_cellFor source
    obtain ⟨t, ht, _⟩ := (w.graph.cellFor source).1.exists_cell_cellFor target
    have hboth := (h.grow (w.graph.extends_cellFor source)).grow hext
    exact hboth.connect (hext.old _ s hs) ht site passing
  | drop c site =>
    obtain ⟨d, hd, _⟩ := w.graph.exists_cell_cellFor c
    exact (h.grow (w.graph.extends_cellFor c)).addDrop hd site
  | call site callee => exact h
  | note n => exact h
  | load f => exact h
  | abort e => exact h

/-- An expanded graph is seeded. -/
theorem seeded_expandFrom {p : Program} {config : Config} {entry : Int} {s : State}
    (h : expandFrom p config entry = (s, none)) : Stage.Seeded ⟨s.graph, s.pending⟩ := by
  have houtline := (expansion_expandFrom h).1.outline
  have hseeded : s.outline.stage.Seeded := by
    rw [houtline]
    exact Outline.carryAll_induction (P := fun w => w.stage.Seeded) Stage.Seeded.empty
      fun _ e _ hv => hv.carry e
  exact hseeded

theorem Stage.Seeded.placed {w : Stage} (h : w.Seeded) : w.Placed where
  anchored := h.anchored
  work := fun item hitem => by
    obtain ⟨c, hc, _⟩ := h.work item hitem
    exact ⟨c, hc⟩

/-! ### 2. Coverage -/

/-- What the rules demand is held, or waits to be added. -/
def Stage.Covered (limit : Nat) (w : Stage) : Prop :=
  ∀ address o, Owes limit w.graph address o → ∃ id, w.graph.find? address.1 address.2 = some id ∧
    (o ∈ w.graph.pointsTo id ∨ ∃ item ∈ w.pending, item.cell = id ∧ o ∈ item.objects)

theorem Stage.Seeded.covered {w : Stage} (h : w.Seeded) (limit : Nat) : w.Covered limit := by
  have hnone : ∀ {id o : Int} {c : Cell}, w.graph.cell? id = some c → o ∉ c.objects := by
    intro id o c hc
    rw [h.hollow id c hc]
    exact IdSet.not_mem_empty o
  intro address o howes
  cases howes with
  | @seed id c hc hobject =>
    refine ⟨o, Graph.find?_eq_some_iff.mpr ⟨c, hc, rfl⟩, Or.inr ?_⟩
    exact ⟨⟨o, .singleton o⟩, h.seeds o c hc hobject, rfl, IdSet.mem_singleton.mpr rfl⟩
  | flow _ hs _ ho => exact absurd ho (hnone hs)
  | part hc _ _ _ ho => exact absurd ho (hnone hc)
  | same _ _ _ hc _ _ ho _ => exact absurd ho (hnone hc)

theorem Graph.Evolves.mem_pointsTo {g g' : Graph} (h : g.Evolves g') {id o : Int}
    (ho : o ∈ g.pointsTo id) : o ∈ g'.pointsTo id := by
  obtain ⟨c, hc, hoc⟩ := Graph.exists_cell_of_mem_pointsTo ho
  obtain ⟨c', hc', _, hsub⟩ := h.old id c hc
  rw [Graph.pointsTo_of_cell? hc']
  exact hsub o hoc

/-- Every step keeps the coverage: the item that it takes is held afterwards, and what the rules
    demand anew is among the work that it brings. -/
theorem Stage.Covered.next {r : Rules} {w w' : Stage} (hw : w.Placed)
    (hcovered : w.Covered r.limit) (hnext : w.Next r w') : w'.Covered r.limit := by
  have hevolves := hnext.evolves hw
  obtain ⟨item, rest, c, hperm, hc, hcases⟩ := hnext.cases hw
  -- what the item taken brings is held afterwards
  have hitem : ∀ o ∈ item.objects, o ∈ w'.graph.pointsTo item.cell := by
    intro o ho
    by_cases hheld : o ∈ c.objects
    · exact hevolves.mem_pointsTo (by rw [Graph.pointsTo_of_cell? hc]; exact hheld)
    · rcases hcases with ⟨hsub, _⟩ | ⟨work, hadv, _⟩
      · exact absurd (hsub o ho) hheld
      · obtain ⟨c', hc', _, hobjects⟩ :=
          exists_cell_absorb hc item.cell (w.graph.missing item.cell item.objects)
        rw [Graph.pointsTo_of_cell? (hadv.ext.old _ c' hc'), hobjects o]
        refine Or.inr ⟨rfl, ?_⟩
        rw [Graph.missing, IdSet.mem_diff, Graph.pointsTo_of_cell? hc]
        exact ⟨ho, hheld⟩
  -- what else was waiting still waits
  have hrest : ∀ i ∈ rest, i ∈ w'.pending := by
    intro i hi
    rcases hcases with ⟨_, _, hpending⟩ | ⟨work, _, hpending⟩
    · exact hpending.mem_iff.mpr hi
    · exact hpending.mem_iff.mpr (List.mem_append_left _ hi)
  have hold : ∀ address o, Owes r.limit w.graph address o →
      ∃ id, w'.graph.find? address.1 address.2 = some id ∧
        (o ∈ w'.graph.pointsTo id ∨ ∃ i ∈ w'.pending, i.cell = id ∧ o ∈ i.objects) := by
    intro address o howes
    obtain ⟨id, hfind, hdue⟩ := hcovered address o howes
    refine ⟨id, hevolves.find? hfind, ?_⟩
    rcases hdue with ho | ⟨i, hi, rfl, ho⟩
    · exact Or.inl (hevolves.mem_pointsTo ho)
    · rcases List.mem_cons.mp (hperm.mem_iff.mp hi) with rfl | hi
      · exact Or.inl (hitem o ho)
      · exact Or.inr ⟨i, hrest i hi, rfl, ho⟩
  intro address o howes
  rcases hcases with ⟨_, hsame, _⟩ | ⟨work, hadv, hpending⟩
  · rw [hsame] at howes
    exact hold address o howes
  · rcases hadv.complete address o howes with howes | ⟨id, hfind, i, hi, hid, ho⟩
    · exact hold address o howes
    · refine ⟨id, hfind, Or.inr ⟨i, ?_, hid, ho⟩⟩
      exact hpending.mem_iff.mpr (List.mem_append_right _ hi)

/-- A run that leaves no work has added everything that the rules demand. -/
theorem Runs.owes_held {r : Rules} {w : Stage} {g : Graph} (hw : w.Seeded)
    (hrun : Runs r w ⟨g, []⟩) {address : Activation × Place} {o : Int}
    (howes : Owes r.limit g address o) :
    ∃ id, g.find? address.1 address.2 = some id ∧ o ∈ g.pointsTo id := by
  have hcovered : Stage.Covered r.limit ⟨g, []⟩ :=
    hrun.induction (P := Stage.Covered r.limit) hw.placed (hw.covered r.limit)
      fun _ _ hv hnext hc => hc.next hv hnext
  obtain ⟨id, hfind, ho | ⟨i, hi, _⟩⟩ := hcovered address o howes
  · exact ⟨id, hfind, ho⟩
  · exact nomatch hi

/-! ### 3. Closed sets -/

/-- The sets of objects are closed under the four rules. -/
structure Graph.Closed (limit : Nat) (g : Graph) : Prop where
  /-- A dropped cell holds itself. -/
  seeds : ∀ id, g.dropsOf id ≠ [] → id ∈ g.pointsTo id
  /-- Objects flow along edges. -/
  flows : ∀ e ∈ g.edges.toList, ∀ o ∈ g.pointsTo e.source, o ∈ g.pointsTo e.target
  /-- The objects of a place are objects of its parts. -/
  parts : ∀ i j c d, g.cell? i = some c → g.cell? j = some d → c.activation = d.activation →
    c.place.StrictPrefix d.place → ∀ o ∈ c.objects, o ∈ d.objects
  /-- The part of a source flows into the same part of the target, which exists if it is not too
      deep and there is something to flow into it. -/
  sameParts : ∀ e ∈ g.edges.toList, ∀ n q t c, g.cell? e.source = some q →
    g.cell? e.target = some t → g.cell? n = some c → q.activation = c.activation →
    q.place.StrictPrefix c.place → (∃ o, o ∈ c.objects) →
    (t.place.append (q.place.stepsTo c.place)).depth ≤ limit →
    ∃ id d, g.find? t.activation (t.place.append (q.place.stepsTo c.place)) = some id ∧
      g.cell? id = some d ∧ ∀ o ∈ c.objects, o ∈ d.objects

/-- Where everything that the rules demand is held, the sets are closed. -/
theorem Graph.Closed.of_owes {limit : Nat} {g : Graph} (hanchored : g.Anchored)
    (h : ∀ address o, Owes limit g address o →
      ∃ id, g.find? address.1 address.2 = some id ∧ o ∈ g.pointsTo id) : g.Closed limit := by
  have hat : ∀ {id o : Int} {c : Cell}, g.cell? id = some c → Owes limit g c.address o →
      o ∈ g.pointsTo id := by
    intro id o c hc howes
    obtain ⟨j, hj, ho⟩ := h _ o howes
    have hid : g.find? c.address.1 c.address.2 = some id :=
      Graph.find?_eq_some_iff.mpr ⟨c, hc, rfl⟩
    rw [hj] at hid
    cases hid
    exact ho
  refine ⟨?_, ?_, ?_, ?_⟩
  · intro id hdrops
    obtain ⟨d, hd⟩ := List.exists_mem_of_ne_nil _ hdrops
    obtain ⟨c, hc, hdc⟩ := Graph.exists_cell_of_mem_dropsOf hd
    exact hat hc (Owes.seed hc (Cell.isObject_iff.mpr ⟨d, hdc⟩))
  · intro e he o ho
    obtain ⟨s, hs, hos⟩ := Graph.exists_cell_of_mem_pointsTo ho
    obtain ⟨_, t, ht⟩ := hanchored e he
    exact hat ht (Owes.flow he hs ht hos)
  · intro i j c d hc hd hact hcov o ho
    rw [← Graph.pointsTo_of_cell? hd]
    exact hat hd (Owes.part hc hd hact hcov ho)
  · intro e he n q t c hq ht hc hact hcov hne hdepth
    have howes : ∀ o ∈ c.objects,
        Owes limit g (t.activation, t.place.append (q.place.stepsTo c.place)) o :=
      fun o ho => Owes.same he hq ht hc hact hcov ho hdepth
    obtain ⟨o, ho⟩ := hne
    obtain ⟨id, hfind, _⟩ := h _ o (howes o ho)
    obtain ⟨d, hd, haddr⟩ := Graph.find?_eq_some_iff.mp hfind
    refine ⟨id, d, hfind, hd, fun o' ho' => ?_⟩
    rw [← Graph.pointsTo_of_cell? hd]
    refine hat hd ?_
    rw [haddr]
    exact howes o' ho'

/-- A run on a seeded graph that leaves no work ends with closed sets. -/
theorem Runs.closed {r : Rules} {w : Stage} {g : Graph} (hw : w.Seeded)
    (hrun : Runs r w ⟨g, []⟩) : g.Closed r.limit :=
  Graph.Closed.of_owes ((hrun.evolves hw.placed).anchored hw.anchored)
    fun _ _ howes => hrun.owes_held hw howes

/-- A function that hands over a value, drops a part of it, and then drops where it went. -/
def handover : Source.Function where
  name := "main"
  slots := [{ slot := 1 }, { slot := 2 }]
  blocks :=
    [{ id := 0
       successors := [1]
       statements := [{ left := ⟨2, []⟩, rvalue := { kind := "move", place := some ⟨1, []⟩ } }] },
     { id := 1, successors := [2], drop := some { place := ⟨1, [.field 0]⟩ } },
     { id := 2, drop := some { place := ⟨2, []⟩ } }]

/-- The program of this function alone. -/
def handoverProgram : Program := { entries := #[{ source := handover }] }

/-- What is there before the objects of `handover` are propagated. -/
def handoverState : State := (expandFrom handoverProgram {} 0).1

/-- The outcome of taking the work of `handover` in some order. -/
def handoverGraph (pending : List WorkItem) : Graph :=
  (solve (rules handoverState.program {}) handoverState.graph pending).graph

theorem expandFrom_handover : expandFrom handoverProgram {} 0 = (handoverState, none) :=
  Prod.ext rfl (by decide +kernel)

end DropFlow.Flow
