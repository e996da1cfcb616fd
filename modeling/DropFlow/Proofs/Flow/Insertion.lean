/-
  DropFlow/Proofs/Flow/Insertion.lean
  ===================================
  Edges that are added while objects are on their way.

  Building a graph and propagating its objects may take turns in any order (`Turn`).  Two
  mechanisms have to meet without a gap: a new edge schedules what its source holds at that
  moment, and a step hands what is new to a cell to the successors of that moment.  What
  the two keep between them is that no edge is owed anything silently (`Stage.Carried`):
  what the source of an edge holds, the target holds or waits for.
-/
import DropFlow.Proofs.Flow.Operations

namespace DropFlow.Flow

/-! ### 1. Turns -/

/-- One thing that is done to a graph and its work.  Whichever item waits may be processed next,
    if it waits for a cell that exists; what is left may stand in any order. -/
inductive Turn (r : Rules) : Stage → Stage → Prop
  | create (w : Stage) (a : Activation) (p : Place) (name : String) :
      Turn r w ⟨(w.graph.ensure a p name).1, w.pending⟩
  | drop (w : Stage) (id : Int) (site : Site) : Turn r w ⟨w.graph.addDrop id site, w.pending⟩
  | schedule (w : Stage) (item : WorkItem) : Turn r w ⟨w.graph, w.pending ++ [item]⟩
  | connect {w : Stage} {source target : Int} {site : Site} {passing : Graph.Passing} {g : Graph}
      {work : List WorkItem} : w.graph.connect? source target site passing = some (g, work) →
      Turn r w ⟨g, w.pending ++ work⟩
  | process {w : Stage} {item : WorkItem} {rest pending : List WorkItem} {c : Cell} :
      w.pending.Perm (item :: rest) → w.graph.cell? item.cell = some c →
      pending.Perm (rest ++ (propagate r w.graph item).work) →
      Turn r w ⟨(propagate r w.graph item).graph, pending⟩

/-- Any number of turns. -/
abbrev Turns (r : Rules) : Stage → Stage → Prop := Relation.ReflTransGen (Turn r)

/-! ### 2. What a step does to the sets -/

namespace Graph

variable {g : Graph}

theorem Grows.mem_pointsTo {g' : Graph} (h : g.Grows g') {id o : Int} (ho : o ∈ g.pointsTo id) :
    o ∈ g'.pointsTo id := by
  obtain ⟨c, hc, hoc⟩ := exists_cell_of_mem_pointsTo ho
  obtain ⟨c', hc', _, _, _, hsub⟩ := h.cells id c hc
  rw [pointsTo_of_cell? hc']
  exact hsub o hoc

theorem Extends.pointsTo {g' : Graph} (h : g.Extends g') (id : Int) :
    g'.pointsTo id = g.pointsTo id := by
  apply IdSet.ext
  intro o
  constructor
  · intro ho
    obtain ⟨c, hc, hoc⟩ := exists_cell_of_mem_pointsTo ho
    rwa [pointsTo_of_cell? (h.old_of_nonempty hc (Or.inl ⟨o, hoc⟩))]
  · exact h.grows.mem_pointsTo

theorem pointsTo_addDrop (g : Graph) (id j : Int) (site : Site) :
    (g.addDrop id site).pointsTo j = g.pointsTo j := by
  simp only [pointsTo, cell?_addDrop]
  by_cases hj : j = id
  · rw [if_pos hj]
    cases g.cell? j <;> rfl
  · rw [if_neg hj]

theorem pointsTo_connect (g : Graph) (source target : Int) (site : Site) (passing : Passing)
    (id : Int) : (g.connect source target site passing).1.pointsTo id = g.pointsTo id := by
  simp only [pointsTo, cell?_connect]

theorem connect_of_connect? {source target : Int} {site : Site} {passing : Passing}
    {result : Graph × List WorkItem} (h : g.connect? source target site passing = some result) :
    g.connect source target site passing = result := by
  obtain ⟨_, _, h⟩ := Option.bind_eq_some_iff.mp h
  cases passing with
  | value =>
    obtain ⟨_, _, h⟩ := Option.bind_eq_some_iff.mp h
    exact Option.some.inj h
  | argument => exact Option.some.inj h

theorem hasEdge_connect (g : Graph) (source target : Int) (site : Site) (passing : Passing) :
    (g.connect source target site passing).1.hasEdge source target = true := by
  rw [hasEdge_iff, edges_connect]
  by_cases hhas : g.hasEdge source target = true
  · rw [if_pos hhas]
    exact hasEdge_iff.mp hhas
  · rw [if_neg hhas]
    refine ⟨g.edgeFor source target site passing, ?_, source_edgeFor .., target_edgeFor ..⟩
    rw [Array.toList_push]
    exact List.mem_append_right _ (List.mem_singleton.mpr rfl)

theorem mem_connect_snd {source target : Int} (hhas : g.hasEdge source target = false) {o : Int}
    (ho : o ∈ g.pointsTo source) (site : Site) (passing : Passing) :
    ⟨target, g.pointsTo source⟩ ∈ (g.connect source target site passing).2 := by
  have hne : (g.pointsTo source).isEmpty = false := IdSet.isEmpty_eq_false_iff.mpr ⟨o, ho⟩
  simp [connect, hhas, hne]

theorem Grows.hasEdge {g' : Graph} (h : g.Grows g') {source target : Int}
    (hhas : g.hasEdge source target = true) : g'.hasEdge source target = true := by
  obtain ⟨e, he, hends⟩ := hasEdge_iff.mp hhas
  exact hasEdge_iff.mpr ⟨e, h.edges.subset he, hends⟩

end Graph

theorem grows_absorb (g : Graph) (id : Int) (delta : IdSet) : g.Grows (absorb g id delta) := by
  have hadded := Graph.grows_addObjects g id delta
  unfold absorb
  dsimp only
  split
  · split
    · exact hadded.trans (Graph.grows_markMultiDrop _ id)
    · exact hadded
  · exact hadded

/-- What a step does that finds something new to its cell: the graph that absorbed it is extended,
    and it is work for all successors. -/
theorem propagate_of_missing (r : Rules) {g : Graph} {item : WorkItem} {c : Cell}
    (hc : g.cell? item.cell = some c)
    (hne : (g.missing item.cell item.objects).isEmpty = false) :
    (absorb g item.cell (g.missing item.cell item.objects)).Extends (propagate r g item).graph ∧
      ∀ e ∈ g.edges.toList, e.source = item.cell →
        ⟨e.target, g.missing item.cell item.objects⟩ ∈ (propagate r g item).work := by
  obtain ⟨c₁, hc₁, _⟩ := exists_cell_absorb hc item.cell (g.missing item.cell item.objects)
  have hstep : propagate r g item =
      handOn r (absorb g item.cell (g.missing item.cell item.objects)) item.cell c₁
        (g.missing item.cell item.objects) := by
    simp only [propagate, hne, hc₁, Bool.false_eq_true, if_false]
  rw [hstep]
  constructor
  · exact (offered_offerAll r _ (sameParts (absorb g item.cell _) c₁) _).ext
  · intro e he hsource
    apply List.mem_append_left
    refine List.mem_map.mpr ⟨e.target, List.mem_append_left _ ?_, rfl⟩
    exact Graph.mem_successors.mpr ⟨e, by rw [edges_absorb]; exact he, hsource, rfl⟩

theorem propagate_of_nothing_missing (r : Rules) {g : Graph} {item : WorkItem}
    (hempty : (g.missing item.cell item.objects).isEmpty = true) :
    (propagate r g item).graph = g := by
  simp only [propagate, hempty, if_true]

theorem grows_propagate (r : Rules) {g : Graph} {item : WorkItem} {c : Cell}
    (hc : g.cell? item.cell = some c) : g.Grows (propagate r g item).graph := by
  cases hempty : (g.missing item.cell item.objects).isEmpty with
  | true =>
    rw [propagate_of_nothing_missing r hempty]
    exact Graph.Grows.refl g
  | false => exact (grows_absorb g _ _).trans (propagate_of_missing r hc hempty).1.grows

theorem edges_propagate (r : Rules) {g : Graph} {item : WorkItem} {c : Cell}
    (hc : g.cell? item.cell = some c) : (propagate r g item).graph.edges = g.edges := by
  cases hempty : (g.missing item.cell item.objects).isEmpty with
  | true => rw [propagate_of_nothing_missing r hempty]
  | false => rw [(propagate_of_missing r hc hempty).1.edges, edges_absorb]

/-- What a step brings to a cell, the cell holds afterwards. -/
theorem mem_pointsTo_propagate (r : Rules) {g : Graph} {item : WorkItem} {c : Cell}
    (hc : g.cell? item.cell = some c) {o : Int} (ho : o ∈ item.objects) :
    o ∈ (propagate r g item).graph.pointsTo item.cell := by
  by_cases hheld : o ∈ g.pointsTo item.cell
  · exact (grows_propagate r hc).mem_pointsTo hheld
  · have hnew : o ∈ g.missing item.cell item.objects := IdSet.mem_diff.mpr ⟨ho, hheld⟩
    have hne : (g.missing item.cell item.objects).isEmpty = false :=
      IdSet.isEmpty_eq_false_iff.mpr ⟨o, hnew⟩
    obtain ⟨c₁, hc₁, _, hobjects⟩ :=
      exists_cell_absorb hc item.cell (g.missing item.cell item.objects)
    rw [(propagate_of_missing r hc hne).1.pointsTo, Graph.pointsTo_of_cell? hc₁]
    exact (hobjects o).mpr (Or.inr ⟨rfl, hnew⟩)

/-- Only the cell of the item gets new objects, and they are work for its successors. -/
theorem pointsTo_propagate_cases (r : Rules) {g : Graph} {item : WorkItem} {c : Cell}
    (hc : g.cell? item.cell = some c) {e : Edge} (he : e ∈ g.edges.toList) {o : Int}
    (ho : o ∈ (propagate r g item).graph.pointsTo e.source) :
    o ∈ g.pointsTo e.source ∨
      ∃ i ∈ (propagate r g item).work, i.cell = e.target ∧ o ∈ i.objects := by
  cases hempty : (g.missing item.cell item.objects).isEmpty with
  | true =>
    rw [propagate_of_nothing_missing r hempty] at ho
    exact Or.inl ho
  | false =>
    obtain ⟨hext, hwork⟩ := propagate_of_missing r hc hempty
    rw [hext.pointsTo] at ho
    obtain ⟨d, hd, hod⟩ := Graph.exists_cell_of_mem_pointsTo ho
    obtain ⟨d₀, hd₀, _, hobjects⟩ := exists_cell_of_absorb hd
    rcases (hobjects o).mp hod with hold | ⟨hsource, hnew⟩
    · left
      rwa [Graph.pointsTo_of_cell? hd₀]
    · exact Or.inr ⟨_, hwork e he hsource, rfl, hnew⟩

/-! ### 3. No edge is forgotten -/

/-- What the source of an edge holds, the target holds or waits for. -/
def Stage.Carried (w : Stage) : Prop :=
  ∀ e ∈ w.graph.edges.toList, ∀ o ∈ w.graph.pointsTo e.source,
    o ∈ w.graph.pointsTo e.target ∨ ∃ item ∈ w.pending, item.cell = e.target ∧ o ∈ item.objects

namespace Stage.Carried

variable {r : Rules} {w : Stage}

theorem of_hollow (h : ∀ id, w.graph.pointsTo id = ∅) : w.Carried := by
  intro e _ o ho
  rw [h e.source] at ho
  exact absurd ho (IdSet.not_mem_empty o)

theorem keep {w' : Stage} (h : w.Carried) (hedges : w'.graph.edges = w.graph.edges)
    (hsets : ∀ id, w'.graph.pointsTo id = w.graph.pointsTo id)
    (hpending : ∀ item ∈ w.pending, item ∈ w'.pending) : w'.Carried := by
  intro e he o ho
  rw [hedges] at he
  rw [hsets] at ho
  rw [hsets]
  rcases h e he o ho with hheld | ⟨item, hitem, hdue⟩
  · exact Or.inl hheld
  · exact Or.inr ⟨item, hpending item hitem, hdue⟩

theorem connect (h : w.Carried) (source target : Int) (site : Site) (passing : Graph.Passing) :
    Stage.Carried ⟨(w.graph.connect source target site passing).1,
      w.pending ++ (w.graph.connect source target site passing).2⟩ := by
  have hold : Stage.Carried
      ⟨w.graph, w.pending ++ (w.graph.connect source target site passing).2⟩ :=
    h.keep rfl (fun _ => rfl) fun _ hitem => List.mem_append_left _ hitem
  intro e he o ho
  rw [Graph.pointsTo_connect] at ho ⊢
  rw [Graph.edges_connect] at he
  by_cases hhas : w.graph.hasEdge source target = true
  · rw [if_pos hhas] at he
    exact hold e he o ho
  · rw [if_neg hhas, Array.toList_push, List.mem_append, List.mem_singleton] at he
    rcases he with he | rfl
    · exact hold e he o ho
    · -- the new edge: all that its source holds by now is scheduled
      rw [Graph.source_edgeFor] at ho
      rw [Graph.target_edgeFor]
      have hwork := Graph.mem_connect_snd (Bool.not_eq_true _ ▸ hhas) ho site passing
      exact Or.inr ⟨_, List.mem_append_right _ hwork, rfl, ho⟩

theorem process {item : WorkItem} {rest pending : List WorkItem} {c : Cell} (h : w.Carried)
    (hperm : w.pending.Perm (item :: rest)) (hc : w.graph.cell? item.cell = some c)
    (hpending : pending.Perm (rest ++ (propagate r w.graph item).work)) :
    Stage.Carried ⟨(propagate r w.graph item).graph, pending⟩ := by
  have hgrows := grows_propagate r hc
  intro e he o ho
  rw [edges_propagate r hc] at he
  rcases pointsTo_propagate_cases r hc he ho with hold | ⟨i, hi, hdue⟩
  · rcases h e he o hold with hheld | ⟨i, hi, hcell, hoi⟩
    · exact Or.inl (hgrows.mem_pointsTo hheld)
    · rcases List.mem_cons.mp (hperm.mem_iff.mp hi) with rfl | hi
      · -- the item that was taken is the one that the target was waiting for
        left
        rw [← hcell]
        exact mem_pointsTo_propagate r hc hoi
      · exact Or.inr ⟨i, hpending.mem_iff.mpr (List.mem_append_left _ hi), hcell, hoi⟩
  · exact Or.inr ⟨i, hpending.mem_iff.mpr (List.mem_append_right _ hi), hdue⟩

theorem turn {w' : Stage} (h : w.Carried) (hturn : Turn r w w') : w'.Carried := by
  cases hturn with
  | create a p name =>
    have hext := Graph.extends_ensure w.graph a p name
    exact h.keep hext.edges hext.pointsTo fun _ hitem => hitem
  | drop id site =>
    exact h.keep (Graph.edges_addDrop w.graph id site)
      (fun j => Graph.pointsTo_addDrop w.graph id j site) fun _ hitem => hitem
  | schedule item =>
    exact h.keep rfl (fun _ => rfl) fun _ hitem => List.mem_append_left _ hitem
  | @connect source target site passing _ _ hconnect =>
    have hcarried := h.connect source target site passing
    rw [Graph.connect_of_connect? hconnect] at hcarried
    exact hcarried
  | process hperm hc hpending => exact h.process hperm hc hpending

theorem turns {w' : Stage} (h : w.Carried) (hturns : Turns r w w') : w'.Carried := by
  induction hturns with
  | refl => exact h
  | tail _ hturn ih => exact ih.turn hturn

/-- Where nothing waits, objects have flowed along all edges. -/
theorem flows (h : w.Carried) (hdone : w.pending = []) {e : Edge} (he : e ∈ w.graph.edges.toList)
    {o : Int} (ho : o ∈ w.graph.pointsTo e.source) : o ∈ w.graph.pointsTo e.target := by
  rcases h e he o ho with hheld | ⟨item, hitem, _⟩
  · exact hheld
  · rw [hdone] at hitem
    exact nomatch hitem

end Stage.Carried

theorem Turn.grows {r : Rules} {w w' : Stage} (h : Turn r w w') : w.graph.Grows w'.graph := by
  cases h with
  | create a p name => exact (Graph.extends_ensure ..).grows
  | drop id site => exact Graph.grows_addDrop ..
  | schedule item => exact Graph.Grows.refl _
  | @connect source target site passing _ _ hconnect =>
    have hgrows := w.graph.grows_connect source target site passing
    rw [Graph.connect_of_connect? hconnect] at hgrows
    exact hgrows
  | process _ hc _ => exact grows_propagate r hc

theorem Turns.grows {r : Rules} {w w' : Stage} (h : Turns r w w') : w.graph.Grows w'.graph := by
  induction h with
  | refl => exact Graph.Grows.refl _
  | tail _ hturn ih => exact ih.trans hturn.grows

/-- **Edges may be added at any time.**  Whatever is done in turns from a graph that holds nothing
    yet (a new one, or one that was just expanded), what the source of an edge holds, the target
    holds or waits for; so it is held when nothing waits.  In particular an edge that is added
    after its source has received objects stays, and lets these and all later objects flow. -/
theorem turns_carry {r : Rules} {start w : Stage} (hstart : ∀ id, start.graph.pointsTo id = ∅)
    (hturns : Turns r start w) :
    (∀ e ∈ w.graph.edges.toList, ∀ o ∈ w.graph.pointsTo e.source,
      o ∈ w.graph.pointsTo e.target ∨
        ∃ item ∈ w.pending, item.cell = e.target ∧ o ∈ item.objects) ∧
    (w.pending = [] → ∀ e ∈ w.graph.edges.toList, ∀ o ∈ w.graph.pointsTo e.source,
      o ∈ w.graph.pointsTo e.target) ∧
    (∀ source target site passing g work w',
      w.graph.connect? source target site passing = some (g, work) →
      Turns r ⟨g, w.pending ++ work⟩ w' → w'.graph.hasEdge source target = true ∧
        (w'.pending = [] → (∀ o ∈ w.graph.pointsTo source, o ∈ w'.graph.pointsTo target) ∧
          ∀ o ∈ w'.graph.pointsTo source, o ∈ w'.graph.pointsTo target)) := by
  have hcarried := (Stage.Carried.of_hollow hstart).turns hturns
  refine ⟨hcarried, fun hdone e he o ho => hcarried.flows hdone he ho, ?_⟩
  intro source target site passing g work w' hconnect hrest
  have hall : Turns r w w' := Relation.ReflTransGen.head (Turn.connect hconnect) hrest
  have hhas : w'.graph.hasEdge source target = true := by
    apply hrest.grows.hasEdge
    have hnew := w.graph.hasEdge_connect source target site passing
    rw [Graph.connect_of_connect? hconnect] at hnew
    exact hnew
  refine ⟨hhas, fun hdone => ?_⟩
  have hflows : ∀ o ∈ w'.graph.pointsTo source, o ∈ w'.graph.pointsTo target := by
    obtain ⟨e, he, rfl, rfl⟩ := Graph.hasEdge_iff.mp hhas
    exact fun o ho => (hcarried.turns hall).flows hdone he ho
  exact ⟨fun o ho => hflows o (hall.grows.mem_pointsTo ho), hflows⟩

/-- A graph of three variables, where the third one receives what the first one held before there
    was an edge. -/
theorem turns_carry_strangers : ∃ start w w' : Stage,
    (∀ id, start.graph.pointsTo id = ∅) ∧ Turns ⟨6, fun _ _ => ""⟩ start w ∧
      w.graph.edges = #[] ∧ 0 ∈ w.graph.pointsTo 0 ∧ Turns ⟨6, fun _ _ => ""⟩ w w' ∧
      w'.pending = [] ∧ w'.graph.hasEdge 0 2 = true ∧ 0 ∈ w'.graph.pointsTo 2 := by
  let r : Rules := ⟨6, fun _ _ => ""⟩
  let one := (({} : Graph).ensure ⟨0, .entry⟩ ⟨1, []⟩ "x").1
  let two := (one.ensure ⟨0, .entry⟩ ⟨2, []⟩ "y").1
  let strangers := (two.ensure ⟨0, .entry⟩ ⟨3, []⟩ "z").1
  have hstart : ∀ id, strangers.pointsTo id = ∅ := by
    intro id
    rw [(Graph.extends_ensure ..).pointsTo, (Graph.extends_ensure ..).pointsTo,
      (Graph.extends_ensure ..).pointsTo]
    simp [Graph.pointsTo, Graph.cell?]
  let first := (propagate r strangers ⟨0, .singleton 0⟩).graph
  have hfirst : Turns r ⟨strangers, [⟨0, .singleton 0⟩]⟩ ⟨first, []⟩ := by
    obtain ⟨c, hc⟩ : ∃ c, strangers.cell? 0 = some c :=
      Option.isSome_iff_exists.mp (by decide +kernel)
    exact Relation.ReflTransGen.single (Turn.process (List.Perm.refl _) hc (by decide +kernel))
  let second := (first.connect 0 2 ⟨0, 0, {}⟩ .value).1
  have hconnect : first.connect? 0 2 ⟨0, 0, {}⟩ .value = some (second, [⟨2, .singleton 0⟩]) := by
    decide +kernel
  have hsecond : Turns r ⟨second, [⟨2, .singleton 0⟩]⟩
      ⟨(propagate r second ⟨2, .singleton 0⟩).graph, []⟩ := by
    obtain ⟨c, hc⟩ : ∃ c, second.cell? 2 = some c :=
      Option.isSome_iff_exists.mp (by decide +kernel)
    exact Relation.ReflTransGen.single (Turn.process (List.Perm.refl _) hc (by decide +kernel))
  have hheld : (0 : Int) ∈ first.pointsTo 0 := by decide +kernel
  obtain ⟨hhas, hflows⟩ := (turns_carry hstart hfirst).2.2 0 2 _ _ _ _ _ hconnect hsecond
  exact ⟨_, _, _, hstart, hfirst, by decide +kernel, hheld,
    Relation.ReflTransGen.head (Turn.connect hconnect) hsecond, rfl, hhas, (hflows rfl).1 0 hheld⟩

end DropFlow.Flow
