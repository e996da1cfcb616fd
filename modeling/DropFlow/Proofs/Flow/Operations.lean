/-
  DropFlow/Proofs/Flow/Operations.lean
  ====================================
  A flow graph under every sequence of operations.

  A graph is built by five operations: a place gets its cell, a cell is dropped, two
  cells are connected, objects are added to a cell, and an object is marked.  None of
  them takes anything away (`Grows`), and none of them enters a second edge between two
  cells or an edge without cells (`Proper`).  What the views of the graph list follows
  from these two.
-/
import DropFlow.Proofs.Flow.Run
import DropFlow.Proofs.Place
import Mathlib.Data.List.Nodup

namespace DropFlow.Flow

/-! ### 1. Operations -/

/-- What can be done to a graph and the work that waits.  An edge may be added with or without
    its work being scheduled. -/
inductive Operation where
  | create (a : Activation) (p : Place) (name : String)
  | drop (id : Int) (site : Site)
  | connect (source target : Int) (site : Site) (passing : Graph.Passing) (scheduling : Bool)
  | hold (id : Int) (set : IdSet)
  | mark (id : Int)

/-- Performs an operation on cells that exist. -/
def Stage.perform? (w : Stage) : Operation → Option Stage
  | .create a p name => some ⟨(w.graph.ensure a p name).1, w.pending⟩
  | .drop id site => do
    let _ ← w.graph.cell? id
    return ⟨w.graph.addDrop id site, w.pending⟩
  | .connect source target site passing scheduling => do
    let _ ← w.graph.cell? target
    let (g, work) ← w.graph.connect? source target site passing
    return ⟨g, w.pending ++ if scheduling then work else []⟩
  | .hold id set => do
    let _ ← w.graph.cell? id
    return ⟨w.graph.addObjects id (w.graph.missing id set), w.pending⟩
  | .mark id => some ⟨w.graph.markMultiDrop id, w.pending⟩

/-- Performs operations one after the other. -/
def Stage.performAll? (w : Stage) : List Operation → Option Stage
  | [] => some w
  | op :: rest => do
    let w ← w.perform? op
    w.performAll? rest

/-! ### 2. The views of a proper graph -/

/-- The ends of an edge. -/
def Edge.ends (e : Edge) : Int × Int := (e.source, e.target)

/-- The ends of the edges are cells, and no two edges have the same ends. -/
structure Graph.Proper (g : Graph) : Prop where
  anchored : g.Anchored
  single : (g.edges.toList.map Edge.ends).Nodup

namespace Graph

variable {g : Graph}

theorem cell?_isSome_iff (g : Graph) (id : Int) :
    (g.cell? id).isSome ↔ 0 ≤ id ∧ id < g.size := by
  constructor
  · intro h
    obtain ⟨c, hc⟩ := Option.isSome_iff_exists.mp h
    exact bounds_of_cell? hc
  · rintro ⟨hlo, hhi⟩
    have hlt : id.toNat < g.cells.size := by
      simp only [size] at hhi
      omega
    simp [cell?, hlo, hlt]

theorem cell?_size (g : Graph) : g.cell? g.size = none := by
  rw [← Option.not_isSome_iff_eq_none, cell?_isSome_iff]
  omega

theorem map_fst_numbered (g : Graph) :
    g.numbered.map (·.1) = (List.range g.size).map fun (i : Nat) => (i : Int) := by
  have hids : g.numbered.map (·.1) =
      (g.cells.toList.zipIdx.map Prod.snd).map fun (i : Nat) => (i : Int) := by
    rw [numbered, List.map_map, List.map_map]
    rfl
  rw [hids, List.zipIdx_map_snd, List.range_eq_range', Array.length_toList, size]

theorem pairwise_lt_numbered (g : Graph) : (g.numbered.map (·.1)).Pairwise (· < ·) := by
  rw [map_fst_numbered, List.pairwise_map]
  exact List.pairwise_lt_range.imp Int.ofNat_lt.mpr

theorem pairwise_lt_slotCells (g : Graph) (a : Activation) (slot : Int) :
    ((g.slotCells a slot).map (·.1)).Pairwise (· < ·) :=
  g.pairwise_lt_numbered.sublist (List.filter_sublist.map _)

theorem mem_objects {id : Int} : id ∈ g.objects ↔ ∃ c, g.cell? id = some c ∧ c.drops ≠ [] := by
  simp [objects, Cell.isObject, mem_numbered]

theorem hasEdge_iff_mem_successors {source target : Int} :
    g.hasEdge source target = true ↔ target ∈ g.successors source := by
  rw [hasEdge_iff, mem_successors]

theorem Proper.nodup_edges (h : g.Proper) : g.edges.toList.Nodup := h.single.of_map

theorem Proper.eq_of_ends (h : g.Proper) {d e : Edge} (hd : d ∈ g.edges.toList)
    (he : e ∈ g.edges.toList) (hends : d.ends = e.ends) : d = e :=
  List.inj_on_of_nodup_map h.single hd he hends

theorem Proper.nodup_successors (h : g.Proper) (source : Int) : (g.successors source).Nodup := by
  -- next to the source, the successors are the ends of edges
  have hends : (g.successors source).map (source, ·) = (g.edgesFrom source).map Edge.ends := by
    unfold successors
    rw [List.map_map]
    refine List.map_congr_left fun e he => ?_
    have hsource : e.source = source := by simpa using (List.mem_filter.mp he).2
    simp [Edge.ends, hsource]
  have hnodup : ((g.edgesFrom source).map Edge.ends).Nodup :=
    h.single.sublist (List.filter_sublist.map _)
  rw [← hends] at hnodup
  exact hnodup.of_map

theorem Anchored.mem_allEdges (h : g.Anchored) {e : Edge} :
    e ∈ g.allEdges ↔ e ∈ g.edges.toList := by
  simp only [allEdges, edgesFrom, List.mem_flatMap, List.mem_range, List.mem_filter,
    decide_eq_true_eq]
  constructor
  · rintro ⟨_, _, he, _⟩
    exact he
  · intro he
    obtain ⟨⟨s, hs⟩, _⟩ := h e he
    have hbounds := bounds_of_cell? hs
    exact ⟨e.source.toNat, by omega, he, (Int.toNat_of_nonneg hbounds.1).symm⟩

theorem Proper.nodup_allEdges (h : g.Proper) : g.allEdges.Nodup := by
  rw [allEdges, List.nodup_flatMap]
  refine ⟨fun i _ => h.nodup_edges.filter _, ?_⟩
  refine (List.nodup_range (n := g.size)).imp fun {i j} hne e hi hj => hne ?_
  have hsi : e.source = i := by simpa using (List.mem_filter.mp hi).2
  have hsj : e.source = j := by simpa using (List.mem_filter.mp hj).2
  exact Int.ofNat.inj (hsi.symm.trans hsj)

theorem Proper.edge?_eq_some_iff (h : g.Proper) {source target : Int} {e : Edge} :
    g.edge? source target = some e ↔
      e ∈ g.allEdges ∧ e.source = source ∧ e.target = target := by
  rw [h.anchored.mem_allEdges]
  unfold edge?
  constructor
  · intro hfind
    refine ⟨Array.mem_toList_iff.mpr (Array.mem_of_find?_eq_some hfind), ?_⟩
    simpa using Array.find?_some hfind
  · rintro ⟨he, hsource, htarget⟩
    cases hfind : g.edges.find? fun e => e.source = source && e.target = target with
    | none =>
      have hno := Array.find?_eq_none.mp hfind e (Array.mem_toList_iff.mp he)
      simp [hsource, htarget] at hno
    | some d =>
      have hd := Array.find?_some hfind
      simp only [Bool.and_eq_true, decide_eq_true_eq] at hd
      rw [h.eq_of_ends (Array.mem_toList_iff.mpr (Array.mem_of_find?_eq_some hfind)) he]
      rw [Edge.ends, Edge.ends, hd.1, hd.2, hsource, htarget]

theorem mem_derefEdges (h : g.Anchored) {e : Edge} :
    e ∈ g.derefEdges ↔ e ∈ g.allEdges ∧ e.isDeref = true := by
  rw [h.mem_allEdges, derefEdges, List.mem_filter]

/-- The cell of a place is the cell with its activation and its key. -/
theorem find?_eq_some_iff_key {a : Activation} {p : Place} {id : Int} :
    g.find? a p = some id ↔
      ∃ c, g.cell? id = some c ∧ c.activation = a ∧ c.place.key = p.key := by
  simp only [find?_eq_some_iff, Cell.address, Prod.mk.injEq, Place.key_inj]

/-! ### 3. Growth -/

/-- Nothing is taken away: cells keep their numbers, addresses and names, and drop sites, objects,
    edges and marks are only added. -/
structure Grows (g g' : Graph) : Prop where
  cells : ∀ id c, g.cell? id = some c → ∃ c', g'.cell? id = some c' ∧
    c'.address = c.address ∧ c'.name = c.name ∧ c.drops <+: c'.drops ∧
    ∀ o ∈ c.objects, o ∈ c'.objects
  edges : g.edges.toList <+: g'.edges.toList
  marks : ∀ o ∈ g.multiDrop, o ∈ g'.multiDrop

theorem Grows.refl (g : Graph) : g.Grows g where
  cells := fun _ c hc => ⟨c, hc, rfl, rfl, List.prefix_rfl, fun _ ho => ho⟩
  edges := List.prefix_rfl
  marks := fun _ ho => ho

theorem Grows.trans {g₁ g₂ g₃ : Graph} (h₁ : g₁.Grows g₂) (h₂ : g₂.Grows g₃) : g₁.Grows g₃ where
  cells := fun id c hc => by
    obtain ⟨c', hc', ha, hn, hd, ho⟩ := h₁.cells id c hc
    obtain ⟨c'', hc'', ha', hn', hd', ho'⟩ := h₂.cells id c' hc'
    exact ⟨c'', hc'', ha'.trans ha, hn'.trans hn, hd.trans hd', fun o hm => ho' o (ho o hm)⟩
  edges := h₁.edges.trans h₂.edges
  marks := fun o ho => h₂.marks o (h₁.marks o ho)

theorem Grows.find? {g' : Graph} (h : g.Grows g') {a : Activation} {p : Place} {id : Int}
    (hf : g.find? a p = some id) : g'.find? a p = some id := by
  obtain ⟨c, hc, ha⟩ := find?_eq_some_iff.mp hf
  obtain ⟨c', hc', ha', _⟩ := h.cells id c hc
  exact find?_eq_some_iff.mpr ⟨c', hc', ha'.trans ha⟩

theorem Grows.find?_isSome_iff {g' : Graph} (h : g.Grows g') (hsize : g'.size = g.size)
    {a : Activation} {p : Place} : (g'.find? a p).isSome ↔ (g.find? a p).isSome := by
  constructor
  · intro hfound
    obtain ⟨id, hid⟩ := Option.isSome_iff_exists.mp hfound
    obtain ⟨c', hc', ha⟩ := find?_eq_some_iff.mp hid
    have hbounds := bounds_of_cell? hc'
    rw [hsize] at hbounds
    obtain ⟨c, hc⟩ := Option.isSome_iff_exists.mp ((cell?_isSome_iff g id).mpr hbounds)
    obtain ⟨d, hd, hda, _⟩ := h.cells id c hc
    rw [hc'] at hd
    cases hd
    exact Option.isSome_iff_exists.mpr ⟨id, find?_eq_some_iff.mpr ⟨c, hc, hda.symm.trans ha⟩⟩
  · intro hfound
    obtain ⟨id, hid⟩ := Option.isSome_iff_exists.mp hfound
    exact Option.isSome_iff_exists.mpr ⟨id, h.find? hid⟩

theorem Extends.grows {g' : Graph} (h : g.Extends g') : g.Grows g' where
  cells := fun id c hc => ⟨c, h.old id c hc, rfl, rfl, List.prefix_rfl, fun _ ho => ho⟩
  edges := h.edges ▸ List.prefix_rfl
  marks := fun o ho => by rwa [h.multiDrop]

theorem find?_isSome_ensure {a b : Activation} {p q : Place} {name : String} :
    ((g.ensure b q name).1.find? a p).isSome ↔ (g.find? a p).isSome ∨
      ∃ name', Operation.create b q name = .create a p name' := by
  have hext := extends_ensure g b q name
  constructor
  · intro hfound
    obtain ⟨id, hid⟩ := Option.isSome_iff_exists.mp hfound
    obtain ⟨c, hc, ha⟩ := find?_eq_some_iff.mp hid
    cases hold : g.cell? id with
    | none =>
      have hnew := (eq_ensure_of_new hc hold).2.symm.trans ha
      cases hnew
      exact .inr ⟨name, rfl⟩
    | some d =>
      rw [hext.old id d hold] at hc
      cases hc
      exact .inl (Option.isSome_iff_exists.mpr ⟨id, find?_eq_some_iff.mpr ⟨c, hold, ha⟩⟩)
  · rintro (hfound | ⟨_, heq⟩)
    · obtain ⟨id, hid⟩ := Option.isSome_iff_exists.mp hfound
      exact Option.isSome_iff_exists.mpr ⟨id, hext.find? hid⟩
    · cases heq
      exact Option.isSome_iff_exists.mpr ⟨_, find?_ensure ..⟩

theorem size_modifyCell (g : Graph) (id : Int) (f : Cell → Cell)
    (hf : ∀ c, (f c).address = c.address) : (g.modifyCell id f hf).size = g.size := by
  unfold modifyCell
  split
  · exact Array.size_modify ..
  · rfl

theorem size_addDrop (g : Graph) (id : Int) (site : Site) : (g.addDrop id site).size = g.size :=
  size_modifyCell g id _ _

theorem size_addObjects (g : Graph) (id : Int) (set : IdSet) :
    (g.addObjects id set).size = g.size :=
  size_modifyCell g id _ _

theorem connect_of_hasEdge {source target : Int} (h : g.hasEdge source target = true) (site : Site)
    (passing : Passing) : g.connect source target site passing = (g, []) := by
  unfold connect
  rw [if_pos h]

theorem size_connect (g : Graph) (source target : Int) (site : Site) (passing : Passing) :
    (g.connect source target site passing).1.size = g.size := by
  unfold connect
  split <;> rfl

theorem grows_addDrop (g : Graph) (id : Int) (site : Site) : g.Grows (g.addDrop id site) where
  cells := fun j c hc => by
    rw [cell?_addDrop, hc]
    by_cases hj : j = id
    · rw [if_pos hj]
      exact ⟨_, rfl, rfl, rfl, List.prefix_append _ _, fun _ ho => ho⟩
    · rw [if_neg hj]
      exact ⟨c, rfl, rfl, rfl, List.prefix_rfl, fun _ ho => ho⟩
  edges := edges_addDrop g id site ▸ List.prefix_rfl
  marks := fun o ho => by rwa [multiDrop_addDrop]

theorem grows_addObjects (g : Graph) (id : Int) (set : IdSet) :
    g.Grows (g.addObjects id set) where
  cells := fun j c hc => by
    rw [cell?_addObjects, hc]
    by_cases hj : j = id
    · rw [if_pos hj]
      exact ⟨_, rfl, rfl, rfl, List.prefix_rfl, fun o ho => IdSet.mem_union.mpr (.inl ho)⟩
    · rw [if_neg hj]
      exact ⟨c, rfl, rfl, rfl, List.prefix_rfl, fun _ ho => ho⟩
  edges := edges_addObjects g id set ▸ List.prefix_rfl
  marks := fun o ho => by rwa [multiDrop_addObjects]

theorem grows_connect (g : Graph) (source target : Int) (site : Site) (passing : Passing) :
    g.Grows (g.connect source target site passing).1 where
  cells := fun id c hc => by
    rw [cell?_connect]
    exact ⟨c, hc, rfl, rfl, List.prefix_rfl, fun _ ho => ho⟩
  edges := by
    rw [edges_connect]
    split
    · exact List.prefix_rfl
    · rw [Array.toList_push]
      exact List.prefix_append _ _
  marks := fun o ho => by rwa [multiDrop_connect]

theorem grows_markMultiDrop (g : Graph) (id : Int) : g.Grows (g.markMultiDrop id) where
  cells := (Grows.refl g).cells
  edges := List.prefix_rfl
  marks := fun _ ho => IdSet.mem_insert.mpr (.inr ho)

/-- Growth that leaves the edges alone keeps a graph proper. -/
theorem Proper.grows {g' : Graph} (h : g.Proper) (hgrows : g.Grows g')
    (hedges : g'.edges = g.edges) : g'.Proper where
  anchored := fun e he => by
    rw [hedges] at he
    obtain ⟨⟨s, hs⟩, t, ht⟩ := h.anchored e he
    obtain ⟨s', hs', _⟩ := hgrows.cells _ s hs
    obtain ⟨t', ht', _⟩ := hgrows.cells _ t ht
    exact ⟨⟨s', hs'⟩, t', ht'⟩
  single := by rw [hedges]; exact h.single

theorem Proper.connect (h : g.Proper) {source target : Int} {s t : Cell}
    (hs : g.cell? source = some s) (ht : g.cell? target = some t) (site : Site)
    (passing : Passing) : (g.connect source target site passing).1.Proper := by
  have hedges := edges_connect g source target site passing
  by_cases hhas : g.hasEdge source target = true
  · rw [if_pos hhas] at hedges
    exact h.grows (grows_connect ..) hedges
  · rw [if_neg hhas] at hedges
    constructor
    · intro e he
      rw [hedges, Array.toList_push, List.mem_append, List.mem_singleton] at he
      rw [cell?_connect, cell?_connect]
      rcases he with he | rfl
      · exact h.anchored e he
      · rw [source_edgeFor, target_edgeFor]
        exact ⟨⟨s, hs⟩, t, ht⟩
    · rw [hedges, Array.toList_push, List.map_append, List.nodup_append]
      refine ⟨h.single, List.nodup_singleton _, ?_⟩
      -- an edge with the ends of the new one would have kept it out
      rintro ends hold _ hnew rfl
      obtain ⟨e, he, rfl⟩ := List.mem_map.mp hold
      rw [List.map_singleton, List.mem_singleton, Edge.ends, Edge.ends, source_edgeFor,
        target_edgeFor, Prod.mk.injEq] at hnew
      exact hhas (hasEdge_iff.mpr ⟨e, he, hnew⟩)

end Graph

/-! ### 4. What operations keep -/

namespace Stage

variable {w w' : Stage}

theorem perform?_connect {source target : Int} {s t : Cell}
    (hs : w.graph.cell? source = some s) (ht : w.graph.cell? target = some t) (site : Site)
    (passing : Graph.Passing) (scheduling : Bool) :
    w.perform? (.connect source target site passing scheduling) =
      some ⟨(w.graph.connect source target site passing).1, w.pending ++
        if scheduling then (w.graph.connect source target site passing).2 else []⟩ := by
  cases passing <;> simp [perform?, Graph.connect?, hs, ht]

/-- What an operation does, if it does anything. -/
theorem perform?_cases {op : Operation} (h : w.perform? op = some w') :
    (∃ a p name, op = .create a p name ∧ w'.graph = (w.graph.ensure a p name).1) ∨
    (∃ id site, op = .drop id site ∧ w'.graph = w.graph.addDrop id site) ∨
    (∃ source target site passing scheduling s t,
      op = .connect source target site passing scheduling ∧ w.graph.cell? source = some s ∧
      w.graph.cell? target = some t ∧
      w'.graph = (w.graph.connect source target site passing).1) ∨
    (∃ id set, op = .hold id set ∧ w'.graph = w.graph.addObjects id (w.graph.missing id set)) ∨
    (∃ id, op = .mark id ∧ w'.graph = w.graph.markMultiDrop id) := by
  cases op with
  | create a p name =>
    cases h
    exact .inl ⟨a, p, name, rfl, rfl⟩
  | drop id site =>
    obtain ⟨_, _, h⟩ := Option.bind_eq_some_iff.mp h
    cases h
    exact .inr (.inl ⟨id, site, rfl, rfl⟩)
  | connect source target site passing scheduling =>
    obtain ⟨t, ht, hrest⟩ := Option.bind_eq_some_iff.mp h
    obtain ⟨_, hconnect, _⟩ := Option.bind_eq_some_iff.mp hrest
    obtain ⟨s, hs, _⟩ := Option.bind_eq_some_iff.mp hconnect
    rw [perform?_connect hs ht] at h
    cases h
    exact .inr (.inr (.inl ⟨source, target, site, passing, scheduling, s, t, rfl, hs, ht, rfl⟩))
  | hold id set =>
    obtain ⟨_, _, h⟩ := Option.bind_eq_some_iff.mp h
    cases h
    exact .inr (.inr (.inr (.inl ⟨id, set, rfl, rfl⟩)))
  | mark id =>
    cases h
    exact .inr (.inr (.inr (.inr ⟨id, rfl, rfl⟩)))

theorem grows_of_perform? {op : Operation} (h : w.perform? op = some w') :
    w.graph.Grows w'.graph := by
  rcases perform?_cases h with ⟨a, p, name, _, hg⟩ | ⟨id, site, _, hg⟩ |
    ⟨source, target, site, passing, _, _, _, _, _, _, hg⟩ | ⟨id, set, _, hg⟩ | ⟨id, _, hg⟩
  · rw [hg]
    exact (Graph.extends_ensure ..).grows
  · rw [hg]
    exact Graph.grows_addDrop ..
  · rw [hg]
    exact Graph.grows_connect ..
  · rw [hg]
    exact Graph.grows_addObjects ..
  · rw [hg]
    exact Graph.grows_markMultiDrop ..

theorem proper_of_perform? {op : Operation} (hw : w.graph.Proper) (h : w.perform? op = some w') :
    w'.graph.Proper := by
  have hgrows := grows_of_perform? h
  rcases perform?_cases h with ⟨a, p, name, _, hg⟩ | ⟨id, site, _, hg⟩ |
    ⟨source, target, site, passing, _, s, t, _, hs, ht, hg⟩ | ⟨id, set, _, hg⟩ | ⟨id, _, hg⟩
  · exact hw.grows hgrows (by rw [hg, Graph.edges_ensure])
  · exact hw.grows hgrows (by rw [hg, Graph.edges_addDrop])
  · rw [hg]
    exact hw.connect hs ht site passing
  · exact hw.grows hgrows (by rw [hg, Graph.edges_addObjects])
  · exact hw.grows hgrows (by rw [hg]; rfl)

/-- An operation gives a cell to a place if it is made for that. -/
theorem find?_isSome_of_perform? {op : Operation} (h : w.perform? op = some w') (a : Activation)
    (p : Place) : (w'.graph.find? a p).isSome ↔
      (w.graph.find? a p).isSome ∨ ∃ name, op = .create a p name := by
  have hgrows := grows_of_perform? h
  have hsame : w'.graph.size = w.graph.size → (∀ name, op ≠ .create a p name) →
      ((w'.graph.find? a p).isSome ↔
        (w.graph.find? a p).isSome ∨ ∃ name, op = .create a p name) := by
    intro hsize hop
    rw [hgrows.find?_isSome_iff hsize, or_iff_left (fun ⟨name, hname⟩ => hop name hname)]
  rcases perform?_cases h with ⟨b, q, name, rfl, hg⟩ | ⟨id, site, rfl, hg⟩ |
    ⟨source, target, site, passing, _, _, _, rfl, _, _, hg⟩ | ⟨id, set, rfl, hg⟩ | ⟨id, rfl, hg⟩
  · rw [hg]
    exact Graph.find?_isSome_ensure
  · exact hsame (by rw [hg, Graph.size_addDrop]) (fun _ => nofun)
  · exact hsame (by rw [hg, Graph.size_connect]) (fun _ => nofun)
  · exact hsame (by rw [hg, Graph.size_addObjects]) (fun _ => nofun)
  · exact hsame (by rw [hg]; rfl) (fun _ => nofun)

theorem grows_of_performAll? {ops : List Operation} :
    ∀ {w w' : Stage}, w.performAll? ops = some w' → w.graph.Grows w'.graph := by
  induction ops with
  | nil =>
    intro w w' h
    cases h
    exact Graph.Grows.refl _
  | cons op rest ih =>
    intro w w' h
    obtain ⟨v, hv, hrest⟩ := Option.bind_eq_some_iff.mp h
    exact (grows_of_perform? hv).trans (ih hrest)

/-- The places with a cell are those that operations were made for. -/
theorem find?_isSome_of_performAll? (a : Activation) (p : Place) {ops : List Operation} :
    ∀ {w w' : Stage}, w.performAll? ops = some w' → ((w'.graph.find? a p).isSome ↔
      (w.graph.find? a p).isSome ∨ ∃ name, .create a p name ∈ ops) := by
  induction ops with
  | nil =>
    intro w w' h
    cases h
    simp
  | cons op rest ih =>
    intro w w' h
    obtain ⟨v, hv, hrest⟩ := Option.bind_eq_some_iff.mp h
    rw [ih hrest, find?_isSome_of_perform? hv]
    simp only [List.mem_cons, exists_or, or_assoc, eq_comm]

/-- Two places have one number if they are one place, however long after each other they are
    asked for. -/
theorem ensure_eq_ensure_iff {later : List Operation} {a b : Activation} {p q : Place}
    {name name' : String} (h : w.performAll? (.create a p name :: later) = some w') :
    (w.graph.ensure a p name).2 = (w'.graph.ensure b q name').2 ↔ a = b ∧ p = q := by
  have hrest : Stage.performAll? ⟨(w.graph.ensure a p name).1, w.pending⟩ later = some w' := h
  -- both places are found in the graph at the end, each with its number
  have hfirst := (Graph.extends_ensure w'.graph b q name').find?
    ((grows_of_performAll? hrest).find? (Graph.find?_ensure w.graph a p name))
  have hsecond := Graph.find?_ensure w'.graph b q name'
  constructor
  · intro heq
    rw [← heq] at hsecond
    obtain ⟨c, hc, hca⟩ := Graph.find?_eq_some_iff.mp hfirst
    obtain ⟨d, hd, hda⟩ := Graph.find?_eq_some_iff.mp hsecond
    rw [hc] at hd
    cases hd
    exact Prod.mk.inj (hca.symm.trans hda)
  · rintro ⟨rfl, rfl⟩
    rw [hfirst] at hsecond
    exact Option.some.inj hsecond

theorem proper_empty : Graph.Proper {} where
  anchored := fun _ he => nomatch he
  single := List.nodup_nil

end Stage

end DropFlow.Flow
