/-
  DropFlow/Proofs/Flow/Tables.lean
  ================================
  The tables of a flow graph and the graph that they stand for.

  The tables stand for a graph (`Represents`) when the rows are its cells, each with the
  targets of its edges, and each other table lists what the graph has.  Every operation on
  the tables does to the graph what the operation of that name does.  Tables that stand for
  a graph agree with each other (`Consistent`): what is written into five places by every
  operation can be read from any of them.
-/
import DropFlow.Flow.Tables
import DropFlow.Proofs.Flow.Operations
import Mathlib.Data.List.Sort

namespace DropFlow.Flow

/-! ### 1. Reading what has been written -/

namespace Tables

variable {t : Tables}

theorem bounds_of_row? {id : Int} {r : Row} (h : t.row? id = some r) : 0 ≤ id ∧ id < t.size := by
  unfold row? at h
  split at h
  · obtain ⟨hlt, _⟩ := Array.getElem?_eq_some_iff.mp h
    simp only [size]
    omega
  · cases h

theorem row?_modifyRow {id : Int} {r : Row} (h : t.row? id = some r) (f : Row → Row) (j : Int) :
    (t.modifyRow id f).row? j = if j = id then (t.row? j).map f else t.row? j := by
  have hid := (bounds_of_row? h).1
  unfold modifyRow row?
  by_cases hj : 0 ≤ j
  · simp only [if_pos hj, Array.getElem?_modify]
    by_cases hji : j = id
    · rw [if_pos (congrArg Int.toNat hji.symm), if_pos hji]
    · rw [if_neg (by omega), if_neg hji]
  · simp [if_neg hj]

@[simp] theorem size_modifyRow (t : Tables) (id : Int) (f : Row → Row) :
    (t.modifyRow id f).size = t.size := Array.size_modify ..

theorem create_of_lookup_eq_some {a : Activation} {p : Place} {id : Int} (name : String)
    (h : t.lookup a p = some id) : t.create a p name = (t, id, false) := by
  simp only [create, h]

section Creation

variable {a : Activation} {p : Place} (name : String) (h : t.lookup a p = none)

include h

theorem create_snd_of_lookup_eq_none : (t.create a p name).2 = ((t.size : Int), true) := by
  simp only [create, h]

theorem size_create : (t.create a p name).1.size = t.size + 1 := by
  simp [create, h, size]

theorem row?_create (j : Int) : (t.create a p name).1.row? j =
    if j = t.size then some ⟨t.size, { activation := a, place := p, name }, []⟩ else t.row? j := by
  simp only [create, h]
  unfold row?
  by_cases hj : 0 ≤ j
  · simp only [if_pos hj, Array.getElem?_push, size]
    by_cases hs : j = t.rows.size
    · rw [if_pos hs, if_pos (by omega)]
    · rw [if_neg hs, if_neg (by omega)]
  · rw [if_neg hj, if_neg hj, if_neg (by omega)]

theorem index_create (key : Activation × String) : (t.create a p name).1.index[key]? =
    if (a, p.key) = key then some (t.size : Int) else t.index[key]? := by
  simp only [create, h, Std.HashMap.getElem?_insert, beq_iff_eq]

theorem slotIds_create (b : Activation) (slot : Int) : (t.create a p name).1.slotIds b slot =
    if (a, p.slot) = (b, slot) then t.slotIds b slot ++ [(t.size : Int)] else t.slotIds b slot := by
  simp only [create, h, slotIds, Std.HashMap.getElem?_insert, beq_iff_eq]
  split
  · rename_i heq
    cases heq
    rfl
  · rfl

end Creation

theorem edge?_create (a : Activation) (p : Place) (name : String) (u v : Int) :
    (t.create a p name).1.edge? u v = t.edge? u v := by
  unfold create
  split <;> rfl

theorem derefEdges_create (a : Activation) (p : Place) (name : String) :
    (t.create a p name).1.derefEdges = t.derefEdges := by
  unfold create
  split <;> rfl

theorem multiDrop_create (a : Activation) (p : Place) (name : String) :
    (t.create a p name).1.multiDrop = t.multiDrop := by
  unfold create
  split <;> rfl

end Tables

/-! ### 2. Tables that stand for a graph -/

/-- The tables list what a graph has. -/
structure Tables.Represents (t : Tables) (g : Graph) : Prop where
  size : t.size = g.size
  rows : ∀ id, t.row? id = (g.cell? id).map fun c => ⟨id, c, g.successors id⟩
  index : ∀ a text id, t.index[(a, text)]? = some id ↔
    ∃ c, g.cell? id = some c ∧ c.activation = a ∧ c.place.key = text
  slots : ∀ a slot, (t.slotIds a slot).Pairwise (· < ·) ∧ ∀ id, id ∈ t.slotIds a slot ↔
    ∃ c, g.cell? id = some c ∧ c.activation = a ∧ c.place.slot = slot
  edges : ∀ u v, t.edge? u v = g.edge? u v
  derefs : t.derefEdges = g.derefEdges
  marks : t.multiDrop = g.multiDrop

namespace Graph

variable {g g' : Graph}

theorem successors_congr (h : g'.edges = g.edges) (u : Int) : g'.successors u = g.successors u := by
  simp only [successors, edgesFrom, h]

theorem edge?_congr (h : g'.edges = g.edges) (u v : Int) : g'.edge? u v = g.edge? u v := by
  simp only [edge?, h]

theorem derefEdges_congr (h : g'.edges = g.edges) : g'.derefEdges = g.derefEdges := by
  simp only [derefEdges, h]

theorem isSome_edge? (g : Graph) (u v : Int) : (g.edge? u v).isSome = g.hasEdge u v :=
  Array.isSome_find?

theorem Anchored.successors_eq_nil (h : g.Anchored) {u : Int} (hu : g.cell? u = none) :
    g.successors u = [] := by
  rw [List.eq_nil_iff_forall_not_mem]
  intro v hv
  obtain ⟨e, he, rfl, _⟩ := mem_successors.mp hv
  obtain ⟨⟨c, hc⟩, _⟩ := h e he
  rw [hu] at hc
  cases hc

theorem size_ensure_of_find?_eq_none {a : Activation} {p : Place} (name : String)
    (h : g.find? a p = none) : (g.ensure a p name).1.size = g.size + 1 := by
  unfold ensure
  split
  · rename_i hfound
    rw [h] at hfound
    cases hfound
  · simp [addCell, size]

/-- The cells after a place has got its cell. -/
theorem exists_cell?_ensure_iff {a : Activation} {p : Place} (name : String)
    (h : g.find? a p = none) (id : Int) (P : Cell → Prop) :
    (∃ c, (g.ensure a p name).1.cell? id = some c ∧ P c) ↔ (∃ c, g.cell? id = some c ∧ P c) ∨
      id = g.size ∧ P { activation := a, place := p, name } := by
  rw [cell?_ensure_of_find?_eq_none name h]
  by_cases hid : id = g.size
  · simp [hid, g.cell?_size]
  · simp [hid]

section Push

variable {e : Edge} (h : g'.edges = g.edges.push e)

include h

theorem successors_push (u : Int) :
    g'.successors u = g.successors u ++ if e.source = u then [e.target] else [] := by
  simp only [successors, edgesFrom, h, Array.toList_push, List.filter_append, List.map_append]
  by_cases hu : e.source = u <;> simp [hu]

theorem edge?_push (u v : Int) : g'.edge? u v =
    (g.edge? u v).or (if e.source = u ∧ e.target = v then some e else none) := by
  simp only [edge?, h, Array.find?_push, Bool.and_eq_true, decide_eq_true_eq]

theorem derefEdges_push :
    g'.derefEdges = g.derefEdges ++ if e.isDeref then [e] else [] := by
  simp only [derefEdges, h, Array.toList_push, List.filter_append]
  cases hderef : e.isDeref <;> simp [hderef]

end Push

end Graph

namespace Tables.Represents

variable {t : Tables} {g : Graph}

theorem empty : Represents {} {} where
  size := rfl
  rows := fun id => by simp [row?, Graph.cell?]
  index := fun a text id => by simp [Graph.cell?]
  slots := fun a slot => by simp [slotIds, Graph.cell?]
  edges := fun u v => by simp [edge?, Graph.edge?]
  derefs := rfl
  marks := rfl

theorem row?_eq_some_iff (h : t.Represents g) {id : Int} {r : Row} : t.row? id = some r ↔
    ∃ c, g.cell? id = some c ∧ r = ⟨id, c, g.successors id⟩ := by
  rw [h.rows, Option.map_eq_some_iff]
  simp only [eq_comm]

theorem row? (h : t.Represents g) {id : Int} {c : Cell} (hc : g.cell? id = some c) :
    t.row? id = some ⟨id, c, g.successors id⟩ := by
  rw [h.rows, hc, Option.map_some]

theorem row?_eq_none (h : t.Represents g) {id : Int} (hc : g.cell? id = none) :
    t.row? id = none := by
  rw [h.rows, hc, Option.map_none]

theorem isSome_row? (h : t.Represents g) (id : Int) : (t.row? id).isSome = (g.cell? id).isSome := by
  rw [h.rows, Option.isSome_map]

theorem lookup (h : t.Represents g) (a : Activation) (p : Place) : t.lookup a p = g.find? a p := by
  apply Option.ext
  intro id
  rw [Tables.lookup, h.index, Graph.find?_eq_some_iff_key]

/-! ### 3. Operations on tables and on graphs -/

theorem create (h : t.Represents g) (hg : g.Anchored) (a : Activation) (p : Place)
    (name : String) : (t.create a p name).1.Represents (g.ensure a p name).1 := by
  have hlookup := h.lookup a p
  cases hfind : g.find? a p with
  | some id =>
    rw [hfind] at hlookup
    rw [create_of_lookup_eq_some name hlookup, Graph.ensure_of_find?_eq_some name hfind]
    exact h
  | none =>
    rw [hfind] at hlookup
    have hedges := Graph.edges_ensure g a p name
    constructor
    case size =>
      rw [size_create name hlookup, Graph.size_ensure_of_find?_eq_none name hfind, h.size]
    case rows =>
      intro id
      rw [row?_create name hlookup, Graph.cell?_ensure_of_find?_eq_none name hfind,
        Graph.successors_congr hedges, h.size, h.rows]
      split
      · rename_i hid
        rw [Option.map_some, hid, hg.successors_eq_nil g.cell?_size]
      · rfl
    case index =>
      intro b text id
      rw [index_create name hlookup, Graph.exists_cell?_ensure_iff name hfind, ← h.index, h.size]
      by_cases hkey : (a, p.key) = (b, text)
      · cases hkey
        have hnone : t.index[(a, p.key)]? = none := hlookup
        simp [hnone, eq_comm]
      · have hno : ¬(a = b ∧ p.key = text) := fun heq => hkey (Prod.ext heq.1 heq.2)
        simp [hkey, hno]
    case slots =>
      intro b slot
      obtain ⟨hsorted, hmem⟩ := h.slots b slot
      simp only [slotIds_create name hlookup, Graph.exists_cell?_ensure_iff name hfind, ← hmem,
        h.size]
      by_cases hkey : (a, p.slot) = (b, slot)
      · cases hkey
        rw [if_pos rfl]
        refine ⟨List.pairwise_append.mpr ⟨hsorted, List.pairwise_singleton _ _, ?_⟩, by simp⟩
        intro i hi j hj
        obtain ⟨c, hc, _⟩ := (hmem i).mp hi
        rw [List.mem_singleton.mp hj]
        exact (Graph.bounds_of_cell? hc).2
      · have hno : ¬(a = b ∧ p.slot = slot) := fun heq => hkey (Prod.ext heq.1 heq.2)
        rw [if_neg hkey]
        exact ⟨hsorted, by simp [hno]⟩
    case edges =>
      intro u v
      rw [edge?_create, Graph.edge?_congr hedges, h.edges]
    case derefs => rw [derefEdges_create, Graph.derefEdges_congr hedges, h.derefs]
    case marks => rw [multiDrop_create, Graph.multiDrop_ensure, h.marks]

/-- Changing what a row says of its cell, but not the address. -/
theorem modify (h : t.Represents g) {id : Int} {c : Cell} (hc : g.cell? id = some c)
    (f : Cell → Cell) (hf : ∀ c, (f c).address = c.address) :
    (t.modifyRow id fun r => { r with cell := f r.cell }).Represents (g.modifyCell id f hf) := by
  have hedges := Graph.edges_modifyCell g id f hf
  have hexists : ∀ (P : Activation × Place → Prop) (j : Int),
      (∃ d, (g.modifyCell id f hf).cell? j = some d ∧ P d.address) ↔
        ∃ d, g.cell? j = some d ∧ P d.address := by
    intro P j
    rw [Graph.cell?_modifyCell]
    by_cases hj : j = id
    · simp [hj, hc, hf]
    · simp [hj]
  constructor
  case size => rw [Graph.size_modifyCell, size_modifyRow, h.size]
  case rows =>
    intro j
    rw [row?_modifyRow (h.row? hc), Graph.cell?_modifyCell, Graph.successors_congr hedges, h.rows]
    by_cases hj : j = id
    · simp [hj, hc]
    · simp [hj]
  case index =>
    intro a text j
    exact (h.index a text j).trans (hexists (fun x => x.1 = a ∧ x.2.key = text) j).symm
  case slots =>
    intro a slot
    obtain ⟨hsorted, hmem⟩ := h.slots a slot
    exact ⟨hsorted, fun j =>
      (hmem j).trans (hexists (fun x => x.1 = a ∧ x.2.slot = slot) j).symm⟩
  case edges => exact fun u v => (h.edges u v).trans (Graph.edge?_congr hedges u v).symm
  case derefs => exact h.derefs.trans (Graph.derefEdges_congr hedges).symm
  case marks => exact h.marks.trans (Graph.multiDrop_modifyCell ..).symm

theorem addDrop (h : t.Represents g) {id : Int} {c : Cell} (hc : g.cell? id = some c)
    (site : Site) : ∃ t', t.addDrop? id site = some (t', c.drops.isEmpty) ∧
      t'.Represents (g.addDrop id site) := by
  refine ⟨_, ?_, h.modify hc (fun c => { c with drops := c.drops ++ [site] }) fun _ => rfl⟩
  simp only [addDrop?, h.row? hc, Option.bind_eq_bind, Option.bind_some]
  cases c.drops <;> simp

theorem union (h : t.Represents g) {id : Int} {c : Cell} (hc : g.cell? id = some c)
    (set : IdSet) : ∃ t', t.union? id set = some (t', g.missing id set) ∧
      t'.Represents (g.addObjects id (g.missing id set)) := by
  refine ⟨_, ?_, h.modify hc (fun c => { c with objects := c.objects.union (g.missing id set) })
    fun _ => rfl⟩
  simp only [union?, h.row? hc, Option.bind_eq_bind, Option.bind_some, Graph.missing,
    Graph.pointsTo_of_cell? hc]
  rfl

theorem mark (h : t.Represents g) (id : Int) :
    (t.markMultiDrop id).Represents (g.markMultiDrop id) where
  size := h.size
  rows := h.rows
  index := h.index
  slots := h.slots
  edges := h.edges
  derefs := h.derefs
  marks := congrArg (·.insert id) h.marks

/-- Adding an edge between two cells that have none. -/
theorem addEdge (h : t.Represents g) {e : Edge} {c : Cell} (hc : g.cell? e.source = some c)
    (hnew : g.edge? e.source e.target = none) {g' : Graph} (hedges : g'.edges = g.edges.push e)
    (hcells : g'.cells = g.cells) (hmarks : g'.multiDrop = g.multiDrop) :
    ∃ t', t.addEdge? e =
        some (t', true, if c.objects.isEmpty then [] else [⟨e.target, c.objects⟩]) ∧
      t'.Represents g' := by
  have hcell : ∀ id, g'.cell? id = g.cell? id := by
    intro id
    simp only [Graph.cell?, hcells]
  have hread := h.edges e.source e.target
  rw [hnew] at hread
  refine ⟨_, by simp only [addEdge?, hread, h.row? hc]; rfl, ?_⟩
  constructor
  case size =>
    have hsize : g'.size = g.size := congrArg Array.size hcells
    exact (size_modifyRow ..).trans (h.size.trans hsize.symm)
  case rows =>
    intro j
    rw [Graph.successors_push hedges, hcell]
    refine (row?_modifyRow (h.row? hc) _ j).trans ?_
    rw [h.rows]
    by_cases hj : j = e.source
    · simp [hj, hc]
    · simp [hj, Ne.symm hj]
  case index =>
    intro a text id
    rw [hcell]
    exact h.index a text id
  case slots =>
    intro a slot
    simp only [hcell]
    exact h.slots a slot
  case edges =>
    intro u v
    rw [Graph.edge?_push hedges, ← h.edges, edge?, Std.HashMap.getElem?_insert, edge?]
    by_cases huv : e.source = u ∧ e.target = v
    · obtain ⟨rfl, rfl⟩ := huv
      have hnone : t.edges[(e.source, e.target)]? = none := hread
      simp [hnone]
    · simp [huv]
  case derefs =>
    rw [Graph.derefEdges_push hedges, ← h.derefs]
    split <;> simp
  case marks => exact h.marks.trans hmarks.symm

/-- Connecting two cells: the flag tells whether there was no edge, and then nothing changes. -/
theorem connect (h : t.Represents g) {source target : Int} {c d : Cell}
    (hc : g.cell? source = some c) (hd : g.cell? target = some d) (site : Site)
    (passing : Graph.Passing) :
    ∃ t', t.connect? source target site passing =
        some (t', !g.hasEdge source target, (g.connect source target site passing).2) ∧
      t'.Represents (g.connect source target site passing).1 ∧
      (g.hasEdge source target = true → t' = t) := by
  have hedge : t.connect? source target site passing =
      t.addEdge? (g.edgeFor source target site passing) := by
    cases passing with
    | value =>
      simp only [connect?, h.row? hc, h.row? hd, Option.bind_eq_bind, Option.bind_some,
        Graph.edgeFor, Graph.derefAt, hc, hd]
    | argument => rfl
  have hsource := Graph.source_edgeFor g source target site passing
  have htarget := Graph.target_edgeFor g source target site passing
  rw [hedge]
  by_cases hhas : g.hasEdge source target = true
  · have hread := h.edges source target
    obtain ⟨e, he⟩ := Option.isSome_iff_exists.mp ((g.isSome_edge? source target).trans hhas)
    rw [Graph.connect_of_hasEdge hhas, hhas]
    refine ⟨t, ?_, h, fun _ => rfl⟩
    simp only [addEdge?, hsource, htarget, hread, he]
    rfl
  · have hnew : g.edge? source target = none := by
      rw [← Option.not_isSome_iff_eq_none, g.isSome_edge?]
      exact hhas
    have hedges := Graph.edges_connect g source target site passing
    rw [if_neg hhas] at hedges
    have hcells : (g.connect source target site passing).1.cells = g.cells := by
      unfold Graph.connect
      split <;> rfl
    obtain ⟨t', hadd, hrep⟩ := h.addEdge (hsource ▸ hc) (by rw [hsource, htarget, hnew]) hedges
      hcells (Graph.multiDrop_connect ..)
    refine ⟨t', ?_, hrep, fun hyes => absurd hyes hhas⟩
    rw [hadd, htarget]
    simp [Graph.connect, hhas, Graph.pointsTo_of_cell? hc]

end Tables.Represents

/-! ### 4. What the tables list -/

namespace Tables.Represents

variable {t : Tables} {g : Graph}

theorem toList_rows (h : t.Represents g) :
    t.rows.toList = g.numbered.map fun x => ⟨x.1, x.2, g.successors x.1⟩ := by
  apply List.ext_getElem?
  intro i
  have hrow := h.rows i
  simp only [Tables.row?, Int.natCast_nonneg, if_true, Int.toNat_natCast,
    Graph.cell?_natCast] at hrow
  rw [Array.getElem?_toList, hrow, Graph.numbered]
  simp only [List.getElem?_map, List.getElem?_zipIdx, Array.getElem?_toList, Option.map_map,
    Nat.zero_add]
  rfl

theorem slotIds (h : t.Represents g) (a : Activation) (slot : Int) :
    t.slotIds a slot = (g.slotCells a slot).map (·.1) := by
  obtain ⟨hsorted, hmem⟩ := h.slots a slot
  refine hsorted.eq_of_mem_iff (g.pairwise_lt_slotCells a slot) fun id => ?_
  rw [hmem, List.mem_map]
  constructor
  · rintro ⟨c, hc⟩
    exact ⟨(id, c), Graph.mem_slotCells.mpr hc, rfl⟩
  · rintro ⟨⟨_, c⟩, hc, rfl⟩
    exact ⟨c, Graph.mem_slotCells.mp hc⟩

theorem hasEdge (h : t.Represents g) (u v : Int) : t.hasEdge u v = g.hasEdge u v := by
  rw [Tables.hasEdge, h.edges, g.isSome_edge?]

theorem objects (h : t.Represents g) : t.objects = g.objects := by
  rw [Tables.objects, h.toList_rows, List.filter_map, List.map_map]
  rfl

/-- The targets in the rows find the edges of the graph, each of them once. -/
theorem allEdges (h : t.Represents g) (hg : g.Proper) : t.allEdges = g.allEdges.map some := by
  have hall : g.allEdges = g.numbered.flatMap fun x => g.edgesFrom x.1 := by
    have hranges := List.flatMap_map (fun (i : Nat) => (i : Int)) g.edgesFrom (List.range g.size)
    rw [Graph.allEdges, ← hranges, ← g.map_fst_numbered, List.flatMap_map]
  rw [Tables.allEdges, h.toList_rows, List.flatMap_map, hall, List.map_flatMap]
  refine List.flatMap_congr fun x _ => ?_
  rw [Graph.successors, List.map_map]
  refine List.map_congr_left fun e he => ?_
  obtain ⟨hmem, hsource⟩ := List.mem_filter.mp he
  rw [Function.comp_apply, h.edges, hg.edge?_eq_some_iff, hg.anchored.mem_allEdges]
  exact ⟨hmem, by simpa using hsource, rfl⟩

end Tables.Represents

namespace Tables

/-- **The tables agree** with each other. -/
structure Consistent (t : Tables) : Prop where
  /-- The numbers of the rows are the numbers below the size. -/
  dense : ∀ id, (t.row? id).isSome = true ↔ 0 ≤ id ∧ id < t.size
  numbered : ∀ id r, t.row? id = some r → r.id = id
  /-- A place is found if it has a row, with the number of that row. -/
  indexed : ∀ a p id, t.lookup a p = some id ↔
    ∃ r, t.row? id = some r ∧ r.cell.activation = a ∧ r.cell.place = p
  /-- The rows of a slot, each of them once, in the order of creation. -/
  slotted : ∀ a slot id, id ∈ t.slotIds a slot ↔
    ∃ r, t.row? id = some r ∧ r.cell.activation = a ∧ r.cell.place.slot = slot
  ordered : ∀ a slot, (t.slotIds a slot).Pairwise (· < ·)
  /-- There is an edge to each target of a row, and to no other cell. -/
  linked : ∀ u v, t.hasEdge u v = true ↔ ∃ targets, t.successors? u = some targets ∧ v ∈ targets
  single : ∀ u targets, t.successors? u = some targets → targets.Nodup
  /-- Every target in a row finds its edge. -/
  found : none ∉ t.allEdges
  /-- Every edge is found, once. -/
  listed : t.allEdges.Nodup ∧ ∀ u v e, t.edge? u v = some e ↔
    some e ∈ t.allEdges ∧ e.source = u ∧ e.target = v
  /-- The edges that use memory, each of them once. -/
  derefs : t.derefEdges.Nodup ∧ ∀ e, e ∈ t.derefEdges ↔
    some e ∈ t.allEdges ∧ e.isDeref = true
  /-- The rows with drop sites, each of them once, in the order of creation. -/
  dropped : t.objects.Pairwise (· < ·) ∧ ∀ id, id ∈ t.objects ↔
    ∃ r, t.row? id = some r ∧ r.cell.drops ≠ []

/-- Nothing is taken away: rows keep their numbers, addresses and names, edges stay as they are,
    and drop sites, objects, targets, uses of memory and marks are only added. -/
structure Grows (t t' : Tables) : Prop where
  rows : ∀ id r, t.row? id = some r → ∃ r', t'.row? id = some r' ∧
    r'.cell.address = r.cell.address ∧ r'.cell.name = r.cell.name ∧
    r.cell.drops <+: r'.cell.drops ∧ (∀ o ∈ r.cell.objects, o ∈ r'.cell.objects) ∧
    r.targets <+: r'.targets
  lookup : ∀ a p id, t.lookup a p = some id → t'.lookup a p = some id
  edges : ∀ u v e, t.edge? u v = some e → t'.edge? u v = some e
  derefs : t.derefEdges <+: t'.derefEdges
  marks : ∀ o ∈ t.multiDrop, o ∈ t'.multiDrop

variable {t t' : Tables} {g g' : Graph}

theorem Represents.consistent (h : t.Represents g) (hg : g.Proper) : t.Consistent := by
  have hmem : ∀ e, some e ∈ t.allEdges ↔ e ∈ g.allEdges := by
    intro e
    rw [h.allEdges hg, List.mem_map]
    simp
  constructor
  case dense =>
    intro id
    rw [h.isSome_row?, h.size, g.cell?_isSome_iff]
  case numbered =>
    intro id r hr
    obtain ⟨c, _, rfl⟩ := h.row?_eq_some_iff.mp hr
    rfl
  case indexed =>
    intro a p id
    rw [h.lookup, Graph.find?_eq_some_iff]
    constructor
    · rintro ⟨c, hc, ha⟩
      exact ⟨_, h.row? hc, (Prod.mk.inj ha).1, (Prod.mk.inj ha).2⟩
    · rintro ⟨r, hr, rfl, rfl⟩
      obtain ⟨c, hc, rfl⟩ := h.row?_eq_some_iff.mp hr
      exact ⟨c, hc, rfl⟩
  case slotted =>
    intro a slot id
    rw [(h.slots a slot).2]
    constructor
    · rintro ⟨c, hc, hslot⟩
      exact ⟨_, h.row? hc, hslot⟩
    · rintro ⟨r, hr, hslot⟩
      obtain ⟨c, hc, rfl⟩ := h.row?_eq_some_iff.mp hr
      exact ⟨c, hc, hslot⟩
  case ordered => exact fun a slot => (h.slots a slot).1
  case linked =>
    intro u v
    rw [h.hasEdge, Graph.hasEdge_iff_mem_successors, successors?, h.rows]
    constructor
    · intro hv
      obtain ⟨e, he, rfl, _⟩ := Graph.mem_successors.mp hv
      obtain ⟨⟨c, hc⟩, _⟩ := hg.anchored e he
      exact ⟨_, by rw [hc]; rfl, hv⟩
    · rintro ⟨targets, htargets, hv⟩
      obtain ⟨_, hr, rfl⟩ := Option.map_eq_some_iff.mp htargets
      obtain ⟨c, _, rfl⟩ := Option.map_eq_some_iff.mp hr
      exact hv
  case single =>
    intro u targets htargets
    obtain ⟨r, hr, rfl⟩ := Option.map_eq_some_iff.mp htargets
    obtain ⟨c, _, rfl⟩ := h.row?_eq_some_iff.mp hr
    exact hg.nodup_successors u
  case found => simp [h.allEdges hg]
  case listed =>
    refine ⟨?_, fun u v e => ?_⟩
    · rw [h.allEdges hg]
      exact hg.nodup_allEdges.map (Option.some_injective _)
    · rw [h.edges, hmem, hg.edge?_eq_some_iff]
  case derefs =>
    rw [h.derefs]
    exact ⟨hg.nodup_edges.filter _, fun e => by rw [hmem, Graph.mem_derefEdges hg.anchored]⟩
  case dropped =>
    rw [h.objects]
    refine ⟨g.pairwise_lt_numbered.sublist (List.filter_sublist.map _), fun id => ?_⟩
    simp only [h.row?_eq_some_iff, Graph.mem_objects]
    constructor
    · rintro ⟨c, hc, hdrops⟩
      exact ⟨_, ⟨c, hc, rfl⟩, hdrops⟩
    · rintro ⟨_, ⟨c, hc, rfl⟩, hdrops⟩
      exact ⟨c, hc, hdrops⟩

theorem Represents.grows (h : t.Represents g) (h' : t'.Represents g') (hgrows : g.Grows g') :
    t.Grows t' where
  rows := by
    intro id r hr
    obtain ⟨c, hc, rfl⟩ := h.row?_eq_some_iff.mp hr
    obtain ⟨c', hc', ha, hn, hd, ho⟩ := hgrows.cells id c hc
    exact ⟨_, h'.row? hc', ha, hn, hd, ho, (hgrows.edges.filter _).map _⟩
  lookup := by
    intro a p id hid
    rw [h.lookup] at hid
    rw [h'.lookup]
    exact hgrows.find? hid
  edges := by
    intro u v e he
    rw [h.edges] at he
    rw [h'.edges]
    obtain ⟨rest, hrest⟩ := hgrows.edges
    rw [Graph.edge?, ← Array.find?_toList] at he ⊢
    rw [← hrest, List.find?_append, he, Option.some_or]
  derefs := by
    rw [h.derefs, h'.derefs]
    exact hgrows.edges.filter _
  marks := by
    rw [h.marks, h'.marks]
    exact hgrows.marks

/-- A new edge is found, and comes last among the successors of its source and, if it uses memory,
    among the edges that do. -/
theorem of_connect?_eq_some_true {source target : Int} {site : Site} {passing : Graph.Passing}
    {work : List WorkItem}
    (h : t.connect? source target site passing = some (t', true, work)) :
    ∃ e, t'.edge? source target = some e ∧ e.site = site ∧
      t'.successors? source = (t.successors? source).map (· ++ [target]) ∧
      t'.derefEdges = t.derefEdges ++ if e.isDeref then [e] else [] := by
  have hadd : ∀ e : Edge, t.addEdge? e = some (t', true, work) →
      t'.edge? e.source e.target = some e ∧
      t'.successors? e.source = (t.successors? e.source).map (· ++ [e.target]) ∧
      t'.derefEdges = t.derefEdges ++ if e.isDeref then [e] else [] := by
    intro e he
    unfold addEdge? at he
    split at he
    · simp at he
    · obtain ⟨r, hr, he⟩ := Option.bind_eq_some_iff.mp he
      simp only [Option.pure_def, Option.some.injEq, Prod.mk.injEq, true_and] at he
      obtain ⟨rfl, _⟩ := he
      refine ⟨Std.HashMap.getElem?_insert_self, ?_, ?_⟩
      · refine (congrArg (Option.map (·.targets)) (row?_modifyRow hr _ e.source)).trans ?_
        simp [successors?, hr]
      · dsimp only
        split <;> simp
  cases passing with
  | value =>
    obtain ⟨s, _, h⟩ := Option.bind_eq_some_iff.mp h
    obtain ⟨r, _, h⟩ := Option.bind_eq_some_iff.mp h
    obtain ⟨hedge, hsuccessors, hderefs⟩ := hadd _ h
    exact ⟨_, hedge, rfl, hsuccessors, hderefs⟩
  | argument =>
    obtain ⟨hedge, hsuccessors, hderefs⟩ := hadd _ h
    exact ⟨_, hedge, rfl, hsuccessors, hderefs⟩

end Tables

end DropFlow.Flow
