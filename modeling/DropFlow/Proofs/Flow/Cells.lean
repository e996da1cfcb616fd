/-
  DropFlow/Proofs/Flow/Cells.lean
  ===============================
  The cells of a flow graph, and what each operation does to them.

  Everything about a graph is read off three views: the cell with a number, the cell
  of an address, and the edges.  Each operation has one lemma for each view that it
  changes, so that no later proof opens an operation.  `Extends` is what the creation
  of cells amounts to: the old cells stay as they are, and the new ones are empty.
-/
import DropFlow.Flow.Bounds

namespace DropFlow.Flow

/-! ### 1. The views -/

namespace Graph

variable {g : Graph}

@[simp] theorem cell?_natCast (g : Graph) (i : Nat) : g.cell? (i : Int) = g.cells[i]? := by
  simp [cell?]

theorem exists_index_of_cell? {id : Int} {c : Cell} (h : g.cell? id = some c) :
    ∃ i : Nat, id = i ∧ g.cells[i]? = some c := by
  unfold cell? at h
  split at h
  · rename_i hid
    exact ⟨id.toNat, (Int.toNat_of_nonneg hid).symm, h⟩
  · simp at h

theorem bounds_of_cell? {id : Int} {c : Cell} (h : g.cell? id = some c) :
    0 ≤ id ∧ id < g.size := by
  obtain ⟨i, rfl, hi⟩ := exists_index_of_cell? h
  have hlt := (Array.getElem?_eq_some_iff.mp hi).1
  simp only [size]
  omega

theorem mem_numbered {id : Int} {c : Cell} : (id, c) ∈ g.numbered ↔ g.cell? id = some c := by
  unfold numbered
  rw [List.mem_map]
  constructor
  · rintro ⟨⟨d, i⟩, hm, he⟩
    simp only [Prod.mk.injEq] at he
    obtain ⟨rfl, rfl⟩ := he
    rw [cell?_natCast, ← Array.getElem?_toList]
    exact List.mk_mem_zipIdx_iff_getElem?.mp hm
  · intro h
    obtain ⟨i, rfl, hi⟩ := exists_index_of_cell? h
    refine ⟨(c, i), ?_, rfl⟩
    rw [List.mk_mem_zipIdx_iff_getElem?, Array.getElem?_toList]
    exact hi

theorem mem_slotCells {a : Activation} {slot id : Int} {c : Cell} :
    (id, c) ∈ g.slotCells a slot ↔
      g.cell? id = some c ∧ c.activation = a ∧ c.place.slot = slot := by
  unfold slotCells
  rw [List.mem_filter, mem_numbered]
  simp

theorem eq_of_address_eq {i j : Int} {c d : Cell} (hc : g.cell? i = some c)
    (hd : g.cell? j = some d) (h : c.address = d.address) : i = j := by
  obtain ⟨m, rfl, hm⟩ := exists_index_of_cell? hc
  obtain ⟨n, rfl, hn⟩ := exists_index_of_cell? hd
  rw [← Array.getElem?_toList] at hm hn
  have hlt : m < (g.cells.toList.map Cell.address).length := by
    rw [List.length_map]
    exact (List.getElem?_eq_some_iff.mp hm).1
  have hmn : m = n := by
    refine (List.getElem?_inj hlt g.distinct).mp ?_
    rw [List.getElem?_map, List.getElem?_map, hm, hn, Option.map_some, Option.map_some, h]
  rw [hmn]

theorem find?_eq_some_iff {a : Activation} {p : Place} {id : Int} :
    g.find? a p = some id ↔ ∃ c, g.cell? id = some c ∧ c.address = (a, p) := by
  have hsound : ∀ {i : Int}, g.find? a p = some i →
      ∃ c, g.cell? i = some c ∧ c.address = (a, p) := by
    intro i h
    unfold find? at h
    obtain ⟨n, hn, rfl⟩ := Option.map_eq_some_iff.mp h
    obtain ⟨hlt, hp, _⟩ := Array.findIdx?_eq_some_iff_getElem.mp hn
    exact ⟨g.cells[n], by simp [hlt], by simpa using hp⟩
  refine ⟨hsound, ?_⟩
  rintro ⟨c, hc, ha⟩
  cases h : g.find? a p with
  | none =>
    exact absurd (List.mem_map.mpr ⟨c, mem_cells_of_cell? hc, ha⟩)
      (address_notMem_of_find?_eq_none h)
  | some j =>
    obtain ⟨d, hd, hda⟩ := hsound h
    rw [eq_of_address_eq hd hc (hda.trans ha.symm)]

theorem pointsTo_of_cell? {id : Int} {c : Cell} (h : g.cell? id = some c) :
    g.pointsTo id = c.objects := by
  simp [pointsTo, h]

theorem dropsOf_of_cell? {id : Int} {c : Cell} (h : g.cell? id = some c) :
    g.dropsOf id = c.drops := by
  simp [dropsOf, h]

theorem exists_cell_of_mem_pointsTo {id o : Int} (h : o ∈ g.pointsTo id) :
    ∃ c, g.cell? id = some c ∧ o ∈ c.objects := by
  unfold pointsTo at h
  split at h
  · rename_i c hc
    exact ⟨c, hc, h⟩
  · exact absurd h (IdSet.not_mem_empty o)

theorem exists_cell_of_mem_dropsOf {id : Int} {d : Site} (h : d ∈ g.dropsOf id) :
    ∃ c, g.cell? id = some c ∧ d ∈ c.drops := by
  unfold dropsOf at h
  split at h
  · rename_i c hc
    exact ⟨c, hc, h⟩
  · simp at h

theorem mem_successors {source target : Int} :
    target ∈ g.successors source ↔ ∃ e ∈ g.edges.toList, e.source = source ∧ e.target = target := by
  simp only [successors, edgesFrom, List.mem_map, List.mem_filter, decide_eq_true_eq]
  constructor
  · rintro ⟨e, ⟨he, hs⟩, ht⟩
    exact ⟨e, he, hs, ht⟩
  · rintro ⟨e, he, hs, ht⟩
    exact ⟨e, ⟨he, hs⟩, ht⟩

end Graph

theorem Cell.isObject_iff {c : Cell} : c.isObject = true ↔ ∃ d, d ∈ c.drops := by
  unfold Cell.isObject
  cases c.drops with
  | nil => simp
  | cons d rest => simp

/-- Two cells that differ at most in what they hold. -/
structure Cell.Alike (c d : Cell) : Prop where
  activation : d.activation = c.activation
  place : d.place = c.place
  name : d.name = c.name
  drops : d.drops = c.drops

theorem Cell.Alike.address {c d : Cell} (h : c.Alike d) : d.address = c.address := by
  rw [Cell.address, Cell.address, h.activation, h.place]

/-! ### 2. Changing a cell -/

namespace Graph

theorem cell?_modifyCell (g : Graph) (id j : Int) (f : Cell → Cell)
    (hf : ∀ c, (f c).address = c.address) :
    (g.modifyCell id f hf).cell? j = if j = id then (g.cell? j).map f else g.cell? j := by
  unfold modifyCell
  by_cases hid : 0 ≤ id
  · rw [if_pos hid]
    unfold cell?
    by_cases hj : 0 ≤ j
    · simp only [if_pos hj, Array.getElem?_modify]
      by_cases hji : j = id
      · subst hji
        simp
      · have hne : id.toNat ≠ j.toNat := by omega
        simp [hji, hne]
    · simp [if_neg hj]
  · rw [if_neg hid]
    by_cases hji : j = id
    · subst hji
      simp [cell?, if_neg hid]
    · simp [hji]

theorem cell?_addObjects (g : Graph) (id j : Int) (s : IdSet) :
    (g.addObjects id s).cell? j =
      if j = id then (g.cell? j).map fun c => { c with objects := c.objects.union s }
      else g.cell? j :=
  cell?_modifyCell g id j _ _

theorem cell?_addDrop (g : Graph) (id j : Int) (site : Site) :
    (g.addDrop id site).cell? j =
      if j = id then (g.cell? j).map fun c => { c with drops := c.drops ++ [site] }
      else g.cell? j :=
  cell?_modifyCell g id j _ _

theorem edges_modifyCell (g : Graph) (id : Int) (f : Cell → Cell)
    (hf : ∀ c, (f c).address = c.address) : (g.modifyCell id f hf).edges = g.edges := by
  unfold modifyCell
  split <;> rfl

theorem multiDrop_modifyCell (g : Graph) (id : Int) (f : Cell → Cell)
    (hf : ∀ c, (f c).address = c.address) : (g.modifyCell id f hf).multiDrop = g.multiDrop := by
  unfold modifyCell
  split <;> rfl

@[simp] theorem edges_addObjects (g : Graph) (id : Int) (s : IdSet) :
    (g.addObjects id s).edges = g.edges := edges_modifyCell g id _ _

@[simp] theorem multiDrop_addObjects (g : Graph) (id : Int) (s : IdSet) :
    (g.addObjects id s).multiDrop = g.multiDrop := multiDrop_modifyCell g id _ _

@[simp] theorem edges_addDrop (g : Graph) (id : Int) (site : Site) :
    (g.addDrop id site).edges = g.edges := edges_modifyCell g id _ _

@[simp] theorem multiDrop_addDrop (g : Graph) (id : Int) (site : Site) :
    (g.addDrop id site).multiDrop = g.multiDrop := multiDrop_modifyCell g id _ _

end Graph

/-! ### 3. Creating cells -/

/-- What the creation of cells amounts to. -/
structure Graph.Extends (g g' : Graph) : Prop where
  old : ∀ id c, g.cell? id = some c → g'.cell? id = some c
  fresh : ∀ id c, g'.cell? id = some c → g.cell? id = some c ∨ c.objects = ∅ ∧ c.drops = []
  edges : g'.edges = g.edges
  multiDrop : g'.multiDrop = g.multiDrop

namespace Graph

variable {g : Graph}

theorem Extends.refl (g : Graph) : g.Extends g :=
  ⟨fun _ _ h => h, fun _ _ h => Or.inl h, rfl, rfl⟩

theorem Extends.trans {g₁ g₂ g₃ : Graph} (h₁ : g₁.Extends g₂) (h₂ : g₂.Extends g₃) :
    g₁.Extends g₃ where
  old := fun id c hc => h₂.old id c (h₁.old id c hc)
  fresh := fun id c hc => by
    rcases h₂.fresh id c hc with h | h
    · exact h₁.fresh id c h
    · exact Or.inr h
  edges := h₂.edges.trans h₁.edges
  multiDrop := h₂.multiDrop.trans h₁.multiDrop

theorem Extends.old_of_nonempty {g' : Graph} (h : g.Extends g') {id : Int} {c : Cell}
    (hc : g'.cell? id = some c) (hne : (∃ o, o ∈ c.objects) ∨ ∃ d, d ∈ c.drops) :
    g.cell? id = some c := by
  rcases h.fresh id c hc with h | ⟨ho, hd⟩
  · exact h
  · rw [ho, hd] at hne
    rcases hne with ⟨o, ho⟩ | ⟨d, hd⟩
    · exact absurd ho (IdSet.not_mem_empty o)
    · simp at hd

theorem cell?_addCell (g : Graph) (c : Cell)
    (h : c.address ∉ g.cells.toList.map Cell.address) (j : Int) :
    (g.addCell c h).cell? j = if j = g.size then some c else g.cell? j := by
  unfold addCell cell?
  by_cases hj : 0 ≤ j
  · simp only [if_pos hj, Array.getElem?_push]
    by_cases hs : j = g.size
    · subst hs
      simp [size]
    · have hne : j.toNat ≠ g.cells.size := by
        simp only [size] at hs
        omega
      simp [hs, hne]
  · have hne : j ≠ g.size := by omega
    simp [if_neg hj, hne]

theorem ensure_of_find?_eq_some {a : Activation} {p : Place} {id : Int} (name : String)
    (h : g.find? a p = some id) : g.ensure a p name = (g, id) := by
  unfold ensure
  split
  · rename_i j hj
    rw [h] at hj
    cases hj
    rfl
  · rename_i hnone
    rw [h] at hnone
    exact nomatch hnone

theorem ensure_snd_of_find?_eq_none {a : Activation} {p : Place} (name : String)
    (h : g.find? a p = none) : (g.ensure a p name).2 = g.size := by
  unfold ensure
  split
  · rename_i j hj
    rw [h] at hj
    exact nomatch hj
  · rfl

theorem cell?_ensure_of_find?_eq_none {a : Activation} {p : Place} (name : String)
    (h : g.find? a p = none) (j : Int) :
    (g.ensure a p name).1.cell? j =
      if j = g.size then some { activation := a, place := p, name } else g.cell? j := by
  unfold ensure
  split
  · rename_i k hk
    rw [h] at hk
    exact nomatch hk
  · exact cell?_addCell g _ (address_notMem_of_find?_eq_none h) j

@[simp] theorem edges_ensure (g : Graph) (a : Activation) (p : Place) (name : String) :
    (g.ensure a p name).1.edges = g.edges := by
  unfold ensure
  split <;> rfl

@[simp] theorem multiDrop_ensure (g : Graph) (a : Activation) (p : Place) (name : String) :
    (g.ensure a p name).1.multiDrop = g.multiDrop := by
  unfold ensure
  split <;> rfl

/-- Making sure that a place has a cell extends the graph. -/
theorem extends_ensure (g : Graph) (a : Activation) (p : Place) (name : String) :
    g.Extends (g.ensure a p name).1 := by
  refine ⟨?_, ?_, edges_ensure g a p name, multiDrop_ensure g a p name⟩
  · intro id c hc
    cases h : g.find? a p with
    | some j => rwa [ensure_of_find?_eq_some name h]
    | none =>
      have hlt := (bounds_of_cell? hc).2
      rw [cell?_ensure_of_find?_eq_none name h, if_neg (by omega)]
      exact hc
  · intro id c hc
    cases h : g.find? a p with
    | some j =>
      rw [ensure_of_find?_eq_some name h] at hc
      exact Or.inl hc
    | none =>
      rw [cell?_ensure_of_find?_eq_none name h] at hc
      split at hc
      · cases hc
        exact Or.inr ⟨rfl, rfl⟩
      · exact Or.inl hc

theorem find?_ensure (g : Graph) (a : Activation) (p : Place) (name : String) :
    (g.ensure a p name).1.find? a p = some (g.ensure a p name).2 := by
  cases h : g.find? a p with
  | some id =>
    rw [ensure_of_find?_eq_some name h]
    exact h
  | none =>
    refine find?_eq_some_iff.mpr ⟨{ activation := a, place := p, name }, ?_, rfl⟩
    rw [cell?_ensure_of_find?_eq_none name h, ensure_snd_of_find?_eq_none name h, if_pos rfl]

theorem eq_ensure_of_new {a : Activation} {p : Place} {name : String} {id : Int} {c : Cell}
    (hc : (g.ensure a p name).1.cell? id = some c) (hnew : g.cell? id = none) :
    id = (g.ensure a p name).2 ∧ c.address = (a, p) := by
  cases h : g.find? a p with
  | some j =>
    rw [ensure_of_find?_eq_some name h, hnew] at hc
    exact nomatch hc
  | none =>
    rw [cell?_ensure_of_find?_eq_none name h] at hc
    split at hc
    · rename_i hid
      cases hc
      exact ⟨hid.trans (ensure_snd_of_find?_eq_none name h).symm, rfl⟩
    · rw [hnew] at hc
      exact nomatch hc

theorem Extends.find? {g' : Graph} (h : g.Extends g') {a : Activation} {p : Place} {id : Int}
    (hf : g.find? a p = some id) : g'.find? a p = some id := by
  obtain ⟨c, hc, ha⟩ := find?_eq_some_iff.mp hf
  exact find?_eq_some_iff.mpr ⟨c, h.old id c hc, ha⟩

/-! ### 4. Connecting cells -/

/-- The edge between two cells that a flow brings. -/
def edgeFor (g : Graph) (source target : Int) (site : Site) : Passing → Edge
  | .value => ⟨source, target, site, g.derefAt source, g.derefAt target⟩
  | .argument => ⟨source, target, site, true, true⟩

@[simp] theorem source_edgeFor (g : Graph) (source target : Int) (site : Site) (passing : Passing) :
    (g.edgeFor source target site passing).source = source := by
  cases passing <;> rfl

@[simp] theorem target_edgeFor (g : Graph) (source target : Int) (site : Site) (passing : Passing) :
    (g.edgeFor source target site passing).target = target := by
  cases passing <;> rfl

theorem hasEdge_iff {source target : Int} : g.hasEdge source target = true ↔
    ∃ e ∈ g.edges.toList, e.source = source ∧ e.target = target := by
  unfold hasEdge
  rw [← Array.any_toList, List.any_eq_true]
  simp

theorem edges_connect (g : Graph) (source target : Int) (site : Site) (passing : Passing) :
    (g.connect source target site passing).1.edges =
      if g.hasEdge source target then g.edges
      else g.edges.push (g.edgeFor source target site passing) := by
  unfold connect
  split
  · rfl
  · cases passing <;> rfl

@[simp] theorem cell?_connect (g : Graph) (source target : Int) (site : Site) (passing : Passing)
    (j : Int) : (g.connect source target site passing).1.cell? j = g.cell? j := by
  unfold connect
  split <;> rfl

@[simp] theorem multiDrop_connect (g : Graph) (source target : Int) (site : Site)
    (passing : Passing) : (g.connect source target site passing).1.multiDrop = g.multiDrop := by
  unfold connect
  split <;> rfl

theorem connect_snd_of_isEmpty {source : Int} (h : (g.pointsTo source).isEmpty = true)
    (target : Int) (site : Site) (passing : Passing) :
    (g.connect source target site passing).2 = [] := by
  unfold connect
  split
  · rfl
  · dsimp only
    rw [if_pos h]

end Graph

end DropFlow.Flow
