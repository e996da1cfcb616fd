/-
  DropFlow/Proofs/Flow/Renaming.lean
  ==================================
  Flow graphs under a translation of the identifiers of functions.

  The identifiers of functions enter a graph through the activations of its cells and the
  sites of its drops and edges.  Nothing looks at an identifier except to compare it with
  another one, so that every operation of the graph commutes with a translation, and with
  the operations every step of the propagation and the propagation as a whole
  (`solve_rename`).  The numbers of the cells are the same on both sides.
-/
import DropFlow.Flow.Solution
import DropFlow.Proofs.Flow.Cells
import DropFlow.Proofs.Program.Renaming

namespace DropFlow

/-! ### 1. Translating -/

variable {ρ : Equiv.Perm Int}

/-- A site under the translated identifier of its function. -/
def Site.rename (ρ : Equiv.Perm Int) (s : Site) : Site := ⟨ρ s.function, s.block, s.location⟩

@[simp] theorem Site.blockRef_rename (ρ : Equiv.Perm Int) (s : Site) :
    (s.rename ρ).blockRef = s.blockRef.rename ρ := rfl

@[simp] theorem Site.location_rename (ρ : Equiv.Perm Int) (s : Site) :
    (s.rename ρ).location = s.location := rfl

/-- A context under the translated identifier of the caller. -/
def Context.rename (ρ : Equiv.Perm Int) : Context → Context
  | .entry => .entry
  | .call caller block => .call (ρ caller) block

/-- An activation under translated identifiers. -/
def Activation.rename (ρ : Equiv.Perm Int) (a : Activation) : Activation :=
  ⟨ρ a.function, a.context.rename ρ⟩

@[simp] theorem Context.rename_inj {c d : Context} : c.rename ρ = d.rename ρ ↔ c = d := by
  cases c <;> cases d <;> simp [rename]

@[simp] theorem Activation.rename_inj {a b : Activation} : a.rename ρ = b.rename ρ ↔ a = b := by
  obtain ⟨f, c⟩ := a
  obtain ⟨g, d⟩ := b
  simp [rename]

namespace Flow

/-- A cell under translated identifiers. -/
def Cell.rename (ρ : Equiv.Perm Int) (c : Cell) : Cell :=
  { c with activation := c.activation.rename ρ, drops := c.drops.map (·.rename ρ) }

/-- An edge under translated identifiers. -/
def Edge.rename (ρ : Equiv.Perm Int) (e : Edge) : Edge := { e with site := e.site.rename ρ }

/-- The address of a cell under translated identifiers. -/
def renameAddress (ρ : Equiv.Perm Int) (x : Activation × Place) : Activation × Place :=
  (x.1.rename ρ, x.2)

theorem renameAddress_injective (ρ : Equiv.Perm Int) : Function.Injective (renameAddress ρ) := by
  rintro ⟨a, p⟩ ⟨b, q⟩ h
  simpa [renameAddress] using h

@[simp] theorem Cell.address_rename (ρ : Equiv.Perm Int) (c : Cell) :
    (c.rename ρ).address = renameAddress ρ c.address := rfl

@[simp] theorem Cell.isObject_rename (ρ : Equiv.Perm Int) (c : Cell) :
    (c.rename ρ).isObject = c.isObject := by
  simp [isObject, rename]

/-- A graph under translated identifiers. -/
def Graph.rename (ρ : Equiv.Perm Int) (g : Graph) : Graph where
  cells := g.cells.map (·.rename ρ)
  edges := g.edges.map (·.rename ρ)
  multiDrop := g.multiDrop
  distinct := by
    have haddresses : (g.cells.map (·.rename ρ)).toList.map Cell.address =
        (g.cells.toList.map Cell.address).map (renameAddress ρ) := by
      simp [Function.comp_def]
    rw [haddresses]
    exact g.distinct.map (renameAddress_injective ρ)

/-! ### 2. The operations of a graph -/

namespace Graph

theorem ext_of {g h : Graph} (hcells : g.cells = h.cells) (hedges : g.edges = h.edges)
    (hmarks : g.multiDrop = h.multiDrop) : g = h := by
  cases g
  cases h
  cases hcells
  cases hedges
  cases hmarks
  rfl

variable (ρ) (g : Graph)

theorem rename_empty : ({} : Graph).rename ρ = {} := by
  apply ext_of
  · simp [rename]
  · simp [rename]
  · rfl

@[simp] theorem size_rename : (g.rename ρ).size = g.size := by
  simp [size, rename]

@[simp] theorem edges_rename : (g.rename ρ).edges = g.edges.map (·.rename ρ) := rfl

@[simp] theorem multiDrop_rename : (g.rename ρ).multiDrop = g.multiDrop := rfl

theorem cell?_rename (id : Int) : (g.rename ρ).cell? id = (g.cell? id).map (·.rename ρ) := by
  unfold cell?
  split
  · simp [rename]
  · rfl

@[simp] theorem pointsTo_rename (id : Int) : (g.rename ρ).pointsTo id = g.pointsTo id := by
  unfold pointsTo
  rw [cell?_rename]
  cases g.cell? id <;> rfl

@[simp] theorem nameOf_rename (id : Int) : (g.rename ρ).nameOf id = g.nameOf id := by
  unfold nameOf
  rw [cell?_rename]
  cases g.cell? id <;> rfl

@[simp] theorem derefAt_rename (id : Int) : (g.rename ρ).derefAt id = g.derefAt id := by
  unfold derefAt
  rw [cell?_rename]
  cases g.cell? id <;> rfl

@[simp] theorem dropsOf_rename (id : Int) :
    (g.rename ρ).dropsOf id = (g.dropsOf id).map (·.rename ρ) := by
  unfold dropsOf
  rw [cell?_rename]
  cases g.cell? id <;> rfl

@[simp] theorem find?_rename (a : Activation) (p : Place) :
    (g.rename ρ).find? (a.rename ρ) p = g.find? a p := by
  have hsame : ∀ c : Cell, (c.rename ρ).address = (a.rename ρ, p) ↔ c.address = (a, p) :=
    fun c => (renameAddress_injective ρ).eq_iff (a := c.address) (b := (a, p))
  unfold find? rename
  rw [Array.findIdx?_map]
  simp only [Function.comp_def, hsame]

theorem ensure_rename (a : Activation) (p : Place) (name : String) :
    (g.rename ρ).ensure (a.rename ρ) p name =
      ((g.ensure a p name).1.rename ρ, (g.ensure a p name).2) := by
  have hfind := g.find?_rename ρ a p
  cases h : g.find? a p with
  | some id =>
    rw [h] at hfind
    rw [ensure_of_find?_eq_some name hfind, ensure_of_find?_eq_some name h]
  | none =>
    rw [h] at hfind
    apply Prod.ext
    · apply ext_of
      · rw [cells_ensure_of_find?_eq_none name hfind]
        simp only [rename, cells_ensure_of_find?_eq_none name h, Array.map_push]
        rfl
      · simp
      · simp
    · rw [ensure_snd_of_find?_eq_none name hfind, ensure_snd_of_find?_eq_none name h, size_rename]

theorem modifyCell_rename (id : Int) {f f' : Cell → Cell} (hf : ∀ c, (f c).address = c.address)
    (hf' : ∀ c, (f' c).address = c.address) (h : ∀ c, f' (c.rename ρ) = (f c).rename ρ) :
    (g.rename ρ).modifyCell id f' hf' = (g.modifyCell id f hf).rename ρ := by
  apply ext_of
  · unfold modifyCell
    split
    · apply Array.ext_getElem?
      intro i
      simp only [rename, Array.getElem?_modify, Array.getElem?_map, Option.map_map,
        Function.comp_def, h]
      split
      · simp [Function.comp_def]
      · rfl
    · rfl
  · simp [edges_modifyCell]
  · simp [multiDrop_modifyCell]

theorem addDrop_rename (id : Int) (site : Site) :
    (g.rename ρ).addDrop id (site.rename ρ) = (g.addDrop id site).rename ρ := by
  apply modifyCell_rename
  intro c
  simp [Cell.rename]

theorem addObjects_rename (id : Int) (s : IdSet) :
    (g.rename ρ).addObjects id s = (g.addObjects id s).rename ρ := by
  apply modifyCell_rename
  intro c
  rfl

@[simp] theorem hasEdge_rename (source target : Int) :
    (g.rename ρ).hasEdge source target = g.hasEdge source target := by
  simp [hasEdge, Edge.rename]

theorem connect_rename (source target : Int) (site : Site) (passing : Passing) :
    (g.rename ρ).connect source target (site.rename ρ) passing =
      ((g.connect source target site passing).1.rename ρ,
        (g.connect source target site passing).2) := by
  unfold connect
  rw [hasEdge_rename]
  split
  · rfl
  · apply Prod.ext
    · apply ext_of
      · rfl
      · cases passing <;> simp [Edge.rename]
      · rfl
    · simp

theorem successors_rename (source : Int) :
    (g.rename ρ).successors source = g.successors source := by
  simp [successors, edgesFrom, List.filter_map, Edge.rename, Function.comp_def]

theorem slotCells_rename (a : Activation) (slot : Int) :
    (g.rename ρ).slotCells (a.rename ρ) slot =
      (g.slotCells a slot).map fun x => (x.1, x.2.rename ρ) := by
  simp [slotCells, numbered, rename, List.zipIdx_map, List.filter_map, Function.comp_def,
    Cell.rename]

end Graph

/-! ### 3. The propagation -/

/-- Rules that give the same names under translated identifiers. -/
structure Rules.Renamed (ρ : Equiv.Perm Int) (r r' : Rules) : Prop where
  limit : r'.limit = r.limit
  name : ∀ f p, r'.name (ρ f) p = r.name f p

variable {r r' : Rules}

theorem deeperCells_rename (g : Graph) (c : Cell) :
    deeperCells (g.rename ρ) (c.rename ρ) = deeperCells g c := by
  unfold deeperCells
  have hcells := g.slotCells_rename ρ c.activation c.place.slot
  simp only [Cell.rename] at hcells ⊢
  rw [hcells]
  simp [List.filter_map, Function.comp_def]

theorem sameParts_rename (g : Graph) (c : Cell) :
    sameParts (g.rename ρ) (c.rename ρ) = (sameParts g c).map (renameAddress ρ) := by
  unfold sameParts
  have hcells := g.slotCells_rename ρ c.activation c.place.slot
  simp only [Cell.rename] at hcells ⊢
  rw [hcells]
  simp [List.filter_map, Function.comp_def, List.flatMap_map, List.map_flatMap,
    List.map_filterMap, Graph.successors_rename, Graph.cell?_rename, Cell.rename, renameAddress]

theorem inherited_rename (g : Graph) (a : Activation) (p : Place) (id : Int) :
    inherited (g.rename ρ) (a.rename ρ) p id = inherited g a p id := by
  simp [inherited, Graph.slotCells_rename, List.filter_map, Function.comp_def, Cell.rename]

theorem offer_rename (h : r.Renamed ρ r') (g : Graph) (delta : IdSet) (a : Activation) (p : Place) :
    offer r' (g.rename ρ) delta (a.rename ρ) p =
      ((offer r g delta a p).1.rename ρ, (offer r g delta a p).2) := by
  have hname : r'.name (a.rename ρ).function p = r.name a.function p := h.name a.function p
  unfold offer
  rw [Graph.find?_rename]
  split
  · rfl
  · dsimp only
    rw [hname, Graph.ensure_rename]
    dsimp only
    rw [inherited_rename]

theorem offerAll_rename (h : r.Renamed ρ r') (delta : IdSet) (places : List (Activation × Place)) :
    ∀ g : Graph,
      (offerAll r' delta (places.map (renameAddress ρ)) (g.rename ρ)).graph =
        (offerAll r delta places g).graph.rename ρ ∧
      (offerAll r' delta (places.map (renameAddress ρ)) (g.rename ρ)).work =
        (offerAll r delta places g).work := by
  induction places with
  | nil => exact fun _ => ⟨rfl, rfl⟩
  | cons head rest ih =>
    obtain ⟨a, p⟩ := head
    intro g
    simp only [List.map_cons, renameAddress, offerAll, h.limit]
    split
    · exact ih g
    · rw [offer_rename h]
      obtain ⟨hgraph, hwork⟩ := ih (offer r g delta a p).1
      refine ⟨hgraph, ?_⟩
      dsimp only
      rw [hwork]

theorem absorb_rename (g : Graph) (id : Int) (delta : IdSet) :
    absorb (g.rename ρ) id delta = (absorb g id delta).rename ρ := by
  unfold absorb
  rw [Graph.addObjects_rename]
  dsimp only
  rw [Graph.cell?_rename]
  cases (g.addObjects id delta).cell? id with
  | none => rfl
  | some c =>
    have hobjects : (c.rename ρ).objects = c.objects := rfl
    dsimp only [Option.map_some]
    rw [Cell.isObject_rename, hobjects]
    split
    · rfl
    · rfl

/-- A step of the propagation commutes with a translation. -/
theorem propagate_rename (h : r.Renamed ρ r') (g : Graph) (item : WorkItem) :
    (propagate r' (g.rename ρ) item).graph = (propagate r g item).graph.rename ρ ∧
      (propagate r' (g.rename ρ) item).work = (propagate r g item).work := by
  unfold propagate Graph.missing
  rw [Graph.pointsTo_rename]
  dsimp only
  split
  · exact ⟨rfl, rfl⟩
  · rw [absorb_rename, Graph.cell?_rename]
    cases (absorb g item.cell _).cell? item.cell with
    | none => exact ⟨rfl, rfl⟩
    | some c =>
      dsimp only [Option.map_some, handOn]
      rw [sameParts_rename, deeperCells_rename, Graph.successors_rename]
      obtain ⟨hgraph, hwork⟩ := offerAll_rename h _ _ _
      rw [hgraph, hwork]
      exact ⟨rfl, rfl⟩

theorem solveWithin_rename (h : r.Renamed ρ r') {b b' : Bounds} {g : Graph}
    {pending : List WorkItem} (hg : Within r b g pending) (steps : Nat) (notices : Array Notice) :
    ∀ {g' : Graph} {pending' : List WorkItem} (hg' : Within r' b' g' pending') (steps' : Nat)
      (notices' : Array Notice), g' = g.rename ρ → pending' = pending →
      (solveWithin r' b' g' pending' hg' steps' notices').graph =
        (solveWithin r b g pending hg steps notices).graph.rename ρ := by
  -- only one loop is followed by the induction; the other one takes the same items
  induction g, pending, hg, steps, notices using solveWithin.induct with
  | case1 g steps notices hg =>
    rintro _ _ hg' steps' notices' rfl rfl
    rw [solveWithin, solveWithin]
  | case2 g steps notices item rest hg next _ =>
    rename_i ih
    rintro _ _ hg' steps' notices' rfl rfl
    obtain ⟨hgraph, hwork⟩ := propagate_rename h g item
    rw [solveWithin, solveWithin]
    exact ih hg'.propagate _ _ hgraph (congrArg (rest ++ ·) hwork)

/-- **The propagation commutes with a translation.** -/
theorem solve_rename (h : r.Renamed ρ r') (g : Graph) (pending : List WorkItem) :
    (solve r' (g.rename ρ) pending).graph = (solve r g pending).graph.rename ρ :=
  solveWithin_rename h _ 0 #[] _ 0 #[] rfl rfl

end Flow

end DropFlow
