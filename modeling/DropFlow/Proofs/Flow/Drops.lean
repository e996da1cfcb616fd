/-
  DropFlow/Proofs/Flow/Drops.lean
  ===============================
  The drop sites, the seeds and the cells that effects leave behind.

  The drop sites of an address are the sites of the effects that drop it, in their order
  (`dropsAt_carryAll`).  The propagation has one item of work for each cell with drop
  sites to begin with (`mem_pending_expandFrom`), and the cells that there are by then are
  those that the effects refer to (`Outline.forall_cell_carryAll`).
-/
import DropFlow.Proofs.Flow.Links

namespace DropFlow.Flow

/-! ### 1. The drop sites of an address -/

namespace Graph

/-- The drop sites of an address; none if it has no cell. -/
def dropsAt (g : Graph) (x : Activation × Place) : List Site :=
  match g.find? x.1 x.2 with
  | some id => g.dropsOf id
  | none => []

variable {g g' : Graph}

theorem dropsAt_of_cell? {id : Int} {c : Cell} (h : g.cell? id = some c) :
    g.dropsAt c.address = c.drops := by
  have hfind : g.find? c.activation c.place = some id := find?_eq_some_iff.mpr ⟨c, h, rfl⟩
  simp [dropsAt, Cell.address, hfind, dropsOf_of_cell? h]

theorem dropsAt_eq_nil {x : Activation × Place} (h : ∀ id c, g.cell? id = some c → c.address ≠ x) :
    g.dropsAt x = [] := by
  unfold dropsAt
  split
  · rename_i id hid
    obtain ⟨c, hc, hx⟩ := find?_eq_some_iff.mp hid
    exact absurd hx (h id c hc)
  · rfl

theorem cell_cases (g : Graph) (x : Activation × Place) :
    (∃ id c, g.cell? id = some c ∧ c.address = x) ∨
      ∀ id c, g.cell? id = some c → c.address ≠ x := by
  by_cases h : ∃ id c, g.cell? id = some c ∧ c.address = x
  · exact Or.inl h
  · refine Or.inr fun id c hc hx => ?_
    exact h ⟨id, c, hc, hx⟩

/-- A graph that evolves neither loses nor gains drop sites. -/
theorem Evolves.dropsAt (h : g.Evolves g') (x : Activation × Place) :
    g'.dropsAt x = g.dropsAt x := by
  rcases g.cell_cases x with ⟨id, c, hc, rfl⟩ | hnone
  · obtain ⟨c', hc', halike, _⟩ := h.old id c hc
    rw [dropsAt_of_cell? hc, ← halike.drops, ← dropsAt_of_cell? hc', halike.address]
  · rw [dropsAt_eq_nil hnone]
    rcases g'.cell_cases x with ⟨id, c', hc', rfl⟩ | hnone'
    · -- a cell of a new address has no drop sites
      rw [dropsAt_of_cell? hc']
      refine Classical.byContradiction fun hne => ?_
      have hobject : c'.isObject = true := by simpa [Cell.isObject] using hne
      obtain ⟨c, hc⟩ := h.dropped id c' hc' hobject
      obtain ⟨d, hd, halike, _⟩ := h.old id c hc
      rw [hc'] at hd
      cases hd
      exact hnone id c hc halike.address.symm
    · exact dropsAt_eq_nil hnone'

theorem dropsAt_congr {x : Activation × Place}
    (h : ∀ id c, c.address = x → (g'.cell? id = some c ↔ g.cell? id = some c)) :
    g'.dropsAt x = g.dropsAt x := by
  rcases g.cell_cases x with ⟨id, c, hc, rfl⟩ | hnone
  · rw [dropsAt_of_cell? hc, dropsAt_of_cell? ((h id c rfl).mpr hc)]
  · rw [dropsAt_eq_nil hnone]
    apply dropsAt_eq_nil
    intro id c hc hx
    exact hnone id c ((h id c hx).mp hc) hx

theorem dropsAt_connect (g : Graph) (source target : Int) (site : Site) (passing : Passing)
    (x : Activation × Place) :
    (g.connect source target site passing).1.dropsAt x = g.dropsAt x := by
  apply dropsAt_congr
  intro id c _
  rw [cell?_connect]

theorem dropsAt_addDrop {id : Int} {c : Cell} (hc : g.cell? id = some c) (site : Site)
    (x : Activation × Place) :
    (g.addDrop id site).dropsAt x = g.dropsAt x ++ if c.address = x then [site] else [] := by
  by_cases hx : c.address = x
  · subst hx
    have hcell : (g.addDrop id site).cell? id = some { c with drops := c.drops ++ [site] } := by
      rw [cell?_addDrop, if_pos rfl, hc, Option.map_some]
    rw [dropsAt_of_cell? hc, if_pos rfl]
    exact dropsAt_of_cell? hcell
  · rw [if_neg hx, List.append_nil]
    apply dropsAt_congr
    intro j d hd
    rw [cell?_addDrop]
    split
    · -- the cell that changes has another address
      rename_i hj
      rw [hj, hc, Option.map_some]
      constructor
      · intro heq
        cases heq
        exact absurd hd hx
      · intro heq
        cases heq
        exact absurd hd hx
    · exact Iff.rfl

end Graph

/-- The site where an effect drops an address, if it does. -/
def Effect.dropOf? (x : Activation × Place) : Effect → Option Site
  | .drop c site => if c.address = x then some site else none
  | _ => none

theorem Outline.dropsAt_carry (w : Outline) (e : Effect) (x : Activation × Place) :
    (w.carry e).graph.dropsAt x = w.graph.dropsAt x ++ (e.dropOf? x).toList := by
  have hsame : ∀ {g : Graph}, g.dropsAt x = w.graph.dropsAt x → e.dropOf? x = none →
      g.dropsAt x = w.graph.dropsAt x ++ (e.dropOf? x).toList := by
    intro g hg hnone
    rw [hg, hnone, Option.toList_none, List.append_nil]
  cases e with
  | touch c => exact hsame ((w.graph.extends_cellFor c).evolves.dropsAt x) rfl
  | link source target site passing news =>
    have hext := (w.graph.extends_cellFor source).trans
      ((w.graph.cellFor source).1.extends_cellFor target)
    exact hsame ((Graph.dropsAt_connect ..).trans (hext.evolves.dropsAt x)) rfl
  | drop c site =>
    obtain ⟨d, hd, haddress⟩ := w.graph.exists_cell_cellFor c
    have hdrops := Graph.dropsAt_addDrop hd site x
    rw [(w.graph.extends_cellFor c).evolves.dropsAt x, haddress] at hdrops
    refine hdrops.trans (congrArg _ ?_)
    unfold Effect.dropOf? CellRef.address
    dsimp only
    split <;> rfl
  | call site callee => exact hsame rfl rfl
  | note n => exact hsame rfl rfl
  | load f => exact hsame rfl rfl
  | abort e => exact hsame rfl rfl

/-- **The drop sites of an address** are those of the effects that drop it, in their order. -/
theorem Outline.dropsAt_carryAll (w : Outline) (effects : List Effect) (x : Activation × Place) :
    (w.carryAll effects).graph.dropsAt x =
      w.graph.dropsAt x ++ effects.filterMap (Effect.dropOf? x) := by
  induction effects generalizing w with
  | nil => exact (List.append_nil _).symm
  | cons e rest ih =>
    have hcons : w.carryAll (e :: rest) = (w.carry e).carryAll rest := rfl
    rw [hcons, ih, dropsAt_carry, List.append_assoc, List.filterMap_cons]
    cases e.dropOf? x <;> rfl

/-! ### 2. The seeds -/

/-- A cell that is dropped for the first time has no seed yet. -/
theorem Stage.Seeded.nodup_carry {w : Outline} (h : w.stage.Seeded) (hw : w.pending.Nodup)
    (e : Effect) : (w.carry e).pending.Nodup := by
  cases e with
  | link source target site passing news =>
    have hext := (w.graph.cellFor source).1.extends_cellFor target
    obtain ⟨s, hs, _⟩ := w.graph.exists_cell_cellFor source
    have hs' := hext.old _ s hs
    have hempty : (((w.graph.cellFor source).1.cellFor target).1.pointsTo
        (w.graph.cellFor source).2).isEmpty = true := by
      have hhollow := ((h.grow (w.graph.extends_cellFor source)).grow hext).hollow _ s hs'
      rw [Graph.pointsTo_of_cell? hs', hhollow]
      rfl
    have hnone := Graph.connect_snd_of_isEmpty hempty
      ((w.graph.cellFor source).1.cellFor target).2 site passing
    have hpending : (w.carry (.link source target site passing news)).pending = w.pending :=
      (congrArg (w.pending ++ ·) hnone).trans (List.append_nil _)
    rw [hpending]
    exact hw
  | drop c site =>
    have hext := w.graph.extends_cellFor c
    show (if ((w.graph.cellFor c).1.dropsOf (w.graph.cellFor c).2).isEmpty then
      w.pending ++ [⟨(w.graph.cellFor c).2, .singleton (w.graph.cellFor c).2⟩]
      else w.pending).Nodup
    split
    · rename_i hfirst
      rw [List.nodup_append]
      refine ⟨hw, by simp, ?_⟩
      rintro item hitem _ hlast rfl
      obtain ⟨d, hd, hobject, _⟩ := h.work item hitem
      rw [List.mem_singleton.mp hlast] at hd
      rw [Graph.dropsOf_of_cell? (hext.old _ d hd)] at hfirst
      simp [Cell.isObject, hfirst] at hobject
    · exact hw
  | _ => exact hw

/-- **The seeds**: each cell with drop sites is to hold itself, and there is no other work. -/
theorem mem_pending_expandFrom {p : Program} {config : Config} {entry : Int} {s : State}
    (h : expandFrom p config entry = (s, none)) : s.pending.Nodup ∧ ∀ item, item ∈ s.pending ↔
      ∃ id, s.graph.dropsOf id ≠ [] ∧ item = ⟨id, .singleton id⟩ := by
  have hseeded := seeded_expandFrom h
  constructor
  · have hboth : s.outline.stage.Seeded ∧ s.outline.pending.Nodup := by
      rw [(expansion_expandFrom h).1.outline]
      apply Outline.carryAll_induction (P := fun w => w.stage.Seeded ∧ w.pending.Nodup)
      · exact ⟨Stage.Seeded.empty, List.nodup_nil⟩
      · exact fun w e _ hw => ⟨hw.1.carry e, hw.1.nodup_carry hw.2 e⟩
    exact hboth.2
  · intro item
    constructor
    · intro hitem
      obtain ⟨c, hc, hobject, hself⟩ := hseeded.work item hitem
      refine ⟨item.cell, ?_, ?_⟩
      · rw [Graph.dropsOf_of_cell? hc]
        simpa [Cell.isObject] using hobject
      · rw [← hself]
    · rintro ⟨id, hdrops, rfl⟩
      obtain ⟨site, hsite⟩ := List.exists_mem_of_ne_nil _ hdrops
      obtain ⟨c, hc, hmem⟩ := Graph.exists_cell_of_mem_dropsOf hsite
      exact hseeded.seeds id c hc (Cell.isObject_iff.mpr ⟨site, hmem⟩)

/-! ### 3. The cells -/

/-- The cells that an effect refers to. -/
def Effect.cells : Effect → List CellRef
  | .touch c => [c]
  | .link source target _ _ _ => [source, target]
  | .drop c _ => [c]
  | _ => []

theorem Graph.address_of_cellFor {g : Graph} {r : CellRef} {id : Int} {c : Cell}
    (hc : (g.cellFor r).1.cell? id = some c) :
    g.cell? id = some c ∨ c.address = r.address := by
  cases hold : g.cell? id with
  | some d =>
    rw [(g.extends_cellFor r).old id d hold] at hc
    exact Or.inl hc
  | none => exact Or.inr (Graph.eq_ensure_of_new hc hold).2

theorem Outline.address_of_carry {w : Outline} {e : Effect} {id : Int} {c : Cell}
    (hc : (w.carry e).graph.cell? id = some c) :
    (∃ d, w.graph.cell? id = some d ∧ d.address = c.address) ∨
      ∃ r ∈ e.cells, c.address = r.address := by
  cases e with
  | touch r =>
    rcases Graph.address_of_cellFor hc with hold | hnew
    · exact Or.inl ⟨c, hold, rfl⟩
    · exact Or.inr ⟨r, by simp [Effect.cells], hnew⟩
  | link source target site passing news =>
    have hjoined : ((w.graph.cellFor source).1.cellFor target).1.cell? id = some c :=
      (Graph.cell?_connect ..).symm.trans hc
    rcases Graph.address_of_cellFor hjoined with hfirst | hnew
    · rcases Graph.address_of_cellFor hfirst with hold | hnew
      · exact Or.inl ⟨c, hold, rfl⟩
      · exact Or.inr ⟨source, by simp [Effect.cells], hnew⟩
    · exact Or.inr ⟨target, by simp [Effect.cells], hnew⟩
  | drop r site =>
    have hdropped : ∃ d, (w.graph.cellFor r).1.cell? id = some d ∧ d.address = c.address := by
      have hcell := (Graph.cell?_addDrop ..).symm.trans hc
      split at hcell
      · obtain ⟨d, hd, rfl⟩ := Option.map_eq_some_iff.mp hcell
        exact ⟨d, hd, rfl⟩
      · exact ⟨c, hcell, rfl⟩
    obtain ⟨d, hd, haddress⟩ := hdropped
    rcases Graph.address_of_cellFor hd with hold | hnew
    · exact Or.inl ⟨d, hold, haddress⟩
    · exact Or.inr ⟨r, by simp [Effect.cells], haddress.symm.trans hnew⟩
  | _ => exact Or.inl ⟨c, hc, rfl⟩

/-- What holds of the addresses that effects refer to holds of those of the cells. -/
theorem Outline.forall_cell_carryAll {entry : Int} {effects : List Effect}
    {P : Activation × Place → Prop} (h : ∀ e ∈ effects, ∀ r ∈ e.cells, P r.address) :
    ∀ id c, ((Outline.entry entry).carryAll effects).graph.cell? id = some c → P c.address := by
  refine carryAll_induction (P := fun w => ∀ id c, w.graph.cell? id = some c → P c.address) ?_ ?_
  · intro id c hc
    rw [Outline.cell?_entry] at hc
    exact nomatch hc
  · intro w e he hw id c hc
    rcases address_of_carry hc with ⟨d, hd, haddress⟩ | ⟨r, hr, haddress⟩
    · rw [← haddress]
      exact hw id d hd
    · rw [haddress]
      exact h e he r hr

end DropFlow.Flow
