/-
  DropFlow/Proofs/Flow/Links.lean
  ===============================
  The edges and the drop sites that effects leave behind.

  There is one edge between two cells, however many effects link them: the first one
  gives the edge its site and its flags (`LinksExact`).  A drop site of a cell comes from
  an effect that drops it.  The sites of the effects of an activation are in the blocks
  of its function.
-/
import DropFlow.Proofs.Flow.Analysis
import Mathlib.Data.List.Induction

namespace DropFlow.Flow

/-! ### 1. First links -/

/-- The address of a cell that is referred to. -/
def CellRef.address (c : CellRef) : Activation × Place := (c.activation, c.place)

/-- Where and how an effect links two addresses, if it does. -/
def Effect.linkOf? (x y : Activation × Place) : Effect → Option (Site × Graph.Passing)
  | .link source target site passing _ =>
    if source.address = x ∧ target.address = y then some (site, passing) else none
  | _ => none

/-- A flow that a block brings is linked by one of the effects of the block. -/
theorem Effect.exists_linkOf?_of_brings {p : Program} {config : Config} {a : Activation} {f : Body}
    {b : Block} {source target : CellRef} {site : Site} {passing : Graph.Passing}
    (h : b.Brings p config a f (.link source target site passing none)) :
    ∃ e ∈ blockEffects p config a f b,
      e.linkOf? source.address target.address = some (site, passing) := by
  obtain ⟨news, he⟩ := h.exists_mem
  exact ⟨_, he, if_pos ⟨rfl, rfl⟩⟩

/-- Where and how the first of the effects that link two addresses does so. -/
def firstLink (effects : List Effect) (x y : Activation × Place) :
    Option (Site × Graph.Passing) :=
  effects.findSome? (Effect.linkOf? x y)

/-- The edge that a link between two addresses makes. -/
def linkEdge (x y : Activation × Place) (i j : Int) (site : Site) : Graph.Passing → Edge
  | .value => ⟨i, j, site, x.2.hasDeref, y.2.hasDeref⟩
  | .argument => ⟨i, j, site, true, true⟩

/-- An effect that links no addresses, or linked ones, is not the first link of any. -/
theorem firstLink_append_of_linked {effects : List Effect} {e : Effect}
    (h : ∀ x y, e.linkOf? x y ≠ none → firstLink effects x y ≠ none)
    (x y : Activation × Place) : firstLink (effects ++ [e]) x y = firstLink effects x y := by
  unfold firstLink
  rw [List.findSome?_append]
  cases hold : effects.findSome? (Effect.linkOf? x y) with
  | some r => rfl
  | none =>
    rw [Option.none_or, List.findSome?_singleton]
    refine Classical.byContradiction fun hne => ?_
    exact h x y hne hold

theorem firstLink_append_link {effects : List Effect} {source target : CellRef} {site : Site}
    {passing : Graph.Passing} {news : Option Notice}
    (hnone : firstLink effects source.address target.address = none) (x y : Activation × Place) :
    firstLink (effects ++ [.link source target site passing news]) x y =
      if source.address = x ∧ target.address = y then some (site, passing)
      else firstLink effects x y := by
  have hlast : (Effect.link source target site passing news).linkOf? x y =
      if source.address = x ∧ target.address = y then some (site, passing) else none := rfl
  unfold firstLink at hnone ⊢
  rw [List.findSome?_append, List.findSome?_singleton, hlast]
  split
  · rename_i hxy
    rw [← hxy.1, ← hxy.2, hnone, Option.none_or]
  · rw [Option.or_none]

/-- The edges are the first links of effects. -/
structure LinksExact (effects : List Effect) (g : Graph) : Prop where
  sound : ∀ e ∈ g.edges.toList, ∃ x y site passing, firstLink effects x y = some (site, passing) ∧
    g.find? x.1 x.2 = some e.source ∧ g.find? y.1 y.2 = some e.target ∧
    e = linkEdge x y e.source e.target site passing
  complete : ∀ x y site passing, firstLink effects x y = some (site, passing) →
    ∃ i j, g.find? x.1 x.2 = some i ∧ g.find? y.1 y.2 = some j ∧
      linkEdge x y i j site passing ∈ g.edges.toList

namespace LinksExact

variable {effects : List Effect} {g : Graph}

theorem mono (h : LinksExact effects g) {effects' : List Effect} {g' : Graph}
    (hfind : ∀ a p id, g.find? a p = some id → g'.find? a p = some id)
    (hedges : g'.edges = g.edges)
    (hfirst : ∀ x y, firstLink effects' x y = firstLink effects x y) :
    LinksExact effects' g' where
  sound := fun e he => by
    rw [hedges] at he
    obtain ⟨x, y, site, passing, hlink, hx, hy, heq⟩ := h.sound e he
    exact ⟨x, y, site, passing, (hfirst x y).trans hlink, hfind _ _ _ hx, hfind _ _ _ hy, heq⟩
  complete := fun x y site passing hlink => by
    rw [hfirst] at hlink
    obtain ⟨i, j, hi, hj, he⟩ := h.complete x y site passing hlink
    exact ⟨i, j, hfind _ _ _ hi, hfind _ _ _ hj, by rw [hedges]; exact he⟩

theorem address_eq_of_find? {x y : Activation × Place} {id : Int}
    (hx : g.find? x.1 x.2 = some id) (hy : g.find? y.1 y.2 = some id) : x = y := by
  obtain ⟨c, hc, hcx⟩ := Graph.find?_eq_some_iff.mp hx
  obtain ⟨d, hd, hdy⟩ := Graph.find?_eq_some_iff.mp hy
  rw [hc] at hd
  cases hd
  exact hcx.symm.trans hdy

theorem hasEdge_iff (h : LinksExact effects g) {x y : Activation × Place} {i j : Int}
    (hi : g.find? x.1 x.2 = some i) (hj : g.find? y.1 y.2 = some j) :
    g.hasEdge i j = true ↔ firstLink effects x y ≠ none := by
  rw [Graph.hasEdge_iff]
  constructor
  · rintro ⟨e, he, rfl, rfl⟩
    obtain ⟨x', y', site, passing, hlink, hx', hy', _⟩ := h.sound e he
    rw [address_eq_of_find? hi hx', address_eq_of_find? hj hy', hlink]
    exact Option.some_ne_none _
  · intro hne
    obtain ⟨⟨site, passing⟩, hlink⟩ := Option.ne_none_iff_exists'.mp hne
    obtain ⟨i', j', hi', hj', he⟩ := h.complete x y site passing hlink
    rw [hi] at hi'
    rw [hj] at hj'
    cases hi'
    cases hj'
    exact ⟨_, he, by cases passing <;> rfl, by cases passing <;> rfl⟩

theorem edgeFor_eq {x y : Activation × Place} {i j : Int} (hi : g.find? x.1 x.2 = some i)
    (hj : g.find? y.1 y.2 = some j) (site : Site) (passing : Graph.Passing) :
    g.edgeFor i j site passing = linkEdge x y i j site passing := by
  have hderef : ∀ {z : Activation × Place} {k : Int}, g.find? z.1 z.2 = some k →
      g.derefAt k = z.2.hasDeref := by
    intro z k hk
    obtain ⟨c, hc, hz⟩ := Graph.find?_eq_some_iff.mp hk
    have hplace : c.place = z.2 := congrArg Prod.snd hz
    rw [Graph.derefAt, hc, ← hplace]
  cases passing with
  | value => rw [Graph.edgeFor, linkEdge, hderef hi, hderef hj]
  | argument => rfl

/-- The first link of two addresses makes their edge. -/
theorem push (h : LinksExact effects g) {source target : CellRef} {i j : Int} {site : Site}
    {passing : Graph.Passing} {news : Option Notice} {g' : Graph}
    (hfind : ∀ a p id, g.find? a p = some id → g'.find? a p = some id)
    (hi : g'.find? source.activation source.place = some i)
    (hj : g'.find? target.activation target.place = some j)
    (hnone : firstLink effects source.address target.address = none)
    (hedges : g'.edges = g.edges.push (linkEdge source.address target.address i j site passing)) :
    LinksExact (effects ++ [.link source target site passing news]) g' where
  sound := fun e he => by
    rw [hedges, Array.toList_push, List.mem_append, List.mem_singleton] at he
    rcases he with he | rfl
    · obtain ⟨x, y, site', passing', hlink, hx, hy, heq⟩ := h.sound e he
      refine ⟨x, y, site', passing', ?_, hfind _ _ _ hx, hfind _ _ _ hy, heq⟩
      rw [firstLink_append_link hnone, if_neg, hlink]
      rintro ⟨rfl, rfl⟩
      rw [hnone] at hlink
      cases hlink
    · refine ⟨source.address, target.address, site, passing, ?_, ?_, ?_, ?_⟩
      · rw [firstLink_append_link hnone, if_pos ⟨rfl, rfl⟩]
      · cases passing <;> exact hi
      · cases passing <;> exact hj
      · cases passing <;> rfl
  complete := fun x y site' passing' hlink => by
    rw [firstLink_append_link hnone] at hlink
    rw [hedges, Array.toList_push]
    split at hlink
    · rename_i hxy
      obtain ⟨rfl, rfl⟩ := hxy
      cases hlink
      exact ⟨i, j, hi, hj, List.mem_append_right _ (List.mem_singleton.mpr rfl)⟩
    · obtain ⟨i', j', hi', hj', he⟩ := h.complete x y site' passing' hlink
      exact ⟨i', j', hfind _ _ _ hi', hfind _ _ _ hj', List.mem_append_left _ he⟩

theorem connect (h : LinksExact effects g) {source target : CellRef} {i j : Int}
    (hi : g.find? source.activation source.place = some i)
    (hj : g.find? target.activation target.place = some j) (site : Site)
    (passing : Graph.Passing) (news : Option Notice) :
    LinksExact (effects ++ [.link source target site passing news])
      (g.connect i j site passing).1 := by
  have hfind : ∀ a p id, g.find? a p = some id →
      (g.connect i j site passing).1.find? a p = some id := by
    intro a p id hid
    obtain ⟨c, hc, ha⟩ := Graph.find?_eq_some_iff.mp hid
    refine Graph.find?_eq_some_iff.mpr ⟨c, ?_, ha⟩
    rw [Graph.cell?_connect]
    exact hc
  have hjoined := h.hasEdge_iff (x := source.address) (y := target.address) hi hj
  have hedges := g.edges_connect i j site passing
  by_cases hedge : g.hasEdge i j = true
  · -- the two cells are linked already, and the new site is forgotten
    rw [if_pos hedge] at hedges
    refine h.mono hfind hedges (firstLink_append_of_linked fun x y hne => ?_)
    unfold Effect.linkOf? at hne
    dsimp only at hne
    split at hne
    · rename_i hxy
      rw [← hxy.1, ← hxy.2]
      exact hjoined.mp hedge
    · exact absurd rfl hne
  · rw [if_neg hedge, edgeFor_eq (x := source.address) (y := target.address) hi hj] at hedges
    refine h.push hfind (hfind _ _ _ hi) (hfind _ _ _ hj) ?_ hedges
    refine Classical.byContradiction fun hne => ?_
    exact hedge (hjoined.mpr hne)

theorem carry {w : Outline} (h : LinksExact effects w.graph) (e : Effect) :
    LinksExact (effects ++ [e]) (w.carry e).graph := by
  have hskip : ∀ {g' : Graph}, (∀ a p id, w.graph.find? a p = some id → g'.find? a p = some id) →
      g'.edges = w.graph.edges → (∀ x y, e.linkOf? x y = none) →
      LinksExact (effects ++ [e]) g' := by
    intro g' hfind hedges hno
    exact h.mono hfind hedges (firstLink_append_of_linked fun x y hne => absurd (hno x y) hne)
  cases e with
  | touch c =>
    have hext := w.graph.extends_cellFor c
    exact hskip (fun _ _ _ hid => hext.find? hid) hext.edges fun _ _ => rfl
  | link source target site passing news =>
    have hext := (w.graph.extends_cellFor source).trans
      ((w.graph.cellFor source).1.extends_cellFor target)
    have hboth : LinksExact effects ((w.graph.cellFor source).1.cellFor target).1 :=
      h.mono (fun _ _ _ hid => hext.find? hid) hext.edges fun _ _ => rfl
    have hi : ((w.graph.cellFor source).1.cellFor target).1.find? source.activation source.place =
        some (w.graph.cellFor source).2 :=
      ((w.graph.cellFor source).1.extends_cellFor target).find? (Graph.find?_ensure ..)
    exact hboth.connect hi (Graph.find?_ensure ..) site passing news
  | drop c site =>
    have hext := w.graph.extends_cellFor c
    refine hskip (fun a p id hid => ?_) ?_ fun _ _ => rfl
    · obtain ⟨d, hd, ha⟩ := Graph.find?_eq_some_iff.mp (hext.find? hid)
      unfold Outline.carry Outline.drop
      dsimp only
      rw [Graph.find?_eq_some_iff]
      simp only [Graph.cell?_addDrop, hd, Option.map_some]
      split
      · exact ⟨_, rfl, ha⟩
      · exact ⟨d, rfl, ha⟩
    · exact (Graph.edges_addDrop ..).trans hext.edges
  | call site callee => exact hskip (fun _ _ _ hid => hid) rfl fun _ _ => rfl
  | note n => exact hskip (fun _ _ _ hid => hid) rfl fun _ _ => rfl
  | load f => exact hskip (fun _ _ _ hid => hid) rfl fun _ _ => rfl
  | abort e => exact hskip (fun _ _ _ hid => hid) rfl fun _ _ => rfl

end LinksExact

/-- **The edges that effects leave behind are their first links.** -/
theorem linksExact_carryAll (entry : Int) (effects : List Effect) :
    LinksExact effects ((Outline.entry entry).carryAll effects).graph := by
  induction effects using List.reverseRecOn with
  | nil =>
    refine ⟨fun e he => (nomatch he), fun x y site passing hlink => ?_⟩
    exact nomatch hlink
  | append_singleton effects e ih =>
    have hlast : (Outline.entry entry).carryAll (effects ++ [e]) =
        ((Outline.entry entry).carryAll effects).carry e := by
      unfold Outline.carryAll
      rw [List.foldl_append]
      rfl
    rw [hlast]
    exact ih.carry e

/-! ### 2. Drop sites -/

/-- The drop sites after an effect are those before, and the one of a drop. -/
theorem mem_dropsOf_carry {w : Outline} {e : Effect} {id : Int} {site : Site}
    (h : site ∈ (w.carry e).graph.dropsOf id) :
    site ∈ w.graph.dropsOf id ∨ ∃ c, e = .drop c site := by
  cases e with
  | touch c =>
    rw [← (w.graph.extends_cellFor c).evolves.dropsOf]
    exact Or.inl h
  | link source target at' passing news =>
    have hext := (w.graph.extends_cellFor source).trans
      ((w.graph.cellFor source).1.extends_cellFor target)
    rw [← hext.evolves.dropsOf]
    unfold Graph.dropsOf at h ⊢
    unfold Outline.carry Outline.link at h
    dsimp only at h
    rw [Graph.cell?_connect] at h
    exact Or.inl h
  | drop c site' =>
    rw [← (w.graph.extends_cellFor c).evolves.dropsOf]
    obtain ⟨d, hd, hmem⟩ := Graph.exists_cell_of_mem_dropsOf h
    unfold Outline.carry Outline.drop at hd
    dsimp only at hd
    rw [Graph.cell?_addDrop] at hd
    split at hd
    · obtain ⟨d', hd', rfl⟩ := Option.map_eq_some_iff.mp hd
      rw [Graph.dropsOf_of_cell? hd']
      rcases List.mem_append.mp hmem with hm | hm
      · exact Or.inl hm
      · rw [List.mem_singleton.mp hm]
        exact Or.inr ⟨c, rfl⟩
    · rw [Graph.dropsOf_of_cell? hd]
      exact Or.inl hmem
  | call at' callee => exact Or.inl h
  | note n => exact Or.inl h
  | load f => exact Or.inl h
  | abort e => exact Or.inl h

/-- A drop site that effects leave behind comes from an effect that drops a cell there. -/
theorem drop_mem_of_mem_dropsOf {entry : Int} {effects : List Effect} {id : Int} {site : Site}
    (h : site ∈ ((Outline.entry entry).carryAll effects).graph.dropsOf id) :
    ∃ c, .drop c site ∈ effects := by
  refine Outline.carryAll_induction (P := fun w => site ∈ w.graph.dropsOf id →
    ∃ c, .drop c site ∈ effects) ?_ ?_ h
  · intro hsite
    obtain ⟨c, hc, _⟩ := Graph.exists_cell_of_mem_dropsOf hsite
    rw [Outline.cell?_entry] at hc
    cases hc
  · intro w e he hw hsite
    rcases mem_dropsOf_carry hsite with hsite | ⟨c, rfl⟩
    · exact hw hsite
    · exact ⟨c, he⟩

/-! ### 3. The sites of effects -/

/-- Where an effect on the graph happens. -/
def Effect.site? : Effect → Option Site
  | .link _ _ site _ _ => some site
  | .drop _ site => some site
  | _ => none

/-- The effects of a block happen in the block. -/
theorem site_of_mem_blockEffects {p : Program} {config : Config} {a : Activation} {f : Body}
    {b : Block} {s : Site} {e : Effect} (he : e ∈ blockEffects p config a f b)
    (hs : e.site? = some s) : s.blockRef = ⟨a.function, b.id⟩ := by
  rcases Block.brings_of_mem_blockEffects he with ⟨n, rfl⟩ | hbrings
  · exact nomatch hs
  · cases hbrings <;> cases hs <;> rfl

theorem site_of_mem_activationEffects {p : Program} {config : Config} {a : Activation} {s : Site}
    {e : Effect} (he : e ∈ activationEffects p config a) (hs : e.site? = some s) :
    s.function = a.function := by
  unfold activationEffects at he
  split at he
  · obtain ⟨b, _, he⟩ := List.mem_flatMap.mp he
    exact congrArg BlockRef.function (site_of_mem_blockEffects he hs)
  · exact nomatch he

namespace Analyzed

variable {p : Program} {config : Config} {entry : Int} {s : State}

theorem linksExact (h : Analyzed p config entry s) :
    LinksExact (s.reached.flatMap (activationEffects p config)) s.graph :=
  (linksExact_carryAll entry _).mono (fun _ _ _ hid => h.effects.find? hid) h.effects.edges
    fun _ _ => rfl

/-- The drop sites are in functions that are reached. -/
theorem exists_reached_of_mem_dropsOf (h : Analyzed p config entry s) {id : Int} {site : Site}
    (hsite : site ∈ s.graph.dropsOf id) : ∃ a ∈ s.reached, a.function = site.blockRef.function := by
  rw [h.effects.dropsOf] at hsite
  obtain ⟨c, hc⟩ := drop_mem_of_mem_dropsOf hsite
  obtain ⟨a, ha, hdrop⟩ := List.mem_flatMap.mp hc
  exact ⟨a, ha, (site_of_mem_activationEffects hdrop rfl).symm⟩

end Analyzed

end DropFlow.Flow
