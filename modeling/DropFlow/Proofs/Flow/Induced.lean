/-
  DropFlow/Proofs/Flow/Induced.lean
  =================================
  The graph that a program induces, and that an analysis ends with.

  `Block.Induces` says which flows a block of an activation induces: by its assignments,
  by the arguments and the result of a resolved call, and by a call to an unknown
  function.  The effects of a block link what the block induces and nothing else
  (`Block.allows_of_mem_blockEffects`, `Block.Induces.exists_effect`), so that the edges of
  the graph are the flows that the blocks of the activations reached induce.

  Only an activation itself drops its places, and it is expanded once; so the drop sites
  of a place are the blocks of the body that drop the place, in the order of the blocks.
-/
import DropFlow.Proofs.Finding.Uses
import DropFlow.Proofs.Flow.Contexts
import DropFlow.Proofs.Flow.Drops
import Mathlib.Data.List.Basic

namespace DropFlow

open DropFlow.Flow

/-! ### 1. What a block induces -/

/-- A call leaves a value at a place: the slot of the place is declared, and the place is a part
    of it or its type is not the unit type. -/
def Call.LeavesValue (c : Call) (f : Body) (place : Place) : Prop :=
  c.destination = some place ∧ ∃ d, f.slot? place.slot = some d ∧
    (0 < place.depth ∨ d.type.isUnit = false)

/-- The flows that a block of an activation of a body induces. -/
inductive Block.Induces (p : Program) (config : Config) (a : Activation) (f : Body) (b : Block) :
    Activation × Place → Activation × Place → Prop
  /-- The right side of an assignment that makes an alias flows into the left side. -/
  | assignment {s : Assignment} : s ∈ b.assignments → s.createsAlias = true →
      Induces p config a f b (a, s.right) (a, s.left)
  /-- An argument that makes an alias flows into the parameter of a callee, if that is declared. -/
  | argument {c : Call} {t : Int} {g : Body} {i : Nat} {arg : Argument} :
      b.terminator = .call c → t ∈ b.targets p config → p.body t = .ok g →
      c.arguments[i]? = some arg → arg.createsAlias = true → (g.slot? (i + 1)).isSome = true →
      Induces p config a f b (a, arg.place) (⟨t, .call a.function b.id⟩, ⟨i + 1, []⟩)
  /-- The result of a callee flows into the destination. -/
  | result {c : Call} {t : Int} {place : Place} : b.terminator = .call c →
      t ∈ b.targets p config → c.LeavesValue f place →
      Induces p config a f b (⟨t, .call a.function b.id⟩, ⟨resultSlot, []⟩) (a, place)
  /-- The arguments of an unknown function that make aliases flow into the destination. -/
  | external {c : Call} {place : Place} {arg : Argument} : b.terminator = .call c →
      (resolve p config c.callee c.candidates).2 = .external → c.LeavesValue f place →
      arg ∈ c.arguments → arg.createsAlias = true →
      Induces p config a f b (a, arg.place) (a, place)

theorem valueDestination_eq_some_iff {f : Body} {c : Call} {place : Place} :
    valueDestination f c = .ok (some place) ↔ c.LeavesValue f place := by
  unfold valueDestination Call.LeavesValue
  cases c.destination with
  | none => simp
  | some q =>
    dsimp only
    cases hslot : f.slot? q.slot with
    | none =>
      simp only [reduceCtorEq, Option.some.injEq, false_iff]
      rintro ⟨rfl, d, hd, _⟩
      rw [hslot] at hd
      exact nomatch hd
    | some d =>
      by_cases hvalue : 0 < q.depth ∨ (!d.type.isUnit) = true
      · simp only [if_pos hvalue, Except.ok.injEq, Option.some.injEq]
        constructor
        · rintro rfl
          exact ⟨rfl, d, hslot, by simpa using hvalue⟩
        · exact fun h => h.1
      · simp only [if_neg hvalue, Except.ok.injEq, reduceCtorEq, Option.some.injEq, false_iff]
        rintro ⟨rfl, d', hd', hvalue'⟩
        rw [hslot] at hd'
        cases hd'
        exact hvalue (by simpa using hvalue')

/-- A call that is passed through or ignored induces nothing. -/
theorem Block.Induces.eq_assignment {p : Program} {config : Config} {a : Activation} {f : Body}
    {b : Block} {c : Call} {u v : Activation × Place} (hterm : b.terminator = .call c)
    (hkind : (resolve p config c.callee c.candidates).2 = .passthrough ∨
      (resolve p config c.callee c.candidates).2 = .ignored)
    (h : b.Induces p config a f u v) :
    ∃ s ∈ b.assignments, s.createsAlias = true ∧ u = (a, s.right) ∧ v = (a, s.left) := by
  have hnil : b.targets p config = [] := by
    rw [Block.targets_of_call hterm]
    refine Classical.byContradiction fun hne => ?_
    have hresolved := resolve_eq_resolved_iff.mpr hne
    rcases hkind with hkind | hkind <;> simp [hkind] at hresolved
  cases h with
  | assignment hs halias => exact ⟨_, hs, halias, rfl, rfl⟩
  | argument _ ht _ _ _ _ => simp [hnil] at ht
  | result _ ht _ => simp [hnil] at ht
  | external hterm' hexternal _ _ _ =>
    rw [hterm] at hterm'
    cases hterm'
    rcases hkind with hkind | hkind <;> simp [hkind] at hexternal

/-! ### 2. The effects of a block -/

/-- What the effects of a block may be. -/
def Block.Allows (p : Program) (config : Config) (a : Activation) (f : Body) (b : Block) :
    Effect → Prop
  | .touch c => c.activation = a
  | .link source target _ _ _ => b.Induces p config a f source.address target.address
  | .drop c _ => c.activation = a ∧ ∃ place location, b.terminator = .drop place location
  | _ => True

namespace Block

variable {p : Program} {config : Config} {a : Activation} {f : Body} {b : Block}

/-- **The effects of a block** link what the block induces, and drop what it drops. -/
theorem allows_of_mem_blockEffects {e : Effect} (he : e ∈ blockEffects p config a f b) :
    b.Allows p config a f e := by
  rcases brings_of_mem_blockEffects he with ⟨n, rfl⟩ | hbrings
  · trivial
  · cases hbrings with
    | assignment hs halias => exact .assignment hs halias
    | drop hterm => exact ⟨rfl, _, _, hterm⟩
    | argument hterm ht hg hi halias hslot => exact .argument hterm ht hg hi halias hslot
    | result hterm ht _ hplace => exact .result hterm ht (valueDestination_eq_some_iff.mp hplace)
    | destination _ _ _ => exact rfl
    | external hterm hkind hplace hmem halias =>
      exact .external hterm hkind (valueDestination_eq_some_iff.mp hplace) hmem halias
    | call _ => trivial
    | load _ => trivial
    | abort _ _ _ => trivial

/-- What a block induces is linked by one of its effects, if the functions that it calls lower. -/
theorem Induces.exists_effect (hlower : ∀ t ∈ b.targets p config, ∃ g, p.body t = .ok g)
    {u v : Activation × Place} (h : b.Induces p config a f u v) :
    ∃ e ∈ blockEffects p config a f b, e.linkOf? u v ≠ none := by
  have hlinked : ∀ {source target : CellRef} {site : Site} {passing : Graph.Passing},
      b.Brings p config a f (.link source target site passing none) →
      ∃ e ∈ blockEffects p config a f b, e.linkOf? source.address target.address ≠ none := by
    intro source target site passing hbrings
    obtain ⟨e, he, hlink⟩ := Effect.exists_linkOf?_of_brings hbrings
    exact ⟨e, he, by simp [hlink]⟩
  cases h with
  | assignment hs halias => exact hlinked (.assignment hs halias)
  | argument hterm ht hg hi halias hslot => exact hlinked (.argument hterm ht hg hi halias hslot)
  | result hterm ht hvalue =>
    obtain ⟨g, hg⟩ := hlower _ ht
    exact hlinked (.result hterm ht hg (valueDestination_eq_some_iff.mpr hvalue))
  | external hterm hkind hvalue hmem halias =>
    exact hlinked (.external hterm hkind (valueDestination_eq_some_iff.mpr hvalue) hmem halias)

/-- A block induces flows between its own activation and those that it enters. -/
theorem Induces.forall_activation {u v : Activation × Place} (h : b.Induces p config a f u v)
    {P : Activation → Prop} (ha : P a)
    (hcalls : ∀ t ∈ b.targets p config, P ⟨t, .call a.function b.id⟩) : P u.1 ∧ P v.1 := by
  cases h with
  | assignment _ _ => exact ⟨ha, ha⟩
  | argument _ ht _ _ _ _ => exact ⟨ha, hcalls _ ht⟩
  | result _ ht _ => exact ⟨hcalls _ ht, ha⟩
  | external _ _ _ _ _ => exact ⟨ha, ha⟩

end Block

/-! ### 3. What a body drops -/

/-- The site where a block drops a place, if it does. -/
def Block.dropSite? (f : Int) (place : Place) (b : Block) : Option Site :=
  match b.terminator with
  | .drop dropped location => if dropped = place then some ⟨f, b.id, location⟩ else none
  | _ => none

/-- The sites where the blocks of a body drop a place, in their order. -/
def Body.dropSites (f : Body) (place : Place) : List Site :=
  f.blocks.filterMap (Block.dropSite? f.id place)

theorem Block.block_of_dropSite? {f : Int} {place : Place} {b : Block} {site : Site}
    (h : b.dropSite? f place = some site) : site.block = b.id := by
  unfold dropSite? at h
  split at h
  · split at h
    · cases h
      rfl
    · exact nomatch h
  · exact nomatch h

theorem Body.sublist_dropSites (f : Body) (place : Place) :
    ((f.dropSites place).map (·.block)).Sublist (f.blocks.map (·.id)) := by
  unfold dropSites
  induction f.blocks with
  | nil => exact List.Sublist.slnil
  | cons b rest ih =>
    rw [List.filterMap_cons, List.map_cons]
    split
    · exact ih.cons _
    · rename_i site hsite
      rw [List.map_cons, Block.block_of_dropSite? hsite]
      exact ih.cons_cons _

namespace Flow

/-! ### 4. The graph of an analysis -/

/-- There is an edge from the cell of one address to the cell of another one. -/
def Graph.Flows (g : Graph) (u v : Activation × Place) : Prop :=
  ∃ e ∈ g.edges.toList, g.find? u.1 u.2 = some e.source ∧ g.find? v.1 v.2 = some e.target

theorem Effect.exists_link {e : Effect} {u v : Activation × Place} (h : e.linkOf? u v ≠ none) :
    ∃ source target site passing news, e = .link source target site passing news ∧
      source.address = u ∧ target.address = v := by
  cases e with
  | link source target site passing news =>
    unfold Effect.linkOf? at h
    dsimp only at h
    split at h
    · rename_i haddress
      exact ⟨source, target, site, passing, news, rfl, haddress⟩
    · exact absurd rfl h
  | _ => exact absurd rfl h

theorem LinksExact.flows_iff {effects : List Effect} {g : Graph} (h : LinksExact effects g)
    {u v : Activation × Place} : g.Flows u v ↔ ∃ e ∈ effects, e.linkOf? u v ≠ none := by
  have hfirst : firstLink effects u v ≠ none ↔ ∃ e ∈ effects, e.linkOf? u v ≠ none := by
    simp [firstLink]
  rw [← hfirst]
  constructor
  · rintro ⟨e, he, hu, hv⟩
    exact (h.hasEdge_iff hu hv).mp (Graph.hasEdge_iff.mpr ⟨e, he, rfl, rfl⟩)
  · intro hlinked
    obtain ⟨⟨site, passing⟩, hlink⟩ := Option.ne_none_iff_exists'.mp hlinked
    obtain ⟨i, j, hi, hj, he⟩ := h.complete u v site passing hlink
    refine ⟨_, he, ?_⟩
    cases passing with
    | value => exact ⟨hi, hj⟩
    | argument => exact ⟨hi, hj⟩

section Analyzed

variable {p : Program} {config : Config} {entry : Int} {s : State}

theorem mem_activationEffects (hp : p.Coherent) {a : Activation} {f : Body}
    (hf : p.body a.function = .ok f) {e : Effect} :
    e ∈ activationEffects p config a ↔ ∃ b ∈ f.blocks, e ∈ blockEffects p config a f b := by
  unfold activationEffects
  rw [hp.fetch_body, hf]
  exact List.mem_flatMap

/-- **The edges are the flows that the blocks induce.** -/
theorem Analyzed.flows_iff (hp : p.Coherent) (h : Analyzed p config entry s)
    {u v : Activation × Place} : s.graph.Flows u v ↔ ∃ a ∈ s.reached, ∃ f,
      p.body a.function = .ok f ∧ ∃ b ∈ f.blocks, b.Induces p config a f u v := by
  rw [h.linksExact.flows_iff]
  constructor
  · rintro ⟨e, he, hlinked⟩
    obtain ⟨a, ha, he⟩ := List.mem_flatMap.mp he
    obtain ⟨f, hf⟩ := h.usable a ha
    obtain ⟨b, hb, he⟩ := (mem_activationEffects hp hf).mp he
    obtain ⟨source, target, site, passing, news, rfl, rfl, rfl⟩ := Effect.exists_link hlinked
    exact ⟨a, ha, f, hf, b, hb, Block.allows_of_mem_blockEffects he⟩
  · rintro ⟨a, ha, f, hf, b, hb, hinduces⟩
    have hlower : ∀ t ∈ b.targets p config, ∃ g, p.body t = .ok g := by
      intro t ht
      exact h.usable _ (h.enters ha hf hb ht)
    obtain ⟨e, he, hlinked⟩ := hinduces.exists_effect hlower
    refine ⟨e, List.mem_flatMap.mpr ⟨a, ha, ?_⟩, hlinked⟩
    exact (mem_activationEffects hp hf).mpr ⟨b, hb, he⟩

theorem graph_expandFrom (hp : p.Coherent) (h : expandFrom p config entry = (s, none)) :
    s.graph = ((Outline.entry entry).carryAll
      (s.reached.flatMap (activationEffects p config))).graph :=
  congrArg Outline.graph (outline_expandFrom hp h)

theorem reached_of_cell (hp : p.Coherent) (h : expandFrom p config entry = (s, none)) {id : Int}
    {c : Cell} (hc : s.graph.cell? id = some c) : c.activation ∈ s.reached := by
  rw [graph_expandFrom hp h] at hc
  refine Outline.forall_cell_carryAll (P := fun x => x.1 ∈ s.reached) ?_ id c hc
  intro e he r hr
  obtain ⟨a, ha, he⟩ := List.mem_flatMap.mp he
  obtain ⟨f, hf⟩ := usable_expandFrom hp h ha
  obtain ⟨b, hb, he⟩ := (mem_activationEffects hp hf).mp he
  have hallows := Block.allows_of_mem_blockEffects he
  have hcalls : ∀ t ∈ b.targets p config, (⟨t, .call a.function b.id⟩ : Activation) ∈ s.reached :=
    fun t ht => (mem_reached_expandFrom hp h _).mpr (Or.inr ⟨a, ha, f, hf, b, hb, t, ht, rfl⟩)
  cases e with
  | touch c =>
    have hactivation : c.activation = a := hallows
    rw [List.mem_singleton.mp hr, CellRef.address, hactivation]
    exact ha
  | link source target site passing news =>
    obtain ⟨hsource, htarget⟩ := Block.Induces.forall_activation hallows ha hcalls
    simp only [Effect.cells, List.mem_cons, List.not_mem_nil, or_false] at hr
    rcases hr with rfl | rfl
    · exact hsource
    · exact htarget
  | drop c site =>
    rw [List.mem_singleton.mp hr, CellRef.address, hallows.1]
    exact ha
  | _ => exact absurd hr List.not_mem_nil

/-- A block drops a place once, in its own activation. -/
theorem filterMap_dropOf?_blockEffects {a : Activation} {f : Body} (hid : f.id = a.function)
    (b : Block) (x : Activation × Place) :
    (blockEffects p config a f b).filterMap (Effect.dropOf? x) =
      if a = x.1 then (b.dropSite? f.id x.2).toList else [] := by
  by_cases hdrop : ∃ place location, b.terminator = .drop place location
  · obtain ⟨place, location, hterm⟩ := hdrop
    have hassign : (b.assignments.flatMap (assignmentEffects a f b)).filterMap
        (Effect.dropOf? x) = [] := by
      rw [List.filterMap_eq_nil_iff]
      intro e he
      obtain ⟨s, _, he⟩ := List.mem_flatMap.mp he
      rcases mem_assignmentEffects he with ⟨n, rfl⟩ | ⟨_, news, rfl⟩
      · rfl
      · rfl
    unfold blockEffects Block.dropSite?
    rw [hterm, List.filterMap_append, hassign, hid]
    obtain ⟨a', place'⟩ := x
    by_cases ha : a = a'
    · by_cases hplace : place = place' <;>
        simp [Effect.dropOf?, CellRef.address, cellOf, ha, hplace]
    · simp [Effect.dropOf?, CellRef.address, cellOf, ha]
  · have hnone : b.dropSite? f.id x.2 = none := by
      unfold Block.dropSite?
      split
      · rename_i place location hterm
        exact absurd ⟨place, location, hterm⟩ hdrop
      · rfl
    rw [hnone, Option.toList_none, ite_self, List.filterMap_eq_nil_iff]
    intro e he
    cases e with
    | drop c site => exact absurd (Block.allows_of_mem_blockEffects he).2 hdrop
    | _ => rfl

theorem filterMap_dropOf?_activationEffects (hp : p.Coherent) {a : Activation} {f : Body}
    (hf : p.body a.function = .ok f) (x : Activation × Place) :
    (activationEffects p config a).filterMap (Effect.dropOf? x) =
      if a = x.1 then f.dropSites x.2 else [] := by
  unfold activationEffects bodyEffects
  rw [hp.fetch_body, hf]
  simp only [List.filterMap_flatMap, filterMap_dropOf?_blockEffects (Program.id_of_body hf)]
  by_cases ha : a = x.1
  · simp only [if_pos ha, Body.dropSites]
    exact (List.filterMap_eq_flatMap_toList _ _).symm
  · simp [if_neg ha]

/-- **The drop sites of a place are the blocks that drop it**, in their order. -/
theorem dropsAt_expandFrom (hp : p.Coherent) (h : expandFrom p config entry = (s, none))
    {a : Activation} (ha : a ∈ s.reached) {f : Body} (hf : p.body a.function = .ok f)
    (place : Place) : s.graph.dropsAt (a, place) = f.dropSites place := by
  have hstart : (Outline.entry entry).graph.dropsAt (a, place) = [] := by
    apply Graph.dropsAt_eq_nil
    intro id c hc
    rw [Outline.cell?_entry] at hc
    exact nomatch hc
  -- every other activation contributes nothing, and this one is expanded once
  have heach : ∀ c ∈ s.reached, (activationEffects p config c).filterMap
      (Effect.dropOf? (a, place)) = if c = a then f.dropSites place else [] := by
    intro c hc
    obtain ⟨g, hg⟩ := usable_expandFrom hp h hc
    rw [filterMap_dropOf?_activationEffects hp hg]
    by_cases hca : c = a
    · subst hca
      rw [hf] at hg
      cases hg
      rfl
    · simp [hca]
  have hnodup : (s.reached.map id).Nodup := by
    rw [List.map_id]
    exact (expansion_expandFrom h).1.reached.1
  rw [graph_expandFrom hp h, Outline.dropsAt_carryAll, hstart, List.nil_append,
    List.filterMap_flatMap, List.flatMap_congr heach]
  refine (flatMap_ite_of_nodup id (fun _ => f.dropSites place) a hnodup).trans ?_
  cases hfind : s.reached.find? fun c => decide (id c = a) with
  | some c => rfl
  | none => simpa using List.find?_eq_none.mp hfind a ha

theorem pointsTo_expandFrom (h : expandFrom p config entry = (s, none)) (id : Int) :
    s.graph.pointsTo id = ∅ := by
  unfold Graph.pointsTo
  split
  · rename_i c hc
    exact (seeded_expandFrom h).hollow id c hc
  · rfl

theorem reached_of_cell_of_runs (hp : p.Coherent) (h : expandFrom p config entry = (s, none))
    {r : Rules} {w : Stage} (hrun : Runs r ⟨s.graph, s.pending⟩ w) {id : Int} {c : Cell}
    (hc : w.graph.cell? id = some c) : c.activation ∈ s.reached := by
  cases hold : s.graph.cell? id with
  | none =>
    obtain ⟨_, d, hd, hactivation, _⟩ := (hrun.projects (seeded_expandFrom h) hc hold).slot
    have hreached := reached_of_cell hp h hd
    rw [hactivation] at hreached
    exact hreached
  | some d =>
    obtain ⟨c', hc', halike, _⟩ := (hrun.evolves (seeded_expandFrom h).placed).old id d hold
    rw [hc] at hc'
    cases hc'
    rw [halike.activation]
    exact reached_of_cell hp h hold

end Analyzed

/-- **The graph of an analysis is the one that the program induces.**  For every program that can
    be built, and every configuration and entry whose analysis succeeds: the edges are the flows
    that the blocks of the activations reached induce, where a call that is passed through or
    ignored induces none; the cells belong to activations reached, and the drop sites of a place
    are the blocks of the body that drop it, in their order and each once.  After the expansion
    nothing is held, and there is one seed for each cell with drop sites; no run of the
    propagation changes the edges or the drop sites. -/
theorem analyze_induces_exactly {p : Program} (hp : p.Built) {config : Config} {entry : Int}
    {s : State} (h : analyze p config entry = (s, none)) :
    (s.graph.Anchored ∧ ∀ u v, s.graph.Flows u v ↔ ∃ a ∈ s.reached, ∃ f,
      p.body a.function = .ok f ∧ ∃ b ∈ f.blocks, b.Induces p config a f u v) ∧
    (∀ a f (b : Block) c, b.terminator = .call c →
      ((resolve p config c.callee c.candidates).2 = .passthrough ∨
        (resolve p config c.callee c.candidates).2 = .ignored) →
      ∀ u v, b.Induces p config a f u v →
        ∃ m ∈ b.assignments, m.createsAlias = true ∧ u = (a, m.right) ∧ v = (a, m.left)) ∧
    (∀ id c, s.graph.cell? id = some c → c.activation ∈ s.reached) ∧
    (∀ a ∈ s.reached, ∀ f, p.body a.function = .ok f → ∀ place,
      s.graph.dropsAt (a, place) = f.dropSites place ∧
        ((f.dropSites place).map (·.block)).Nodup) ∧
    ∃ s₀, expandFrom p config entry = (s₀, none) ∧
      (∀ id, s₀.graph.pointsTo id = ∅) ∧ s₀.pending.Nodup ∧
      (∀ item, item ∈ s₀.pending ↔ ∃ id, s₀.graph.dropsOf id ≠ [] ∧ item = ⟨id, .singleton id⟩) ∧
      Runs (rules s₀.program config) ⟨s₀.graph, s₀.pending⟩ ⟨s.graph, []⟩ ∧
      ∀ w, Runs (rules s₀.program config) ⟨s₀.graph, s₀.pending⟩ w →
        w.graph.edges = s₀.graph.edges ∧ ∀ id, w.graph.dropsOf id = s₀.graph.dropsOf id := by
  have hanalyzed := analyzed_of_analyze hp.coherent h
  obtain ⟨s₀, hexpand, rfl⟩ := expandFrom_of_analyze h
  have hseeded := seeded_expandFrom hexpand
  have hrun : Runs (rules s₀.program config) ⟨s₀.graph, s₀.pending⟩
      ⟨(s₀.solve config entry).graph, []⟩ := runs_solve _ _ _
  refine ⟨⟨?_, ?_⟩, ?_, ?_, ?_, s₀, hexpand, pointsTo_expandFrom hexpand, ?_⟩
  · exact (hrun.evolves hseeded.placed).anchored hseeded.anchored
  · exact fun u v => hanalyzed.flows_iff hp.coherent
  · exact fun a f b c hterm hkind u v hinduces => hinduces.eq_assignment hterm hkind
  · exact fun id c hc => reached_of_cell_of_runs hp.coherent hexpand hrun hc
  · intro a ha f hf place
    constructor
    · rw [(hrun.evolves hseeded.placed).dropsAt]
      exact dropsAt_expandFrom hp.coherent hexpand ha hf place
    · exact (Program.nodup_of_body hf).sublist (f.sublist_dropSites place)
  · obtain ⟨hnodup, hmem⟩ := mem_pending_expandFrom hexpand
    refine ⟨hnodup, hmem, hrun, ?_⟩
    intro w hw
    have hevolves := hw.evolves hseeded.placed
    exact ⟨hevolves.edges, hevolves.dropsOf⟩

/-- The block of the walk that calls it again. -/
def walkAgain : Block where
  id := 0
  successors := [1]
  assignments := []
  terminator := .call ⟨"walk", [], [.move ⟨1, []⟩ {}], none, {}⟩
  cleanup := false

/-- The body of the walk. -/
def walkBody : Body where
  id := 1
  name := "walk"
  entry := 0
  slots := [{ slot := 0 }, { slot := 1 }]
  blocks := [walkAgain, ⟨1, [], [], .drop ⟨1, []⟩ {}, false⟩]

theorem body_walk : walkProgram.body 1 = .ok walkBody := eq_ok_of_toOption (by decide +kernel)

/-- The argument of the walk flows from one round into the next, where it is dropped. -/
theorem analyze_induces_exactly_walk :
    walkState.graph.Flows (⟨1, .call 0 0⟩, ⟨1, []⟩) (⟨1, .call 1 0⟩, ⟨1, []⟩) ∧
      walkState.graph.dropsAt (⟨1, .call 1 0⟩, ⟨1, []⟩) = [⟨1, 1, {}⟩] := by
  obtain ⟨⟨_, hflows⟩, _, _, hdrops, _⟩ := analyze_induces_exactly built_walk analyze_walk
  constructor
  · have htarget : 1 ∈ walkAgain.targets walkProgram {} := by decide +kernel
    have hargument : [Argument.move ⟨1, []⟩ {}][0]? = some (.move ⟨1, []⟩ {}) := rfl
    have hagain : walkAgain.Induces walkProgram {} ⟨1, .call 0 0⟩ walkBody
        (⟨1, .call 0 0⟩, ⟨1, []⟩) (⟨1, .call 1 0⟩, ⟨1, []⟩) :=
      .argument (i := 0) rfl htarget body_walk hargument rfl (by decide)
    have hreached : (⟨1, .call 0 0⟩ : Activation) ∈ walkState.reached := by decide +kernel
    exact (hflows _ _).mpr
      ⟨_, hreached, walkBody, body_walk, walkAgain, by simp [walkBody], hagain⟩
  · have hreached : (⟨1, .call 1 0⟩ : Activation) ∈ walkState.reached := by decide +kernel
    rw [(hdrops _ hreached walkBody body_walk ⟨1, []⟩).1]
    decide

end Flow

end DropFlow
