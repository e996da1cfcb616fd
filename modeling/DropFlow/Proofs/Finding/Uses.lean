/-
  DropFlow/Proofs/Finding/Uses.lean
  =================================
  Which uses of dropped objects are found, and in which block.

  A block uses a cell by an assignment through a pointer or by handing an argument over.
  The detection sees it as the edge between the two cells involved, and there is one such
  edge, at the site of the first effect that links them.  So a use in a block is found in
  this block exactly when some first link in the block uses the cell, and a later use
  between the same two cells is overlooked.
-/
import DropFlow.Proofs.Finding.Detection
import DropFlow.Proofs.Flow.Links

namespace DropFlow

open DropFlow.Flow

/-! ### 1. The links of a block -/

/-- What a block of an activation links: the sides of an assignment that makes an alias, and an
    argument that makes one with the parameter that it is bound to. -/
inductive Block.Links (p : Program) (config : Config) (a : Activation) (b : Block) :
    Activation × Place → Activation × Place → Location → Graph.Passing → Prop
  | assignment {s : Assignment} : s ∈ b.assignments → s.createsAlias = true →
      Links p config a b (a, s.right) (a, s.left) s.location .value
  | argument {c : Call} {t : Int} {g : Body} {i : Nat} {arg : Argument} :
      b.terminator = .call c → t ∈ b.targets p config → p.body t = .ok g →
      c.arguments[i]? = some arg → arg.createsAlias = true → (g.slot? (i + 1)).isSome = true →
      Links p config a b (a, arg.place) (⟨t, .call a.function b.id⟩, ⟨i + 1, []⟩) c.location
        .argument

/-- A link uses a cell: the cell is an end that is reached through a pointer, or any end of an
    argument that is handed over. -/
def Flow.Graph.Passing.Uses (passing : Graph.Passing) (x y cell : Activation × Place) : Prop :=
  (x = cell ∧ (passing = .argument ∨ x.2.hasDeref = true)) ∨
    (y = cell ∧ (passing = .argument ∨ y.2.hasDeref = true))

/-- What a block links is linked by one of its effects. -/
theorem Block.Links.exists_effect {p : Program} {config : Config} {a : Activation} {f : Body}
    {b : Block} {source target : Activation × Place} {location : Location}
    {passing : Graph.Passing} (h : b.Links p config a source target location passing) :
    ∃ e ∈ blockEffects p config a f b,
      e.linkOf? source target = some (⟨a.function, b.id, location⟩, passing) := by
  cases h with
  | assignment hs halias => exact Effect.exists_linkOf?_of_brings (.assignment hs halias)
  | argument hterm ht hg hi halias hslot =>
    exact Effect.exists_linkOf?_of_brings (.argument hterm ht hg hi halias hslot)

/-! ### 2. Where a use is detected -/

section Detection

variable {p : Program} {config : Config} {entry : Int} {s : State}

/-- An edge that a link makes uses the cells that the link uses. -/
theorem uses_linkEdge_iff {g : Graph} {x y cell : Activation × Place} {i j id : Int} {site : Site}
    {passing : Graph.Passing} (hi : g.find? x.1 x.2 = some i) (hj : g.find? y.1 y.2 = some j)
    (hid : g.find? cell.1 cell.2 = some id) :
    (linkEdge x y i j site passing).Uses id ↔ passing.Uses x y cell := by
  -- cells and addresses correspond
  have hend : ∀ {z : Activation × Place} {k : Int}, g.find? z.1 z.2 = some k →
      (k = id ↔ z = cell) := by
    intro z k hk
    constructor
    · rintro rfl
      exact LinksExact.address_eq_of_find? hk hid
    · rintro rfl
      rw [hk] at hid
      exact Option.some.inj hid
  unfold Edge.Uses Graph.Passing.Uses
  cases passing with
  | value => simp [linkEdge, hend hi, hend hj]
  | argument => simp [linkEdge, hend hi, hend hj]

/-- Where the edges of an analysis use a cell: at the first links that use it. -/
theorem Flow.Analyzed.exists_edge_uses_iff (h : Analyzed p config entry s)
    {cell : Activation × Place} {id : Int} (hid : s.graph.find? cell.1 cell.2 = some id)
    {site : Site} : (∃ e ∈ s.graph.edges.toList, e.site = site ∧ e.Uses id) ↔
      ∃ x y passing, firstLink (s.reached.flatMap (activationEffects p config)) x y =
        some (site, passing) ∧ passing.Uses x y cell := by
  have hsite : ∀ {x y : Activation × Place} {i j : Int} {site : Site} {passing : Graph.Passing},
      (linkEdge x y i j site passing).site = site := by
    intro x y i j site passing
    cases passing <;> rfl
  constructor
  · rintro ⟨e, he, rfl, huse⟩
    obtain ⟨x, y, site, passing, hlink, hx, hy, heq⟩ := h.linksExact.sound e he
    rw [heq, uses_linkEdge_iff hx hy hid] at huse
    refine ⟨x, y, passing, ?_, huse⟩
    rw [heq, hsite]
    exact hlink
  · rintro ⟨x, y, passing, hlink, huse⟩
    obtain ⟨i, j, hi, hj, he⟩ := h.linksExact.complete x y site passing hlink
    exact ⟨_, he, hsite, (uses_linkEdge_iff hi hj hid).mpr huse⟩

theorem Flow.Analyzed.bounded_after (h : Analyzed p config entry s) :
    s.calls.Bounded s.program.size := by
  rw [h.later.alike.size]
  exact h.bounded

/-- The oracle after an analysis confirms what the recorded calls and the successors lead to. -/
theorem Flow.Analyzed.canReach_eq_some_true_iff (hp : p.Coherent) (h : Analyzed p config entry s)
    (first second : BlockRef) :
    ((Oracle.make s.program s.calls).canReach first second).2 = some true ↔
      s.calls.Reaches s.program first second := by
  have hknows := Oracle.knows_make s.program s.calls Traversals.exact_own
  obtain ⟨_, r, hr, hiff⟩ :=
    Oracle.canReach_spec (h.later.coherent hp) h.bounded_after hknows first second
  rw [hr, Option.some_inj, hiff]

/-- The detection after an analysis always answers, and finds the suspect uses that the oracle
    confirms. -/
theorem Flow.Analyzed.detects (hp : p.Coherent) (h : Analyzed p config entry s) :
    ∃ d, (detect s.graph (Oracle.make s.program s.calls)).2 = some d ∧ ∀ u, u ∈ d.uses ↔
      u ∈ allUses s.graph ∧ ((Oracle.make s.program s.calls).canReach u.firstSite.blockRef
        u.secondSite.blockRef).2 = some true := by
  have hknows := Oracle.knows_make s.program s.calls Traversals.exact_own
  obtain ⟨_, d, hd, huses, _⟩ :=
    detect_spec (h.later.coherent hp) h.bounded_after hknows s.graph
  refine ⟨d, hd, fun u => (huses u).trans (and_congr_right fun _ => ?_)⟩
  exact (h.canReach_eq_some_true_iff hp _ _).symm

theorem Flow.Analyzed.exists_firstLink (hp : p.Coherent) {a : Activation} (ha : a ∈ s.reached)
    {f : Body} (hf : p.body a.function = .ok f) {b : Block} (hb : b ∈ f.blocks)
    {source target : Activation × Place} {location : Location} {passing : Graph.Passing}
    (h : b.Links p config a source target location passing) :
    ∃ first how, firstLink (s.reached.flatMap (activationEffects p config)) source target =
      some (first, how) := by
  obtain ⟨e, he, hlink⟩ := h.exists_effect (f := f)
  have hmem : e ∈ s.reached.flatMap (activationEffects p config) := by
    refine List.mem_flatMap.mpr ⟨a, ha, ?_⟩
    unfold activationEffects
    rw [hp.fetch_body, hf]
    exact List.mem_flatMap.mpr ⟨b, hb, he⟩
  have hsome : (firstLink (s.reached.flatMap (activationEffects p config)) source target).isSome =
      true := by
    unfold firstLink
    rw [List.findSome?_isSome_iff]
    exact ⟨e, hmem, by rw [hlink]; rfl⟩
  obtain ⟨⟨first, how⟩, hfirst⟩ := Option.isSome_iff_exists.mp hsome
  exact ⟨first, how, hfirst⟩

end Detection

/-- A use that may come after a drop: a block of an activation that is reached uses a cell, the
    cell may point to an object, and the object is dropped in another block from which this one
    can be reached. -/
structure LateUse (p : Program) (config : Config) (s : State) (a : Activation) (b : Block)
    (source target cell : Activation × Place) (id object : Int) (drop : Site) : Prop where
  reached : a ∈ s.reached
  block : ∃ f, p.body a.function = .ok f ∧ b ∈ f.blocks
  uses : ∃ location passing, b.Links p config a source target location passing ∧
    passing.Uses source target cell
  found : s.graph.find? cell.1 cell.2 = some id
  held : object ∈ s.graph.pointsTo id
  dropped : drop ∈ s.graph.dropsOf object
  apart : drop.blockRef ≠ ⟨a.function, b.id⟩
  reaches : ((Oracle.make s.program s.calls).canReach drop.blockRef ⟨a.function, b.id⟩).2 =
    some true

/-- **A use after a drop is found at the first link between its cells.**  For every program that
    can be built and every entry whose analysis succeeds, the detection answers; a late use is
    found in its block exactly when a first link in this block uses its cell, and in any case at
    the first link between its own two cells, if this uses the cell and may come after the drop. -/
theorem detect_lateUse {p : Program} (hp : p.Built) {config : Config} {entry : Int} {s : State}
    (h : analyze p config entry = (s, none)) {a : Activation} {b : Block}
    {source target cell : Activation × Place} {id object : Int} {drop : Site}
    (huse : LateUse p config s a b source target cell id object drop) :
    ∃ d, (detect s.graph (Oracle.make s.program s.calls)).2 = some d ∧
      ((∃ site, site.blockRef = ⟨a.function, b.id⟩ ∧ ⟨object, drop, id, site⟩ ∈ d.uses) ↔
        ∃ x y site how, firstLink (s.reached.flatMap (activationEffects p config)) x y =
          some (site, how) ∧ site.blockRef = ⟨a.function, b.id⟩ ∧ how.Uses x y cell) ∧
      ∃ first how, firstLink (s.reached.flatMap (activationEffects p config)) source target =
        some (first, how) ∧
        (how.Uses source target cell → drop.blockRef ≠ first.blockRef →
          ((Oracle.make s.program s.calls).canReach drop.blockRef first.blockRef).2 = some true →
          ⟨object, drop, id, first⟩ ∈ d.uses) := by
  have hanalyzed := analyzed_of_analyze hp.coherent h
  obtain ⟨d, hd, huses⟩ := hanalyzed.detects hp.coherent
  -- where the drop is apart and comes before, only the edges of the cell matter
  have hfound : ∀ site, drop.blockRef ≠ site.blockRef →
      ((Oracle.make s.program s.calls).canReach drop.blockRef site.blockRef).2 = some true →
      (⟨object, drop, id, site⟩ ∈ d.uses ↔ ∃ x y how,
        firstLink (s.reached.flatMap (activationEffects p config)) x y = some (site, how) ∧
          how.Uses x y cell) := by
    intro site hapart hreach
    rw [huses, mem_allUses, ← hanalyzed.exists_edge_uses_iff huse.found]
    constructor
    · rintro ⟨⟨hedge, _⟩, _⟩
      exact hedge
    · intro hedge
      exact ⟨⟨hedge, huse.held, huse.dropped, Suspicion.isApart_iff.mpr hapart⟩, hreach⟩
  refine ⟨d, hd, ?_, ?_⟩
  · constructor
    · rintro ⟨site, hsite, hmem⟩
      obtain ⟨x, y, how, hlink, hcell⟩ :=
        (hfound site (hsite ▸ huse.apart) (hsite ▸ huse.reaches)).mp hmem
      exact ⟨x, y, site, how, hlink, hsite, hcell⟩
    · rintro ⟨x, y, site, how, hlink, hsite, hcell⟩
      refine ⟨site, hsite, ?_⟩
      exact (hfound site (hsite ▸ huse.apart) (hsite ▸ huse.reaches)).mpr ⟨x, y, how, hlink, hcell⟩
  · obtain ⟨f, hf, hb⟩ := huse.block
    obtain ⟨location, passing, hlinks, _⟩ := huse.uses
    obtain ⟨first, how, hfirst⟩ := Analyzed.exists_firstLink hp.coherent huse.reached hf hb hlinks
    refine ⟨first, how, hfirst, fun hcell hapart hreach => ?_⟩
    exact (hfound first hapart hreach).mpr ⟨source, target, how, hfirst, hcell⟩

/-! ### 3. A use that is overlooked -/

/-- A block that copies what a pointer leads to. -/
def copying (id : Int) (successors : List Int) (slot line : Int) : Source.Block where
  id := id
  successors := successors
  statements := [{
    left := ⟨slot, []⟩
    rvalue := { kind := "copy", place := some ⟨1, [.deref]⟩ }
    location := { line := line } }]

/-- The copy of such a block. -/
def copyInto (slot line : Int) : Assignment :=
  ⟨⟨slot, []⟩, ⟨1, [.deref]⟩, {}, .copy, { line := line }⟩

/-- What such a block lowers to. -/
def copied (id : Int) (successors : List Int) (slot line : Int) : Block :=
  ⟨id, successors, [copyInto slot line], .plain, false⟩

/-- A function that makes one copy before a drop and again after it, and then another one. -/
def revisited : Source.Function where
  name := "main"
  blocks := [copying 0 [1] 2 1,
    { id := 1
      successors := [2]
      drop := some { place := ⟨1, [.deref]⟩, location := { line := 2 } } },
    copying 2 [3] 2 3,
    copying 3 [] 3 4]

/-- The program of this function alone. -/
def revisitedProgram : Program := { entries := #[{ source := revisited }] }

/-- What its analysis leaves behind. -/
def revisitedState : State := (analyze revisitedProgram {} 0).1

theorem built_revisited : revisitedProgram.Built :=
  Program.built_of_names [revisited] (by decide) (by decide)

theorem analyze_revisited : analyze revisitedProgram {} 0 = (revisitedState, none) :=
  Prod.ext rfl (by decide +kernel)

theorem edges_revisited : revisitedState.graph.edges.toList =
    [⟨0, 1, ⟨0, 0, { line := 1 }⟩, true, false⟩, ⟨0, 2, ⟨0, 3, { line := 4 }⟩, true, false⟩] := by
  rw [(evolves_of_analyze analyze_revisited).edges]
  decide +kernel

/-- The copies after the drop are late uses, the one made before as well as the other one. -/
theorem lateUse_revisited {id slot line : Int} {successors : List Int}
    (hblock : copied id successors slot line ∈ [copied 2 [3] 2 3, copied 3 [] 3 4]) :
    LateUse revisitedProgram {} revisitedState ⟨0, .entry⟩ (copied id successors slot line)
      (⟨0, .entry⟩, ⟨1, [.deref]⟩) (⟨0, .entry⟩, ⟨slot, []⟩) (⟨0, .entry⟩, ⟨1, [.deref]⟩) 0 0
      ⟨0, 1, { line := 2 }⟩ := by
  have hanalyzed := analyzed_of_analyze built_revisited.coherent analyze_revisited
  have hevolves := evolves_of_analyze analyze_revisited
  have hdrops : revisitedState.graph.dropsOf 0 = [⟨0, 1, { line := 2 }⟩] := by
    rw [hevolves.dropsOf]
    decide +kernel
  have hapart : ∀ b ∈ [copied 2 [3] 2 3, copied 3 [] 3 4], b.id ≠ 1 := by decide
  have hnext : 2 ∈ revisitedState.program.successors 0 1 ∧
      3 ∈ revisitedState.program.successors 0 2 := by decide +kernel
  have hreach : ∀ b ∈ [copied 2 [3] 2 3, copied 3 [] 3 4],
      revisitedState.calls.Reaches revisitedState.program ⟨0, 1⟩ ⟨0, b.id⟩ := by
    have htwo : revisitedState.calls.Reaches revisitedState.program ⟨0, 1⟩ ⟨0, 2⟩ :=
      .single (.next hnext.1)
    simpa [copied] using ⟨htwo, htwo.tail (.next hnext.2)⟩
  have hbody : revisitedProgram.body 0 = .ok ⟨0, "main", 0, [], [copied 0 [1] 2 1,
      ⟨1, [2], [], .drop ⟨1, [.deref]⟩ { line := 2 }, false⟩, copied 2 [3] 2 3, copied 3 [] 3 4]⟩ :=
    eq_ok_of_toOption (by decide +kernel)
  exact
    { reached := by decide +kernel
      block := ⟨_, hbody, List.mem_cons_of_mem _ (List.mem_cons_of_mem _ hblock)⟩
      uses := ⟨{ line := line }, .value,
        .assignment (s := copyInto slot line) List.mem_cons_self rfl, Or.inl ⟨rfl, Or.inr rfl⟩⟩
      found := hevolves.find? (by decide +kernel)
      held := hanalyzed.closed.seeds 0 (by rw [hdrops]; exact List.cons_ne_nil _ _)
      dropped := by rw [hdrops]; exact List.mem_cons_self
      apart := fun heq => hapart _ hblock (congrArg BlockRef.block heq).symm
      reaches := (hanalyzed.canReach_eq_some_true_iff built_revisited.coherent _ _).mpr
        (hreach _ hblock) }

/-- The copy into a new place is found in its block. -/
theorem detect_lateUse_revisited :
    LateUse revisitedProgram {} revisitedState ⟨0, .entry⟩ (copied 3 [] 3 4)
      (⟨0, .entry⟩, ⟨1, [.deref]⟩) (⟨0, .entry⟩, ⟨3, []⟩) (⟨0, .entry⟩, ⟨1, [.deref]⟩) 0 0
      ⟨0, 1, { line := 2 }⟩ ∧
    ∃ d, (detect revisitedState.graph
        (Oracle.make revisitedState.program revisitedState.calls)).2 = some d ∧
      ∃ site, site.blockRef = ⟨0, 3⟩ ∧ ⟨0, ⟨0, 1, { line := 2 }⟩, 0, site⟩ ∈ d.uses := by
  have huse := lateUse_revisited (List.mem_cons_of_mem _ List.mem_cons_self)
  obtain ⟨d, hd, hfound, _⟩ := detect_lateUse built_revisited analyze_revisited huse
  refine ⟨huse, d, hd, hfound.mpr ?_⟩
  refine ⟨(⟨0, .entry⟩, ⟨1, [.deref]⟩), (⟨0, .entry⟩, ⟨3, []⟩), ⟨0, 3, { line := 4 }⟩, .value, ?_,
    rfl, Or.inl ⟨rfl, Or.inr rfl⟩⟩
  decide +kernel

/-- The second copy into the same place is a late use as well, but it is not found in its block:
    the only edge between the two cells has the site of the first copy. -/
theorem lateUse_overlooked :
    LateUse revisitedProgram {} revisitedState ⟨0, .entry⟩ (copied 2 [3] 2 3)
      (⟨0, .entry⟩, ⟨1, [.deref]⟩) (⟨0, .entry⟩, ⟨2, []⟩) (⟨0, .entry⟩, ⟨1, [.deref]⟩) 0 0
      ⟨0, 1, { line := 2 }⟩ ∧
    ∃ d, (detect revisitedState.graph
        (Oracle.make revisitedState.program revisitedState.calls)).2 = some d ∧
      ¬ ∃ site, site.blockRef = ⟨0, 2⟩ ∧ ⟨0, ⟨0, 1, { line := 2 }⟩, 0, site⟩ ∈ d.uses := by
  refine ⟨lateUse_revisited List.mem_cons_self, ?_⟩
  have hanalyzed := analyzed_of_analyze built_revisited.coherent analyze_revisited
  obtain ⟨d, hd, huses⟩ := hanalyzed.detects built_revisited.coherent
  refine ⟨d, hd, ?_⟩
  rintro ⟨site, hsite, hmem⟩
  obtain ⟨⟨e, he, rfl, _⟩, _⟩ := mem_allUses.mp ((huses _).mp hmem).1
  have hnone : ∀ e ∈ revisitedState.graph.edges.toList, e.site.blockRef ≠ ⟨0, 2⟩ := by
    rw [edges_revisited]
    decide
  exact hnone e he hsite

end DropFlow
