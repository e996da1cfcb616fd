/-
  DropFlow/Proofs/Flow/Step.lean
  ==============================
  One step of the propagation, measured against the rules of the propagation.

  `Owes` states the four rules: a dropped cell holds itself, objects flow along edges,
  objects of a place belong to its parts, and a part of a source flows into the same
  part of the target.  The main statement, `propagate_spec`, says that a step either
  brings nothing new, or hands on exactly what the rules demand of the objects that it
  has added: nothing that they do not demand (`new`, `sound`), and everything that they
  demand and did not demand before (`complete`).
-/
import DropFlow.Proofs.Flow.Cells

namespace DropFlow.Flow

/-! ### 1. The rules -/

/-- The objects that the rules demand at an address, given what the cells hold now.  Places
    deeper than the limit are not created. -/
inductive Owes (limit : Nat) (g : Graph) : Activation × Place → Int → Prop
  /-- A dropped cell holds itself. -/
  | seed {id : Int} {c : Cell} : g.cell? id = some c → c.isObject = true →
      Owes limit g c.address id
  /-- What the source of an edge holds flows into its target. -/
  | flow {e : Edge} {s t : Cell} {o : Int} : e ∈ g.edges.toList → g.cell? e.source = some s →
      g.cell? e.target = some t → o ∈ s.objects → Owes limit g t.address o
  /-- What a place holds, its parts hold. -/
  | part {i j : Int} {c d : Cell} {o : Int} : g.cell? i = some c → g.cell? j = some d →
      c.activation = d.activation → c.place.StrictPrefix d.place → o ∈ c.objects →
      Owes limit g d.address o
  /-- What a part of a source holds flows into the same part of the target. -/
  | same {e : Edge} {s t : Cell} {j : Int} {c : Cell} {o : Int} : e ∈ g.edges.toList →
      g.cell? e.source = some s → g.cell? e.target = some t → g.cell? j = some c →
      s.activation = c.activation → s.place.StrictPrefix c.place → o ∈ c.objects →
      (t.place.append (s.place.stepsTo c.place)).depth ≤ limit →
      Owes limit g (t.activation, t.place.append (s.place.stepsTo c.place)) o

/-- The ends of all edges are cells. -/
def Graph.Anchored (g : Graph) : Prop :=
  ∀ e ∈ g.edges.toList, (∃ s, g.cell? e.source = some s) ∧ ∃ t, g.cell? e.target = some t

/-! ### 2. Absorbing objects -/

theorem cell?_absorb (g : Graph) (id j : Int) (delta : IdSet) :
    (absorb g id delta).cell? j =
      if j = id then (g.cell? j).map fun c => { c with objects := c.objects.union delta }
      else g.cell? j := by
  have hcells : (absorb g id delta).cell? j = (g.addObjects id delta).cell? j := by
    unfold Graph.cell?
    rw [cells_absorb]
  rw [hcells, Graph.cell?_addObjects]

@[simp] theorem edges_absorb (g : Graph) (id : Int) (delta : IdSet) :
    (absorb g id delta).edges = g.edges := by
  unfold absorb Graph.markMultiDrop
  dsimp only
  split
  · split <;> exact Graph.edges_addObjects g id delta
  · exact Graph.edges_addObjects g id delta

theorem exists_cell_of_absorb {g : Graph} {id j : Int} {delta : IdSet} {d : Cell}
    (h : (absorb g id delta).cell? j = some d) :
    ∃ d₀, g.cell? j = some d₀ ∧ d₀.Alike d ∧
      ∀ o, o ∈ d.objects ↔ o ∈ d₀.objects ∨ (j = id ∧ o ∈ delta) := by
  rw [cell?_absorb] at h
  split at h
  · rename_i hj
    obtain ⟨d₀, hd₀, rfl⟩ := Option.map_eq_some_iff.mp h
    exact ⟨d₀, hd₀, ⟨rfl, rfl, rfl, rfl⟩, fun o => by simp [hj]⟩
  · rename_i hj
    exact ⟨d, h, ⟨rfl, rfl, rfl, rfl⟩, fun o => by simp [hj]⟩

theorem exists_cell_absorb {g : Graph} {j : Int} {d₀ : Cell} (h : g.cell? j = some d₀) (id : Int)
    (delta : IdSet) : ∃ d, (absorb g id delta).cell? j = some d ∧ d₀.Alike d ∧
      ∀ o, o ∈ d.objects ↔ o ∈ d₀.objects ∨ (j = id ∧ o ∈ delta) := by
  have hsome : ∃ d, (absorb g id delta).cell? j = some d := by
    rw [cell?_absorb]
    split
    · exact ⟨_, by rw [h, Option.map_some]⟩
    · exact ⟨d₀, h⟩
  obtain ⟨d, hd⟩ := hsome
  obtain ⟨d₁, hd₁, hrest⟩ := exists_cell_of_absorb hd
  rw [h] at hd₁
  cases hd₁
  exact ⟨d, hd, hrest⟩

/-! ### 3. Offering objects to places -/

/-- What has become of a list of places to which objects were offered. -/
structure Offered (r : Rules) (delta : IdSet) (places : List (Activation × Place)) (g : Graph)
    (next : Progress) : Prop where
  ext : g.Extends next.graph
  given : ∀ a p, (a, p) ∈ places → p.depth ≤ r.limit →
    ∃ id, next.graph.find? a p = some id ∧ ⟨id, delta⟩ ∈ next.work
  new : ∀ id c, next.graph.cell? id = some c → g.cell? id = none →
    c.address ∈ places ∧ c.place.depth ≤ r.limit
  inherits : ∀ id c, next.graph.cell? id = some c → g.cell? id = none →
    ∀ j d, g.cell? j = some d → d.activation = c.activation →
      d.place.StrictPrefix c.place → d.objects.isEmpty = false →
      ⟨id, d.objects⟩ ∈ next.work
  sound : ∀ item ∈ next.work, ∃ c, next.graph.cell? item.cell = some c ∧
    (item.objects = delta ∧ c.address ∈ places ∧ c.place.depth ≤ r.limit ∨
      ∃ j d, g.cell? j = some d ∧ d.activation = c.activation ∧
        d.place.StrictPrefix c.place ∧ d.objects.isEmpty = false ∧
        item.objects = d.objects)

theorem mem_inherited {g : Graph} {a : Activation} {p : Place} {id : Int} {item : WorkItem} :
    item ∈ inherited g a p id ↔ ∃ j d, g.cell? j = some d ∧ d.activation = a ∧
      d.place.StrictPrefix p ∧ d.objects.isEmpty = false ∧ item = ⟨id, d.objects⟩ := by
  unfold inherited
  rw [List.mem_map]
  constructor
  · rintro ⟨⟨j, d⟩, hm, rfl⟩
    obtain ⟨hm, hcond⟩ := List.mem_filter.mp hm
    simp only [Bool.and_eq_true, Bool.not_eq_true'] at hcond
    obtain ⟨hd, ha, _⟩ := Graph.mem_slotCells.mp hm
    exact ⟨j, d, hd, ha, Place.strictlyCovers_iff.mp hcond.1, hcond.2, rfl⟩
  · rintro ⟨j, d, hd, ha, hcov, hne, rfl⟩
    refine ⟨(j, d), List.mem_filter.mpr ⟨?_, ?_⟩, rfl⟩
    · exact Graph.mem_slotCells.mpr ⟨hd, ha, hcov.1⟩
    · simp [Place.strictlyCovers_iff.mpr hcov, hne]

theorem offered_offer (r : Rules) (delta : IdSet) (g : Graph) {a : Activation} {p : Place}
    (hdepth : p.depth ≤ r.limit) :
    Offered r delta [(a, p)] g ⟨(offer r g delta a p).1, (offer r g delta a p).2, []⟩ := by
  unfold offer
  cases hf : g.find? a p with
  | some id =>
    dsimp only
    refine ⟨Graph.Extends.refl g, ?_, ?_, ?_, ?_⟩
    · intro a' p' hm _
      rw [List.mem_singleton, Prod.mk.injEq] at hm
      obtain ⟨rfl, rfl⟩ := hm
      exact ⟨id, hf, List.mem_singleton.mpr rfl⟩
    · intro i c hc hnone
      rw [hnone] at hc
      exact nomatch hc
    · intro i c hc hnone
      rw [hnone] at hc
      exact nomatch hc
    · intro item hitem
      rw [List.mem_singleton] at hitem
      subst hitem
      obtain ⟨c, hc, hca⟩ := Graph.find?_eq_some_iff.mp hf
      refine ⟨c, hc, Or.inl ⟨rfl, List.mem_singleton.mpr hca, ?_⟩⟩
      have hplace : c.place = p := congrArg Prod.snd hca
      rw [hplace]
      exact hdepth
  | none =>
    dsimp only
    have hext := Graph.extends_ensure g a p (r.name a.function p)
    have hfind := Graph.find?_ensure g a p (r.name a.function p)
    obtain ⟨new, hnew, haddr⟩ := Graph.find?_eq_some_iff.mp hfind
    have hact : new.activation = a := congrArg Prod.fst haddr
    have hplace : new.place = p := congrArg Prod.snd haddr
    refine ⟨hext, ?_, ?_, ?_, ?_⟩
    · intro a' p' hm _
      rw [List.mem_singleton, Prod.mk.injEq] at hm
      obtain ⟨rfl, rfl⟩ := hm
      exact ⟨_, hfind, List.mem_append_right _ (List.mem_singleton.mpr rfl)⟩
    · intro id c hc hnone
      obtain ⟨_, hca⟩ := Graph.eq_ensure_of_new hc hnone
      have hcp : c.place = p := congrArg Prod.snd hca
      exact ⟨List.mem_singleton.mpr hca, hcp ▸ hdepth⟩
    · intro id c hc hnone j d hd hda hcov hne
      obtain ⟨rfl, hca⟩ := Graph.eq_ensure_of_new hc hnone
      have hcact : c.activation = a := congrArg Prod.fst hca
      have hcp : c.place = p := congrArg Prod.snd hca
      refine List.mem_append_left _ (mem_inherited.mpr ⟨j, d, hext.old j d hd, ?_, ?_, hne, rfl⟩)
      · exact hda.trans hcact
      · exact hcp ▸ hcov
    · intro item hitem
      rcases List.mem_append.mp hitem with hitem | hitem
      · obtain ⟨j, d, hd, hda, hcov, hne, rfl⟩ := mem_inherited.mp hitem
        have hold : g.cell? j = some d :=
          hext.old_of_nonempty hd (Or.inl (IdSet.isEmpty_eq_false_iff.mp hne))
        refine ⟨new, hnew, Or.inr ⟨j, d, hold, hda.trans hact.symm, ?_, hne, rfl⟩⟩
        rw [hplace]
        exact hcov
      · rw [List.mem_singleton] at hitem
        subst hitem
        exact ⟨new, hnew, Or.inl ⟨rfl, List.mem_singleton.mpr haddr, hplace ▸ hdepth⟩⟩

theorem Offered.append {r : Rules} {delta : IdSet} {ps qs : List (Activation × Place)} {g : Graph}
    {first second : Progress} (h₁ : Offered r delta ps g first)
    (h₂ : Offered r delta qs first.graph second) (notices : List Notice) :
    Offered r delta (ps ++ qs) g ⟨second.graph, first.work ++ second.work, notices⟩ := by
  refine ⟨h₁.ext.trans h₂.ext, ?_, ?_, ?_, ?_⟩
  · intro a p hm hdepth
    rcases List.mem_append.mp hm with hm | hm
    · obtain ⟨id, hid, hw⟩ := h₁.given a p hm hdepth
      exact ⟨id, h₂.ext.find? hid, List.mem_append_left _ hw⟩
    · obtain ⟨id, hid, hw⟩ := h₂.given a p hm hdepth
      exact ⟨id, hid, List.mem_append_right _ hw⟩
  · intro id c hc hnone
    cases hfirst : first.graph.cell? id with
    | none =>
      obtain ⟨hm, hdepth⟩ := h₂.new id c hc hfirst
      exact ⟨List.mem_append_right _ hm, hdepth⟩
    | some c' =>
      rw [h₂.ext.old id c' hfirst] at hc
      cases hc
      obtain ⟨hm, hdepth⟩ := h₁.new id c hfirst hnone
      exact ⟨List.mem_append_left _ hm, hdepth⟩
  · intro id c hc hnone j d hd hact hcov hne
    cases hfirst : first.graph.cell? id with
    | none =>
      exact List.mem_append_right _
        (h₂.inherits id c hc hfirst j d (h₁.ext.old j d hd) hact hcov hne)
    | some c' =>
      rw [h₂.ext.old id c' hfirst] at hc
      cases hc
      exact List.mem_append_left _ (h₁.inherits id c hfirst hnone j d hd hact hcov hne)
  · intro item hitem
    rcases List.mem_append.mp hitem with hitem | hitem
    · obtain ⟨c, hc, hwhy⟩ := h₁.sound item hitem
      refine ⟨c, h₂.ext.old _ c hc, ?_⟩
      rcases hwhy with ⟨ho, hm, hdepth⟩ | hwhy
      · exact Or.inl ⟨ho, List.mem_append_left _ hm, hdepth⟩
      · exact Or.inr hwhy
    · obtain ⟨c, hc, hwhy⟩ := h₂.sound item hitem
      refine ⟨c, hc, ?_⟩
      rcases hwhy with ⟨ho, hm, hdepth⟩ | ⟨j, d, hd, hact, hcov, hne, ho⟩
      · exact Or.inl ⟨ho, List.mem_append_right _ hm, hdepth⟩
      · have hold : g.cell? j = some d :=
          h₁.ext.old_of_nonempty hd (Or.inl (IdSet.isEmpty_eq_false_iff.mp hne))
        exact Or.inr ⟨j, d, hold, hact, hcov, hne, ho⟩

theorem Offered.skip {r : Rules} {delta : IdSet} {places : List (Activation × Place)} {g : Graph}
    {next : Progress} (h : Offered r delta places g next) {a : Activation} {p : Place}
    (hdepth : r.limit < p.depth) (notices : List Notice) :
    Offered r delta ((a, p) :: places) g { next with notices := notices } := by
  refine ⟨h.ext, ?_, ?_, h.inherits, ?_⟩
  · intro a' p' hm hle
    rcases List.mem_cons.mp hm with heq | hm
    · cases heq
      omega
    · exact h.given a' p' hm hle
  · intro id c hc hnone
    obtain ⟨hm, hle⟩ := h.new id c hc hnone
    exact ⟨List.mem_cons_of_mem _ hm, hle⟩
  · intro item hitem
    obtain ⟨c, hc, hwhy⟩ := h.sound item hitem
    refine ⟨c, hc, ?_⟩
    rcases hwhy with ⟨ho, hm, hle⟩ | hwhy
    · exact Or.inl ⟨ho, List.mem_cons_of_mem _ hm, hle⟩
    · exact Or.inr hwhy

theorem offered_offerAll (r : Rules) (delta : IdSet) (places : List (Activation × Place)) :
    ∀ g, Offered r delta places g (offerAll r delta places g) := by
  induction places with
  | nil =>
    intro g
    refine ⟨Graph.Extends.refl g, ?_, ?_, ?_, ?_⟩
    · intro a p hm
      cases hm
    · intro id c hc hnone
      rw [offerAll, hnone] at hc
      cases hc
    · intro id c hc hnone
      rw [offerAll, hnone] at hc
      cases hc
    · intro item hitem
      cases hitem
  | cons head rest ih =>
    obtain ⟨a, p⟩ := head
    intro g
    simp only [offerAll]
    split
    · rename_i hdepth
      exact (ih g).skip hdepth _
    · rename_i hdepth
      have hfirst := offered_offer r delta g (a := a) (Nat.le_of_not_lt hdepth)
      exact hfirst.append (ih (offer r g delta a p).1) _

/-! ### 4. The step -/

theorem mem_deeperCells {g : Graph} {c : Cell} {j : Int} :
    j ∈ deeperCells g c ↔ ∃ d, g.cell? j = some d ∧ c.activation = d.activation ∧
      c.place.StrictPrefix d.place := by
  unfold deeperCells
  rw [List.mem_map]
  constructor
  · rintro ⟨⟨k, d⟩, hm, rfl⟩
    obtain ⟨hm, hcov⟩ := List.mem_filter.mp hm
    obtain ⟨hd, ha, _⟩ := Graph.mem_slotCells.mp hm
    exact ⟨d, hd, ha.symm, Place.strictlyCovers_iff.mp hcov⟩
  · rintro ⟨d, hd, ha, hcov⟩
    refine ⟨(j, d), List.mem_filter.mpr ⟨?_, Place.strictlyCovers_iff.mpr hcov⟩, rfl⟩
    exact Graph.mem_slotCells.mpr ⟨hd, ha.symm, hcov.1.symm⟩

theorem mem_sameParts {g : Graph} {c : Cell} {address : Activation × Place} :
    address ∈ sameParts g c ↔ ∃ e ∈ g.edges.toList, ∃ s t, g.cell? e.source = some s ∧
      g.cell? e.target = some t ∧ s.activation = c.activation ∧
      s.place.StrictPrefix c.place ∧
      address = (t.activation, t.place.append (s.place.stepsTo c.place)) := by
  unfold sameParts
  rw [List.mem_flatMap]
  constructor
  · rintro ⟨⟨i, s⟩, hm, hp⟩
    obtain ⟨hm, hcov⟩ := List.mem_filter.mp hm
    obtain ⟨hs, ha, _⟩ := Graph.mem_slotCells.mp hm
    obtain ⟨target, htarget, hp⟩ := List.mem_filterMap.mp hp
    obtain ⟨e, he, hsource, rfl⟩ := Graph.mem_successors.mp htarget
    obtain ⟨t, ht, rfl⟩ := Option.map_eq_some_iff.mp hp
    exact ⟨e, he, s, t, hsource ▸ hs, ht, ha, Place.strictlyCovers_iff.mp hcov, rfl⟩
  · rintro ⟨e, he, s, t, hs, ht, ha, hcov, rfl⟩
    refine ⟨(e.source, s), List.mem_filter.mpr ⟨?_, Place.strictlyCovers_iff.mpr hcov⟩, ?_⟩
    · exact Graph.mem_slotCells.mpr ⟨hs, ha, hcov.1⟩
    · refine List.mem_filterMap.mpr ⟨e.target, Graph.mem_successors.mpr ⟨e, he, rfl, rfl⟩, ?_⟩
      rw [ht, Option.map_some]

/-- What a step does that adds objects to a cell: it absorbs them, and hands on what the rules
    demand. -/
structure Advance (limit : Nat) (g : Graph) (id : Int) (delta : IdSet) (g' : Graph)
    (work : List WorkItem) : Prop where
  ext : (absorb g id delta).Extends g'
  /-- A new cell is demanded by the rules. -/
  new : ∀ j d, g'.cell? j = some d → (absorb g id delta).cell? j = none →
    ∃ o, Owes limit (absorb g id delta) d.address o
  /-- All work is demanded by the rules. -/
  sound : ∀ item ∈ work, ∃ d, g'.cell? item.cell = some d ∧
    ∀ o ∈ item.objects, Owes limit g' d.address o
  /-- What the rules demand is work, or they demanded it before. -/
  complete : ∀ address o, Owes limit g' address o → Owes limit g address o ∨
    ∃ j, g'.find? address.1 address.2 = some j ∧ ∃ item ∈ work, item.cell = j ∧ o ∈ item.objects

section HandOn

variable {r : Rules} {g : Graph} {id : Int} {c₁ : Cell} {delta : IdSet}

/-- Handing objects on only creates cells that the rules demand. -/
theorem new_handOn (hc₁ : (absorb g id delta).cell? id = some c₁)
    (hsub : ∀ o ∈ delta, o ∈ c₁.objects) (hne : ∃ o, o ∈ delta) {j : Int} {d : Cell}
    (hd : (handOn r (absorb g id delta) id c₁ delta).graph.cell? j = some d)
    (hnone : (absorb g id delta).cell? j = none) :
    ∃ o, Owes r.limit (absorb g id delta) d.address o := by
  have hoff := offered_offerAll r delta (sameParts (absorb g id delta) c₁) (absorb g id delta)
  obtain ⟨hm, hdepth⟩ := hoff.new j d hd hnone
  obtain ⟨e, he, s, t, hs, ht, hact, hcov, haddr⟩ := mem_sameParts.mp hm
  obtain ⟨o, ho⟩ := hne
  have hplace : d.place = t.place.append (s.place.stepsTo c₁.place) := congrArg Prod.snd haddr
  refine ⟨o, haddr ▸ Owes.same he hs ht hc₁ hact hcov (hsub o ho) ?_⟩
  rw [← hplace]
  exact hdepth

/-- Handing objects on only brings work that the rules demand. -/
theorem sound_handOn (hanchored : g.Anchored) (hc₁ : (absorb g id delta).cell? id = some c₁)
    (hsub : ∀ o ∈ delta, o ∈ c₁.objects) {item : WorkItem}
    (hitem : item ∈ (handOn r (absorb g id delta) id c₁ delta).work) :
    ∃ d, (handOn r (absorb g id delta) id c₁ delta).graph.cell? item.cell = some d ∧
      ∀ o ∈ item.objects, Owes r.limit (handOn r (absorb g id delta) id c₁ delta).graph
        d.address o := by
  have hoff := offered_offerAll r delta (sameParts (absorb g id delta) c₁) (absorb g id delta)
  unfold handOn at hitem ⊢
  dsimp only at hitem ⊢
  have hc₁' := hoff.ext.old id c₁ hc₁
  have hedge : ∀ {e : Edge}, e ∈ g.edges.toList →
      e ∈ (offerAll r delta (sameParts (absorb g id delta) c₁)
        (absorb g id delta)).graph.edges.toList := by
    intro e he
    rw [hoff.ext.edges, edges_absorb]
    exact he
  rcases List.mem_append.mp hitem with hitem | hitem
  · obtain ⟨j, hj, rfl⟩ := List.mem_map.mp hitem
    rcases List.mem_append.mp hj with hj | hj
    · -- along an edge
      obtain ⟨e, he, hsource, rfl⟩ := Graph.mem_successors.mp hj
      rw [edges_absorb] at he
      obtain ⟨_, t₀, ht₀⟩ := hanchored e he
      obtain ⟨t, ht, _⟩ := exists_cell_absorb ht₀ id delta
      have ht' := hoff.ext.old _ t ht
      exact ⟨t, ht', fun o ho => Owes.flow (hedge he) (hsource ▸ hc₁') ht' (hsub o ho)⟩
    · -- to a deeper place
      obtain ⟨d, hd, hact, hcov⟩ := mem_deeperCells.mp hj
      have hd' := hoff.ext.old _ d hd
      exact ⟨d, hd', fun o ho => Owes.part hc₁' hd' hact hcov (hsub o ho)⟩
  · obtain ⟨d, hd, hwhy⟩ := hoff.sound item hitem
    refine ⟨d, hd, ?_⟩
    rcases hwhy with ⟨hobjects, hm, hdepth⟩ | ⟨i, s, hs, hact, hcov, _, hobjects⟩
    · -- to the same part of a target
      intro o ho
      rw [hobjects] at ho
      obtain ⟨e, he, s, t, hs, ht, hact, hcov, haddr⟩ := mem_sameParts.mp hm
      rw [edges_absorb] at he
      have hplace : d.place = t.place.append (s.place.stepsTo c₁.place) :=
        congrArg Prod.snd haddr
      rw [haddr]
      refine Owes.same (hedge he) (hoff.ext.old _ s hs) (hoff.ext.old _ t ht) hc₁' hact hcov
        (hsub o ho) ?_
      rw [← hplace]
      exact hdepth
    · -- what a new cell inherits
      intro o ho
      rw [hobjects] at ho
      exact Owes.part (hoff.ext.old i s hs) hd hact hcov ho

theorem exists_cell_of_extends {g' : Graph} (hext : (absorb g id delta).Extends g') {j : Int}
    {d : Cell} (hd : g'.cell? j = some d) (hold : ∃ d₀, g.cell? j = some d₀) :
    (absorb g id delta).cell? j = some d ∧ ∃ d₀, g.cell? j = some d₀ ∧ d₀.Alike d ∧
      ∀ o, o ∈ d.objects ↔ o ∈ d₀.objects ∨ (j = id ∧ o ∈ delta) := by
  obtain ⟨d₀, hd₀⟩ := hold
  obtain ⟨d', hd', halike, hobjects⟩ := exists_cell_absorb hd₀ id delta
  rw [hext.old j d' hd'] at hd
  cases hd
  exact ⟨hd', d₀, hd₀, halike, hobjects⟩

theorem exists_old_of_mem {g' : Graph} (hext : (absorb g id delta).Extends g') {j o : Int}
    {d : Cell} (hd : g'.cell? j = some d) (ho : o ∈ d.objects) : ∃ d₀, g.cell? j = some d₀ := by
  obtain ⟨d₀, hd₀, _⟩ := exists_cell_of_absorb (hext.old_of_nonempty hd (Or.inl ⟨o, ho⟩))
  exact ⟨d₀, hd₀⟩

/-- What the rules demand after objects were handed on is work, or they demanded it before. -/
theorem complete_handOn (hanchored : g.Anchored) (hc₁ : (absorb g id delta).cell? id = some c₁)
    {address : Activation × Place} {o : Int}
    (h : Owes r.limit (handOn r (absorb g id delta) id c₁ delta).graph address o) :
    Owes r.limit g address o ∨
      ∃ j, (handOn r (absorb g id delta) id c₁ delta).graph.find? address.1 address.2 = some j ∧
        ∃ item ∈ (handOn r (absorb g id delta) id c₁ delta).work,
          item.cell = j ∧ o ∈ item.objects := by
  have hoff := offered_offerAll r delta (sameParts (absorb g id delta) c₁) (absorb g id delta)
  have hext := hoff.ext
  unfold handOn at h ⊢
  dsimp only at h ⊢
  cases h with
  | @seed i c hc hobject =>
    have hdrop := Cell.isObject_iff.mp hobject
    obtain ⟨c₀, hc₀, halike, _⟩ := exists_cell_of_absorb (hext.old_of_nonempty hc (Or.inr hdrop))
    left
    rw [halike.address]
    exact Owes.seed hc₀ (Cell.isObject_iff.mpr (halike.drops ▸ hdrop))
  | @flow e s t _ he hs ht ho =>
    rw [hext.edges, edges_absorb] at he
    obtain ⟨hold, hold'⟩ := hanchored e he
    obtain ⟨_, s₀, hs₀, _, hobjects⟩ := exists_cell_of_extends hext hs hold
    obtain ⟨_, t₀, ht₀, halike, _⟩ := exists_cell_of_extends hext ht hold'
    rcases (hobjects o).mp ho with ho | ⟨hid, ho⟩
    · left
      rw [halike.address]
      exact Owes.flow he hs₀ ht₀ ho
    · have hfind := Graph.find?_eq_some_iff.mpr ⟨t, ht, rfl⟩
      refine Or.inr ⟨e.target, hfind, ⟨e.target, delta⟩, ?_, rfl, ho⟩
      refine List.mem_append_left _ (List.mem_map.mpr ⟨e.target, List.mem_append_left _ ?_, rfl⟩)
      exact Graph.mem_successors.mpr ⟨e, by rw [edges_absorb]; exact he, hid, rfl⟩
  | @part i j c d _ hc hd hact hcov ho =>
    obtain ⟨hc', c₀, hc₀, halike, hobjects⟩ :=
      exists_cell_of_extends hext hc (exists_old_of_mem hext hc ho)
    have hfind := Graph.find?_eq_some_iff.mpr ⟨d, hd, rfl⟩
    cases hnew : (absorb g id delta).cell? j with
    | none =>
      refine Or.inr ⟨j, hfind, ⟨j, c.objects⟩, List.mem_append_right _ ?_, rfl, ho⟩
      exact hoff.inherits j d hd hnew i c hc' hact hcov (IdSet.isEmpty_eq_false_iff.mpr ⟨o, ho⟩)
    | some d' =>
      obtain ⟨d₁, hd₁, _⟩ := exists_cell_of_absorb hnew
      obtain ⟨hd', d₀, hd₀, halike', _⟩ := exists_cell_of_extends hext hd ⟨d₁, hd₁⟩
      rcases (hobjects o).mp ho with ho | ⟨rfl, hadded⟩
      · left
        rw [halike'.address]
        refine Owes.part hc₀ hd₀ ?_ ?_ ho
        · rw [← halike.activation, ← halike'.activation]
          exact hact
        · rw [← halike.place, ← halike'.place]
          exact hcov
      · rw [hc₁] at hc'
        cases hc'
        refine Or.inr ⟨j, hfind, ⟨j, delta⟩, List.mem_append_left _ ?_, rfl, hadded⟩
        refine List.mem_map.mpr ⟨j, List.mem_append_right _ ?_, rfl⟩
        exact mem_deeperCells.mpr ⟨d, hd', hact, hcov⟩
  | @same e s t j c _ he hs ht hc hact hcov ho hdepth =>
    rw [hext.edges, edges_absorb] at he
    obtain ⟨hold, hold'⟩ := hanchored e he
    obtain ⟨hs', s₀, hs₀, halikes, _⟩ := exists_cell_of_extends hext hs hold
    obtain ⟨ht', t₀, ht₀, haliket, _⟩ := exists_cell_of_extends hext ht hold'
    obtain ⟨hc', c₀, hc₀, halikec, hobjects⟩ :=
      exists_cell_of_extends hext hc (exists_old_of_mem hext hc ho)
    rcases (hobjects o).mp ho with ho | ⟨rfl, hadded⟩
    · left
      rw [haliket.activation, haliket.place, halikes.place, halikec.place] at *
      refine Owes.same he hs₀ ht₀ hc₀ ?_ hcov ho hdepth
      rw [← halikes.activation, ← halikec.activation]
      exact hact
    · rw [hc₁] at hc'
      cases hc'
      have hm : (t.activation, t.place.append (s.place.stepsTo c₁.place)) ∈
          sameParts (absorb g j delta) c₁ :=
        mem_sameParts.mpr ⟨e, by rw [edges_absorb]; exact he, s, t, hs', ht', hact, hcov, rfl⟩
      obtain ⟨k, hk, hwork⟩ := hoff.given _ _ hm hdepth
      exact Or.inr ⟨k, hk, ⟨k, delta⟩, List.mem_append_right _ hwork, rfl, hadded⟩

end HandOn

/-- **A step and the rules.**  A step at a cell either brings nothing new and changes nothing, or
    it adds what is new and hands on exactly what the rules demand of it. -/
theorem propagate_spec (r : Rules) {g : Graph} (hanchored : g.Anchored) {item : WorkItem} {c : Cell}
    (hc : g.cell? item.cell = some c) :
    ((∀ o ∈ item.objects, o ∈ c.objects) ∧ (propagate r g item).graph = g ∧
      (propagate r g item).work = []) ∨
    Advance r.limit g item.cell (g.missing item.cell item.objects) (propagate r g item).graph
      (propagate r g item).work := by
  have hmissing : ∀ o, o ∈ g.missing item.cell item.objects ↔ o ∈ item.objects ∧ o ∉ c.objects := by
    intro o
    rw [Graph.missing, IdSet.mem_diff, Graph.pointsTo_of_cell? hc]
  unfold propagate
  dsimp only
  split
  · rename_i hempty
    refine Or.inl ⟨fun o ho => ?_, rfl, rfl⟩
    refine Classical.byContradiction fun hno => ?_
    exact IdSet.isEmpty_iff.mp hempty o ((hmissing o).mpr ⟨ho, hno⟩)
  · rename_i hempty
    have hne := IdSet.isEmpty_eq_false_iff.mp (Bool.not_eq_true _ ▸ hempty)
    obtain ⟨c₁, hc₁, _, hobjects⟩ :=
      exists_cell_absorb hc item.cell (g.missing item.cell item.objects)
    have hsub : ∀ o ∈ g.missing item.cell item.objects, o ∈ c₁.objects :=
      fun o ho => (hobjects o).mpr (Or.inr ⟨rfl, ho⟩)
    rw [hc₁]
    dsimp only
    refine Or.inr ⟨?_, ?_, ?_, ?_⟩
    · exact (offered_offerAll r _ (sameParts (absorb g item.cell _) c₁) _).ext
    · intro j d hd hnone
      exact new_handOn hc₁ hsub hne hd hnone
    · intro item' hitem'
      exact sound_handOn hanchored hc₁ hsub hitem'
    · intro address o h
      exact complete_handOn hanchored hc₁ h

end DropFlow.Flow
