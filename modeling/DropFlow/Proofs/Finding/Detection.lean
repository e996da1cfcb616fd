/-
  DropFlow/Proofs/Finding/Detection.lean
  ======================================
  What is detected in a flow graph.

  The suspicions of a graph are described by its edges, its sets of objects and its drop
  sites alone.  For the drops this needs that the objects have been propagated: then an
  object that may hold another one is marked, since it holds itself as well.  The
  detection confirms exactly the suspicions whose second block can be executed after the
  first, and it always comes to an end.
-/
import DropFlow.Finding.Detection
import DropFlow.Proofs.Flow.Fixpoint
import DropFlow.Proofs.Oracle

namespace DropFlow

open DropFlow.Flow

/-! ### 1. Suspicions -/

theorem Suspicion.isApart_iff {s : Suspicion} :
    s.isApart = true ↔ s.firstSite.blockRef ≠ s.secondSite.blockRef := by
  simp [Suspicion.isApart]

theorem mem_useSuspicions {g : Graph} {cell : Int} {site : Site} {s : Suspicion} :
    s ∈ useSuspicions g cell site ↔ s.second = cell ∧ s.secondSite = site ∧
      s.first ∈ g.pointsTo cell ∧ s.firstSite ∈ g.dropsOf s.first ∧ s.isApart = true := by
  unfold useSuspicions
  rw [List.mem_filter, List.mem_flatMap]
  constructor
  · rintro ⟨⟨object, hobject, hs⟩, hapart⟩
    obtain ⟨drop, hdrop, rfl⟩ := List.mem_map.mp hs
    exact ⟨rfl, rfl, hobject, hdrop, hapart⟩
  · rintro ⟨rfl, rfl, hobject, hdrop, hapart⟩
    exact ⟨⟨s.first, hobject, List.mem_map.mpr ⟨s.firstSite, hdrop, rfl⟩⟩, hapart⟩

/-- An end of an edge is accessed through a pointer. -/
def Flow.Edge.Uses (e : Edge) (cell : Int) : Prop :=
  (e.source = cell ∧ e.sourceDeref = true) ∨ (e.target = cell ∧ e.targetDeref = true)

/-- The uses that may come after a drop are those of the used ends of the edges. -/
theorem mem_allUses {g : Graph} {s : Suspicion} :
    s ∈ allUses g ↔ (∃ e ∈ g.edges.toList, e.site = s.secondSite ∧ e.Uses s.second) ∧
      s.first ∈ g.pointsTo s.second ∧ s.firstSite ∈ g.dropsOf s.first ∧ s.isApart = true := by
  unfold allUses Graph.derefEdges
  rw [List.mem_flatMap]
  constructor
  · rintro ⟨e, he, hs⟩
    obtain ⟨he, _⟩ := List.mem_filter.mp he
    unfold edgeSuspicions at hs
    rcases List.mem_append.mp hs with hs | hs
    · split at hs
      · rename_i hderef
        obtain ⟨hcell, hsite, hrest⟩ := mem_useSuspicions.mp hs
        exact ⟨⟨e, he, hsite.symm, Or.inl ⟨hcell.symm, hderef⟩⟩, hcell ▸ hrest⟩
      · exact nomatch hs
    · split at hs
      · rename_i hderef
        obtain ⟨hcell, hsite, hrest⟩ := mem_useSuspicions.mp hs
        exact ⟨⟨e, he, hsite.symm, Or.inr ⟨hcell.symm, hderef⟩⟩, hcell ▸ hrest⟩
      · exact nomatch hs
  · rintro ⟨⟨e, he, hsite, huse⟩, hrest⟩
    refine ⟨e, List.mem_filter.mpr ⟨he, ?_⟩, ?_⟩
    · unfold Edge.isDeref
      rcases huse with ⟨_, hderef⟩ | ⟨_, hderef⟩
      · rw [hderef, Bool.true_or]
      · rw [hderef, Bool.or_true]
    · unfold edgeSuspicions
      rcases huse with ⟨hcell, hderef⟩ | ⟨hcell, hderef⟩
      · rw [if_pos hderef]
        exact List.mem_append_left _
          (mem_useSuspicions.mpr ⟨hcell.symm, hsite.symm, hcell ▸ hrest⟩)
      · rw [if_pos hderef]
        exact List.mem_append_right _
          (mem_useSuspicions.mpr ⟨hcell.symm, hsite.symm, hcell ▸ hrest⟩)

theorem mem_dropPairs {g : Graph} {m n : Int} {s : Suspicion} : s ∈ dropPairs g m n ↔
    (s.first = m ∧ s.second = n ∨ s.first = n ∧ s.second = m) ∧
      s.firstSite ∈ g.dropsOf s.first ∧ s.secondSite ∈ g.dropsOf s.second ∧ s.isApart = true := by
  unfold dropPairs
  simp only [List.mem_flatMap, List.mem_filter, List.mem_cons, List.not_mem_nil, or_false]
  constructor
  · rintro ⟨x, hx, y, hy, rfl | rfl, hapart⟩
    · exact ⟨Or.inl ⟨rfl, rfl⟩, hx, hy, hapart⟩
    · exact ⟨Or.inr ⟨rfl, rfl⟩, hy, hx, hapart⟩
  · rintro ⟨⟨rfl, rfl⟩ | ⟨rfl, rfl⟩, hfirst, hsecond, hapart⟩
    · exact ⟨s.firstSite, hfirst, s.secondSite, hsecond, Or.inl rfl, hapart⟩
    · exact ⟨s.secondSite, hsecond, s.firstSite, hfirst, Or.inr rfl, hapart⟩

theorem one_lt_size {s : IdSet} {x y : Int} (hx : x ∈ s) (hy : y ∈ s) (hne : x ≠ y) :
    1 < s.size := by
  unfold IdSet.size
  rw [IdSet.mem_def] at hx hy
  cases hlist : s.toList with
  | nil =>
    rw [hlist] at hx
    exact nomatch hx
  | cons a rest =>
    cases rest with
    | nil =>
      rw [hlist, List.mem_singleton] at hx hy
      exact absurd (hx.trans hy.symm) hne
    | cons b rest => simp

/-- An object that holds another one is marked, once the objects have been propagated. -/
theorem mem_multiDrop_of_mem_pointsTo {limit : Nat} {g : Graph} (hclosed : g.Closed limit)
    (hmarks : g.MarksExact) {m n : Int} {site : Site} (hdrop : site ∈ g.dropsOf m)
    (hm : n ∈ g.pointsTo m) (hne : n ≠ m) : m ∈ g.multiDrop := by
  obtain ⟨c, hc, hsite⟩ := Graph.exists_cell_of_mem_dropsOf hdrop
  refine (hmarks m).mpr ⟨c, hc, Cell.isObject_iff.mpr ⟨site, hsite⟩, ?_⟩
  have hself := hclosed.seeds m (List.ne_nil_of_mem hdrop)
  rw [Graph.pointsTo_of_cell? hc] at hself hm
  exact one_lt_size hm hself hne

/-- The drops that may come after a drop are those of two objects one of which may hold the
    other. -/
theorem mem_allDrops {limit : Nat} {g : Graph} (hclosed : g.Closed limit) (hmarks : g.MarksExact)
    {s : Suspicion} : s ∈ allDrops g ↔ s.first ≠ s.second ∧
      (s.second ∈ g.pointsTo s.first ∨ s.first ∈ g.pointsTo s.second) ∧
      s.firstSite ∈ g.dropsOf s.first ∧ s.secondSite ∈ g.dropsOf s.second ∧ s.isApart = true := by
  unfold allDrops
  simp only [List.mem_flatMap, List.mem_filter, decide_eq_true_eq]
  constructor
  · rintro ⟨m, _, n, ⟨hn, hne⟩, hs⟩
    obtain ⟨⟨rfl, rfl⟩ | ⟨rfl, rfl⟩, hrest⟩ := mem_dropPairs.mp hs
    · exact ⟨Ne.symm hne, Or.inl hn, hrest⟩
    · exact ⟨hne, Or.inr hn, hrest⟩
  · rintro ⟨hne, hheld, hfirst, hsecond, hapart⟩
    rcases hheld with hheld | hheld
    · refine ⟨s.first, ?_, s.second, ⟨hheld, Ne.symm hne⟩, ?_⟩
      · exact mem_multiDrop_of_mem_pointsTo hclosed hmarks hfirst hheld (Ne.symm hne)
      · exact mem_dropPairs.mpr ⟨Or.inl ⟨rfl, rfl⟩, hfirst, hsecond, hapart⟩
    · refine ⟨s.second, ?_, s.first, ⟨hheld, hne⟩, ?_⟩
      · exact mem_multiDrop_of_mem_pointsTo hclosed hmarks hsecond hheld hne
      · exact mem_dropPairs.mpr ⟨Or.inr ⟨rfl, rfl⟩, hfirst, hsecond, hapart⟩

/-! ### 2. Confirmation -/

section Confirmation

variable {p : Program} {calls : CallGraph} {o : Oracle}

theorem confirm_spec (hp : p.Coherent) (hcalls : calls.Bounded p.size) (list : List Suspicion) :
    ∀ {o : Oracle}, o.Knows p calls → (confirm o list).1.Knows p calls ∧
      ∃ confirmed, (confirm o list).2 = some confirmed ∧ ∀ s, s ∈ confirmed ↔ s ∈ list ∧
        calls.Reaches p s.firstSite.blockRef s.secondSite.blockRef := by
  induction list with
  | nil =>
    intro o ho
    exact ⟨ho, [], rfl, fun s => ⟨fun hs => (nomatch hs), fun hs => nomatch hs.1⟩⟩
  | cons first rest ih =>
    intro o ho
    obtain ⟨h₁, yes, hyes, hiff⟩ :=
      Oracle.canReach_spec hp hcalls ho first.firstSite.blockRef first.secondSite.blockRef
    rw [confirm]
    rcases hres : o.canReach first.firstSite.blockRef first.secondSite.blockRef with ⟨o₁, answer⟩
    rw [hres] at h₁ hyes
    dsimp only at h₁ hyes
    subst hyes
    obtain ⟨h₂, confirmed, hconfirmed, hmem⟩ := ih h₁
    dsimp only
    rcases hrest : confirm o₁ rest with ⟨o₂, found⟩
    rw [hrest] at h₂ hconfirmed
    dsimp only at h₂ hconfirmed
    subst hconfirmed
    refine ⟨h₂, _, rfl, fun s => ?_⟩
    cases yes with
    | true =>
      rw [if_pos rfl, List.mem_cons, List.mem_cons, hmem]
      constructor
      · rintro (rfl | ⟨hs, hr⟩)
        · exact ⟨Or.inl rfl, hiff.mp rfl⟩
        · exact ⟨Or.inr hs, hr⟩
      · rintro ⟨rfl | hs, hr⟩
        · exact Or.inl rfl
        · exact Or.inr ⟨hs, hr⟩
    | false =>
      rw [if_neg Bool.false_ne_true, List.mem_cons, hmem]
      constructor
      · rintro ⟨hs, hr⟩
        exact ⟨Or.inr hs, hr⟩
      · rintro ⟨rfl | hs, hr⟩
        · exact nomatch hiff.mpr hr
        · exact ⟨hs, hr⟩

/-- **The detection always answers**, and confirms exactly the suspicions whose second block can
    be executed after the first. -/
theorem detect_spec (hp : p.Coherent) (hcalls : calls.Bounded p.size) (ho : o.Knows p calls)
    (g : Graph) : (detect g o).1.Knows p calls ∧ ∃ d, (detect g o).2 = some d ∧
      (∀ s, s ∈ d.uses ↔ s ∈ allUses g ∧
        calls.Reaches p s.firstSite.blockRef s.secondSite.blockRef) ∧
      ∀ s, s ∈ d.drops ↔ s ∈ allDrops g ∧
        calls.Reaches p s.firstSite.blockRef s.secondSite.blockRef := by
  obtain ⟨h₁, uses, huses, hmemUses⟩ := confirm_spec hp hcalls (allUses g) ho
  unfold detect
  rcases hres : confirm o (allUses g) with ⟨o₁, found⟩
  rw [hres] at h₁ huses
  dsimp only at h₁ huses
  subst huses
  obtain ⟨h₂, drops, hdrops, hmemDrops⟩ := confirm_spec hp hcalls (allDrops g) h₁
  dsimp only
  rcases hres' : confirm o₁ (allDrops g) with ⟨o₂, found⟩
  rw [hres'] at h₂ hdrops
  dsimp only at h₂ hdrops
  subst hdrops
  exact ⟨h₂.announce _, ⟨uses, drops⟩, rfl, hmemUses, hmemDrops⟩

end Confirmation

end DropFlow
