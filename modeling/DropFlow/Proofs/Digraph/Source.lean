/-
  DropFlow/Proofs/Digraph/Source.lean
  ===================================
  The components that no arc enters.

  The source components of a search are the components that no arc enters from another
  one (`mem_sourceComponents`).  An arc that enters a component comes from a later one, so
  that going back along such arcs ends at a source component: every node that the search
  meets can be reached from one (`exists_mem_sourceComponents`).
-/
import DropFlow.Proofs.Digraph.Closure
import DropFlow.Proofs.Digraph.Component
import Mathlib.Data.List.Pairwise
import Mathlib.Data.Nat.Init

namespace DropFlow.Digraph

variable {α : Type} {successors : α → List α} {cs : List (List α)}

/-! ### 1. Arcs between components -/

namespace Components

theorem eq_of_mem (h : Components successors cs) {c d : List α} (hc : c ∈ cs) (hd : d ∈ cs) {x : α}
    (hxc : x ∈ c) (hxd : x ∈ d) : c = d := by
  by_contra hne
  have hdisjoint := (List.nodup_flatten.mp h.disjoint).2
  have : Std.Symm (@List.Disjoint α) := ⟨fun _ _ hcd => List.disjoint_symm hcd⟩
  exact hdisjoint.forall hc hd hne hxc hxd

/-- An arc that enters a component comes from a later one. -/
theorem mem_after_of_arc (h : Components successors cs) {before after : List (List α)} {c : List α}
    (hcs : cs = before ++ c :: after) {x y : α} (hx : x ∈ cs.flatten) (hxc : x ∉ c)
    (harc : y ∈ successors x) (hy : y ∈ c) : x ∈ after.flatten := by
  subst hcs
  rw [List.flatten_append, List.flatten_cons, List.mem_append, List.mem_append] at hx
  rcases hx with hx | hx | hx
  · -- an earlier component leads only to itself and to those before it
    exfalso
    obtain ⟨d, hd, hxd⟩ := List.mem_flatten.mp hx
    obtain ⟨start, rest, rfl⟩ := List.append_of_mem hd
    have hy' : y ∈ (start ++ d :: rest).flatten := by
      have hordered := h.ordered start d (rest ++ c :: after) (by simp) x hxd y harc
      rw [List.flatten_append, List.flatten_cons, List.mem_append, List.mem_append]
      exact hordered.elim (fun hy => .inr (.inl hy)) .inl
    have hdisjoint := h.disjoint
    rw [List.flatten_append, List.flatten_cons, List.nodup_append] at hdisjoint
    exact hdisjoint.2.2 y hy' y (List.mem_append_left _ hy) rfl
  · exact absurd hx hxc
  · exact hx

variable [DecidableEq α]

theorem isEntered_iff (h : Components successors cs) {c : List α} (hc : c ∈ cs) :
    isEntered successors cs c = true ↔
      ∃ x ∈ cs.flatten, x ∉ c ∧ ∃ y ∈ successors x, y ∈ c := by
  simp only [isEntered, List.any_eq_true, Bool.and_eq_true, decide_eq_true_eq,
    List.contains_iff_mem, List.mem_flatten]
  constructor
  · rintro ⟨d, hd, hne, x, hx, hy⟩
    exact ⟨x, ⟨d, hd, hx⟩, fun hxc => hne (h.eq_of_mem hd hc hx hxc), hy⟩
  · rintro ⟨x, ⟨d, hd, hx⟩, hxc, hy⟩
    refine ⟨d, hd, ?_, x, hx, hy⟩
    rintro rfl
    exact hxc hx

/-- Every component can be reached from one that no arc enters. -/
theorem exists_source (h : Components successors cs) :
    ∀ (after before : List (List α)) (c : List α), cs = before ++ c :: after → ∀ x ∈ c,
      ∃ d ∈ cs, isEntered successors cs d = false ∧ ∃ z ∈ d, Leads successors z x := by
  intro after
  induction hn : after.length using Nat.strong_induction_on generalizing after with
  | _ n ih =>
    intro before c hcs x hx
    have hc : c ∈ cs := by simp [hcs]
    cases hentered : isEntered successors cs c with
    | false => exact ⟨c, hc, hentered, x, hx, .refl⟩
    | true =>
      obtain ⟨a, ha, hac, b, harc, hb⟩ := (h.isEntered_iff hc).mp hentered
      obtain ⟨d, hd, had⟩ := List.mem_flatten.mp (h.mem_after_of_arc hcs ha hac harc hb)
      obtain ⟨middle, rest, rfl⟩ := List.append_of_mem hd
      have hshorter : rest.length < n := by
        rw [← hn, List.length_append, List.length_cons]
        omega
      obtain ⟨e, he, hsource, z, hz, hlead⟩ := ih rest.length hshorter rest rfl
        (before ++ c :: middle) d (by simp [hcs]) a had
      refine ⟨e, he, hsource, z, hz, (hlead.tail harc).trans ?_⟩
      exact (((h.strong c hc).2 b hb x).mp hx).1

end Components

/-! ### 2. The source components of a search -/

section Sources

variable [DecidableEq α] {starts nodes : List α} {bound : Nat}

theorem sourceComponents_eq (h : components? bound starts successors = some cs) :
    sourceComponents bound starts successors =
      cs.reverse.filter fun c => !isEntered successors cs c := by
  rw [sourceComponents, sourceComponents?, h, Option.map_some, Option.getD_some]

/-- The source components are those that no arc enters from outside. -/
theorem mem_sourceComponents (hnodes : ∀ x, ReachedFrom successors starts x → x ∈ nodes)
    (hbound : nodes.length ≤ bound) {c : List α} :
    c ∈ sourceComponents bound starts successors ↔ c ∈ components bound starts successors ∧
      ∀ x, ReachedFrom successors starts x → ∀ y ∈ successors x, y ∈ c → x ∈ c := by
  obtain ⟨hends, hcs, hmem⟩ := components?_spec hnodes hbound
  simp only [sourceComponents_eq hends, List.mem_filter, List.mem_reverse]
  refine and_congr_right fun hc => ?_
  rw [Bool.not_eq_true', ← Bool.not_eq_true, hcs.isEntered_iff hc]
  simp only [hmem]
  constructor
  · intro hnone x hx y harc hy
    by_contra hxc
    exact hnone ⟨x, hx, hxc, y, harc, hy⟩
  · rintro hall ⟨x, hx, hxc, y, harc, hy⟩
    exact hxc (hall x hx y harc hy)

/-- Every node that is met can be reached from a source component. -/
theorem exists_mem_sourceComponents (hnodes : ∀ x, ReachedFrom successors starts x → x ∈ nodes)
    (hbound : nodes.length ≤ bound) {x : α} (hx : ReachedFrom successors starts x) :
    ∃ c ∈ sourceComponents bound starts successors, ∃ z ∈ c, Leads successors z x := by
  obtain ⟨hends, hcs, hmem⟩ := components?_spec hnodes hbound
  obtain ⟨c, hc, hxc⟩ := List.mem_flatten.mp ((hmem x).mpr hx)
  obtain ⟨before, after, hsplit⟩ := List.append_of_mem hc
  obtain ⟨d, hd, hsource, hlead⟩ := hcs.exists_source after before c hsplit x hxc
  refine ⟨d, ?_, hlead⟩
  simp [sourceComponents_eq hends, hd, hsource]

end Sources

/-! ### 3. Graphs of nodes and arcs -/

/-- Two nodes lead to each other. -/
def Mutual (successors : α → List α) (x y : α) : Prop :=
  Leads successors x y ∧ Leads successors y x

/-- No arc enters the component of a node from outside. -/
def InSource (successors : α → List α) (x : α) : Prop :=
  ∀ a b, b ∈ successors a → Mutual successors x b → Mutual successors x a

section Graph

variable {g : Digraph} (hclosed : ∀ x y, y ∈ g.successors x → x ∈ g.keys ∧ y ∈ g.keys)

include hclosed

theorem reachedFrom_keys {x : Int} : ReachedFrom g.successors g.keys x ↔ x ∈ g.keys := by
  constructor
  · rintro ⟨n, hn, hlead⟩
    rcases Relation.ReflTransGen.cases_tail hlead with heq | ⟨y, _, harc⟩
    · exact heq ▸ hn
    · exact (hclosed y x harc).2
  · exact fun hx => ⟨x, hx, .refl⟩

theorem mem_keys_of_reachedFrom (x : Int) (h : ReachedFrom g.successors g.keys x) : x ∈ g.keys :=
  (reachedFrom_keys hclosed).mp h

theorem components_strongComponents : Components g.successors g.strongComponents :=
  (components?_spec (mem_keys_of_reachedFrom hclosed) (Nat.le_refl _)).2.1

theorem mem_flatten_strongComponents {x : Int} :
    x ∈ g.strongComponents.flatten ↔ x ∈ g.keys := by
  rw [strongComponents, (components?_spec (mem_keys_of_reachedFrom hclosed) (Nat.le_refl _)).2.2,
    reachedFrom_keys hclosed]

theorem mem_component_iff {c : List Int} (hc : c ∈ g.strongComponents) {x : Int} (hx : x ∈ c)
    (y : Int) : y ∈ c ↔ Mutual g.successors x y :=
  ((components_strongComponents hclosed).strong c hc).2 x hx y

/-- A component of a graph is a source exactly if no arc enters the component of its nodes. -/
theorem mem_source_iff {c : List Int} {x : Int} (hx : x ∈ c) :
    c ∈ g.sources ↔ c ∈ g.strongComponents ∧ InSource g.successors x := by
  rw [sources, mem_sourceComponents (mem_keys_of_reachedFrom hclosed) (Nat.le_refl _),
    ← strongComponents]
  refine and_congr_right fun hc => ?_
  simp only [mem_component_iff hclosed hc hx, reachedFrom_keys hclosed, InSource]
  constructor
  · exact fun hnone a b harc hb => hnone a (hclosed a b harc).1 b harc hb
  · exact fun hnone a _ b harc hb => hnone a b harc hb

/-- **The least nodes of the source components** of a graph. -/
theorem mem_least_sources {m : Int} : m ∈ g.sources.filterMap List.min? ↔
    m ∈ g.keys ∧ InSource g.successors m ∧ ∀ y, Mutual g.successors m y → m ≤ y := by
  rw [List.mem_filterMap]
  constructor
  · rintro ⟨c, hc, hmin⟩
    obtain ⟨hm, hle⟩ := List.min?_eq_some_iff.mp hmin
    obtain ⟨hc, hsource⟩ := (mem_source_iff hclosed hm).mp hc
    refine ⟨?_, hsource, fun y hy => hle y ((mem_component_iff hclosed hc hm y).mpr hy)⟩
    exact (mem_flatten_strongComponents hclosed).mp (List.mem_flatten.mpr ⟨c, hc, hm⟩)
  · rintro ⟨hkey, hsource, hle⟩
    obtain ⟨c, hc, hm⟩ := List.mem_flatten.mp ((mem_flatten_strongComponents hclosed).mpr hkey)
    refine ⟨c, (mem_source_iff hclosed hm).mpr ⟨hc, hsource⟩, List.min?_eq_some_iff.mpr ⟨hm, ?_⟩⟩
    exact fun y hy => hle y ((mem_component_iff hclosed hc hm y).mp hy)

/-- Every node of a graph can be reached from the least node of a source component. -/
theorem exists_least_leads {x : Int} (hx : x ∈ g.keys) :
    ∃ m ∈ g.sources.filterMap List.min?, Leads g.successors m x := by
  obtain ⟨c, hc, z, hz, hlead⟩ := exists_mem_sourceComponents (mem_keys_of_reachedFrom hclosed)
    (Nat.le_refl _) ((reachedFrom_keys hclosed).mpr hx)
  cases hmin : c.min? with
  | none =>
    rw [List.min?_eq_none_iff.mp hmin] at hz
    exact nomatch hz
  | some m =>
    have hm := (List.min?_eq_some_iff.mp hmin).1
    have hcomponent := ((mem_source_iff hclosed hz).mp hc).1
    refine ⟨m, List.mem_filterMap.mpr ⟨c, hc, hmin⟩, Relation.ReflTransGen.trans ?_ hlead⟩
    exact ((mem_component_iff hclosed hcomponent hm z).mp hz).1

end Graph

end DropFlow.Digraph
