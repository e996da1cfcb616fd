/-
  DropFlow/Proofs/Digraph/Strong.lean
  ===================================
  What the search for components returns, for any successor function that leads to
  finitely many nodes.

  A search need not end, so that it has a bound, and no result where the bound is met.  A
  result does not change when the bound grows (`components?_mono`), and is that of the
  search without a bound.  Where only finitely many nodes can be reached there is a result
  for every bound from their number on.  What the components are, and which of them no arc
  enters, follows from what the search keeps.
-/
import DropFlow.Proofs.Digraph.Source
import Mathlib.Data.Set.Card

namespace DropFlow.Digraph

variable {α : Type}

/-! ### 1. Greater bounds -/

theorem foldlM_mono {β : Type} {f f' : β → α → Option β} {l : List α}
    (h : ∀ b w r, f b w = some r → f' b w = some r) :
    ∀ {b r : β}, l.foldlM f b = some r → l.foldlM f' b = some r := by
  induction l with
  | nil => exact fun hr => hr
  | cons x rest ih =>
    intro b r hr
    rw [List.foldlM_cons] at hr ⊢
    obtain ⟨b', hstep, hrest⟩ := Option.bind_eq_some_iff.mp hr
    exact Option.bind_eq_some_iff.mpr ⟨b', h b x b' hstep, ih hrest⟩

section Mono

variable [DecidableEq α] {successors : α → List α}

theorem Search.visit?_mono (fuel : Nat) : ∀ {v : α} {s : Search α} {r : Nat × Search α},
    visit? successors fuel v s = some r → visit? successors (fuel + 1) v s = some r := by
  induction fuel with
  | zero => exact nofun
  | succ fuel ih =>
    intro v s r hr
    obtain ⟨acc, hacc, hend⟩ := Option.map_eq_some_iff.mp hr
    refine Option.map_eq_some_iff.mpr ⟨acc, foldlM_mono (fun b w b' hb => ?_) hacc, hend⟩
    dsimp only [look?] at hb ⊢
    split at hb
    · obtain ⟨r, hvisit, hmin⟩ := Option.map_eq_some_iff.mp hb
      exact Option.map_eq_some_iff.mpr ⟨r, ih hvisit, hmin⟩
    · exact hb

/-- A result stays the same when the bound grows. -/
theorem components?_mono {nodes : List α} {cs : List (List α)} {bound bound' : Nat}
    (hle : bound ≤ bound') (h : components? bound nodes successors = some cs) :
    components? bound' nodes successors = some cs := by
  induction hle with
  | refl => exact h
  | step _ ih =>
    obtain ⟨s, hs, hclosed⟩ := Option.map_eq_some_iff.mp ih
    refine Option.map_eq_some_iff.mpr ⟨s, foldlM_mono (fun b v b' hb => ?_) hs, hclosed⟩
    dsimp only [Search.visitNew?] at hb ⊢
    split at hb
    · exact hb
    · obtain ⟨r, hvisit, hrest⟩ := Option.map_eq_some_iff.mp hb
      exact Option.map_eq_some_iff.mpr ⟨r, Search.visit?_mono _ hvisit, hrest⟩

end Mono

/-! ### 2. Finitely many nodes -/

section Finite

variable {successors : α → List α} {starts : List α} {bound : Nat}

theorem exists_nodes_of_finite (hfinite : {x | ReachedFrom successors starts x}.Finite)
    (hbound : {x | ReachedFrom successors starts x}.ncard ≤ bound) :
    ∃ nodes : List α, (∀ x, ReachedFrom successors starts x → x ∈ nodes) ∧
      nodes.length ≤ bound := by
  refine ⟨hfinite.toFinset.toList, fun x hx => ?_, ?_⟩
  · rw [Finset.mem_toList, Set.Finite.mem_toFinset]
    exact hx
  · rw [Finset.length_toList, ← Set.ncard_eq_toFinset_card _ hfinite]
    exact hbound

variable [DecidableEq α] {arcs : List (α × α)}

theorem reachedFrom_listed {x : α} (h : ReachedFrom (listedSuccessors arcs) starts x) :
    x ∈ (starts ++ arcs.map (·.2)).toFinset := by
  obtain ⟨n, hn, hlead⟩ := h
  rw [List.mem_toFinset, List.mem_append]
  rcases Relation.ReflTransGen.cases_tail hlead with rfl | ⟨y, _, harc⟩
  · exact .inl hn
  · simp only [listedSuccessors, List.mem_map, List.mem_filter] at harc
    obtain ⟨a, ⟨ha, _⟩, rfl⟩ := harc
    exact .inr (List.mem_map.mpr ⟨a, ha, rfl⟩)

theorem finite_reachedFrom_listed (starts : List α) (arcs : List (α × α)) :
    {x | ReachedFrom (listedSuccessors arcs) starts x}.Finite :=
  Set.Finite.subset (Finset.finite_toSet _) fun _ hx => reachedFrom_listed hx

/-- The bound of the searches along a list of arcs is never met. -/
theorem ncard_reachedFrom_listed_le (starts : List α) (arcs : List (α × α)) :
    {x | ReachedFrom (listedSuccessors arcs) starts x}.ncard ≤ listedBound starts arcs := by
  calc {x | ReachedFrom (listedSuccessors arcs) starts x}.ncard
      ≤ (↑(starts ++ arcs.map (·.2)).toFinset : Set α).ncard :=
        Set.ncard_le_ncard (fun _ hx => reachedFrom_listed hx) (Finset.finite_toSet _)
    _ = (starts ++ arcs.map (·.2)).toFinset.card := Set.ncard_coe_finset _
    _ ≤ (starts ++ arcs.map (·.2)).length := List.toFinset_card_le _
    _ = listedBound starts arcs := by simp [listedBound]

end Finite

/-! ### 3. The components -/

namespace Components

variable {successors : α → List α} {cs : List (List α)}

theorem pairwise_disjoint (h : Components successors cs) : cs.Pairwise List.Disjoint :=
  (List.nodup_flatten.mp h.disjoint).2

theorem nodup_of_mem (h : Components successors cs) {c : List α} (hc : c ∈ cs) : c.Nodup :=
  (List.nodup_flatten.mp h.disjoint).1 c hc

theorem nodup (h : Components successors cs) : cs.Nodup := by
  refine h.pairwise_disjoint.imp_of_mem ?_
  rintro c d hc - hdisjoint rfl
  obtain ⟨x, hx⟩ := List.exists_mem_of_ne_nil c (h.strong c hc).1
  exact hdisjoint hx hx

theorem exists_mem_and_mem_iff (h : Components successors cs) {x y : α} :
    (∃ c ∈ cs, x ∈ c ∧ y ∈ c) ↔ x ∈ cs.flatten ∧ Mutual successors x y := by
  constructor
  · rintro ⟨c, hc, hx, hy⟩
    exact ⟨List.mem_flatten.mpr ⟨c, hc, hx⟩, ((h.strong c hc).2 x hx y).mp hy⟩
  · rintro ⟨hx, hmutual⟩
    obtain ⟨c, hc, hx⟩ := List.mem_flatten.mp hx
    exact ⟨c, hc, hx, ((h.strong c hc).2 x hx y).mpr hmutual⟩

/-- An arc goes from a component to itself or to an earlier one. -/
theorem le_of_arc (h : Components successors cs) {i j : Fin cs.length} {x y : α}
    (hx : x ∈ cs.get i) (hy : y ∈ cs.get j) (harc : y ∈ successors x) : j ≤ i := by
  by_contra hlt
  rw [not_le] at hlt
  have hdisjoint := List.pairwise_iff_get.mp h.pairwise_disjoint
  have hsplit : cs = cs.take i ++ cs.get i :: cs.drop (i + 1) := by
    rw [List.get_eq_getElem, ← List.drop_eq_getElem_cons, List.take_append_drop]
  rcases h.ordered _ _ _ hsplit x hx y harc with hin | hin
  · exact hdisjoint i j hlt hin hy
  · -- an earlier component has nothing in common with a later one
    obtain ⟨c, hc, hyc⟩ := List.mem_flatten.mp hin
    obtain ⟨k, hk, rfl⟩ := List.mem_take_iff_getElem.mp hc
    have hki : k < (i : Nat) := lt_of_lt_of_le hk (Nat.min_le_left _ _)
    exact hdisjoint ⟨k, by omega⟩ j (by rw [Fin.lt_def] at hlt ⊢; dsimp only; omega) hyc hy

end Components

section Exact

variable [DecidableEq α]

/-- **The components, exactly.**  Where finitely many nodes can be reached from a list, the search
    ends, with the same result for every bound from their number on.  The components are lists
    that are not empty, without repetitions and with no common nodes; they hold the nodes that
    can be reached; two of these are in the same list exactly if each leads to the other one;
    and an arc never leads to a later list. -/
theorem components_exact (starts : List α) (successors : α → List α)
    (hfinite : {x | ReachedFrom successors starts x}.Finite) :
    ∃ cs, (∀ bound, {x | ReachedFrom successors starts x}.ncard ≤ bound →
        components? bound starts successors = some cs ∧
          components bound starts successors = cs) ∧
      (∀ c ∈ cs, c ≠ [] ∧ c.Nodup) ∧ cs.Pairwise List.Disjoint ∧
      (∀ x, (∃ c ∈ cs, x ∈ c) ↔ ReachedFrom successors starts x) ∧
      (∀ x y, (∃ c ∈ cs, x ∈ c ∧ y ∈ c) ↔
        ReachedFrom successors starts x ∧ Leads successors x y ∧ Leads successors y x) ∧
      ∀ i j : Fin cs.length, ∀ x ∈ cs.get i, ∀ y ∈ cs.get j, y ∈ successors x → j ≤ i := by
  obtain ⟨nodes, hnodes, hlength⟩ := exists_nodes_of_finite hfinite (Nat.le_refl _)
  obtain ⟨hends, hcs, hmem⟩ := components?_spec hnodes hlength
  refine ⟨_, fun bound hbound => ?_, ?_, hcs.pairwise_disjoint, fun x => ?_, fun x y => ?_, ?_⟩
  · have hsame := components?_mono hbound hends
    exact ⟨hsame, by rw [components, hsame, Option.getD_some]⟩
  · exact fun c hc => ⟨(hcs.strong c hc).1, hcs.nodup_of_mem hc⟩
  · rw [← hmem, List.mem_flatten]
  · rw [hcs.exists_mem_and_mem_iff, hmem]
    rfl
  · exact fun i j x hx y hy harc => hcs.le_of_arc hx hy harc

/-- Arcs of a circle with a way out, to a node that is not listed. -/
def outlet : List (Nat × Nat) := [(0, 1), (1, 2), (2, 0), (2, 3), (3, 3)]

theorem components_outlet :
    components (listedBound [1, 1] outlet) [1, 1] (listedSuccessors outlet) = [[3], [0, 2, 1]] := by
  decide

theorem components_exact_outlet :
    {x | ReachedFrom (listedSuccessors outlet) [1, 1] x}.Finite ∧
      {x | ReachedFrom (listedSuccessors outlet) [1, 1] x}.ncard ≤ 7 ∧
      components? 7 [1, 1] (listedSuccessors outlet) = some [[3], [0, 2, 1]] ∧
      ReachedFrom (listedSuccessors outlet) [1, 1] 3 := by
  have hfinite := finite_reachedFrom_listed [1, 1] outlet
  have hbound := ncard_reachedFrom_listed_le [1, 1] outlet
  obtain ⟨cs, hends, -, -, hreached, -⟩ := components_exact [1, 1] (listedSuccessors outlet) hfinite
  obtain ⟨hresult, hcs⟩ := hends _ hbound
  rw [components_outlet] at hcs
  subst hcs
  exact ⟨hfinite, hbound, hresult, (hreached 3).mp ⟨[3], by simp⟩⟩

/-- **The source components, exactly.**  Where finitely many nodes can be reached from a list, the
    search ends, with the same result for every bound from their number on.  The source
    components are the components that no arc enters from another one, in the reverse of their
    order; every node can be reached from one of them, and there is one if there is a node. -/
theorem sourceComponents_exact (starts : List α) (successors : α → List α)
    (hfinite : {x | ReachedFrom successors starts x}.Finite) :
    ∃ cs sources, (∀ bound, {x | ReachedFrom successors starts x}.ncard ≤ bound →
        components bound starts successors = cs ∧
          sourceComponents? bound starts successors = some sources ∧
          sourceComponents bound starts successors = sources) ∧
      Components successors cs ∧ (∀ x, x ∈ cs.flatten ↔ ReachedFrom successors starts x) ∧
      sources.Sublist cs.reverse ∧ sources.Nodup ∧
      (∀ c, c ∈ sources ↔
        c ∈ cs ∧ ∀ d ∈ cs, d ≠ c → ∀ x ∈ d, ∀ y ∈ successors x, y ∉ c) ∧
      (∀ x, ReachedFrom successors starts x →
        ∃ c ∈ sources, ∃ z ∈ c, Leads successors z x) ∧
      (starts ≠ [] → sources ≠ []) := by
  obtain ⟨nodes, hnodes, hlength⟩ := exists_nodes_of_finite hfinite (Nat.le_refl _)
  obtain ⟨hends, hcs, hmem⟩ := components?_spec hnodes hlength
  have hsource := fun c => mem_sourceComponents hnodes hlength (c := c)
  have hdominated := fun x => exists_mem_sourceComponents hnodes hlength (x := x)
  rw [sourceComponents_eq hends] at hsource hdominated
  refine ⟨_, _, fun bound hbound => ?_, hcs, hmem, List.filter_sublist, ?_, fun c => ?_,
    hdominated, fun hne hnil => ?_⟩
  · have hsame := components?_mono hbound hends
    refine ⟨by rw [components, hsame, Option.getD_some], ?_, sourceComponents_eq hsame⟩
    rw [sourceComponents?, hsame, Option.map_some]
  · exact List.filter_sublist.nodup (List.nodup_reverse.mpr hcs.nodup)
  · rw [hsource]
    refine and_congr_right fun hc => ⟨fun hnone d hd hne x hx y harc hy => ?_, ?_⟩
    · have hreached := (hmem x).mp (List.mem_flatten.mpr ⟨d, hd, hx⟩)
      exact hne (hcs.eq_of_mem hd hc hx (hnone x hreached y harc hy))
    · intro hnone x hx y harc hy
      obtain ⟨d, hd, hxd⟩ := List.mem_flatten.mp ((hmem x).mpr hx)
      by_contra hxc
      exact hnone d hd (fun heq => hxc (heq ▸ hxd)) x hxd y harc hy
  · obtain ⟨n, hn⟩ := List.exists_mem_of_ne_nil starts hne
    obtain ⟨c, hc, -⟩ := hdominated n ⟨n, hn, .refl⟩
    rw [hnil] at hc
    exact absurd hc List.not_mem_nil

/-- A circle and a loop that both lead to a node, and nothing leads to them. -/
def twoSources : List (Nat × Nat) := [(0, 1), (1, 0), (1, 4), (2, 2), (2, 4)]

theorem sourceComponents_exact_twoSources :
    {x | ReachedFrom (listedSuccessors twoSources) [4, 0, 2] x}.Finite ∧
      {x | ReachedFrom (listedSuccessors twoSources) [4, 0, 2] x}.ncard ≤ 8 ∧
      sourceComponents? 8 [4, 0, 2] (listedSuccessors twoSources) = some [[2], [1, 0]] ∧
      ∃ c ∈ [[2], [1, 0]], ∃ z ∈ c, Leads (listedSuccessors twoSources) z 4 := by
  have hfinite := finite_reachedFrom_listed [4, 0, 2] twoSources
  have hbound : _ ≤ 8 := ncard_reachedFrom_listed_le [4, 0, 2] twoSources
  have hvalue : sourceComponents 8 [4, 0, 2] (listedSuccessors twoSources) = [[2], [1, 0]] := by
    decide
  obtain ⟨cs, sources, hends, -, -, -, -, -, hdominated, -⟩ :=
    sourceComponents_exact [4, 0, 2] (listedSuccessors twoSources) hfinite
  obtain ⟨-, hresult, hsources⟩ := hends 8 hbound
  rw [hvalue] at hsources
  subst hsources
  exact ⟨hfinite, hbound, hresult, hdominated 4 ⟨4, by simp, .refl⟩⟩

end Exact

end DropFlow.Digraph
