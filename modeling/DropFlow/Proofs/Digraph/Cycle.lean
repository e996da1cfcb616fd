/-
  DropFlow/Proofs/Digraph/Cycle.lean
  ==================================
  All elementary cycles of a graph are listed, each once.

  A cycle is listed from its least node on (`Listing`).  A node that lies on a cycle of two
  or more nodes is in a component of two or more nodes; so the least node of these
  components is the least one on such a cycle (`leastLarge?_eq_some_iff`), the search from
  it lists the cycles through it, and the others lie in the part of the graph behind it.

  Cycles are compared as cyclic sequences: every cyclic sequence of distinct nodes along
  arcs has one listing (`cycles_exact`).
-/
import DropFlow.Proofs.Digraph.Circuit
import Mathlib

namespace DropFlow.Digraph

/-! ### 1. Parts of a graph -/

/-- What holds of a graph that is made of distinct nodes in its range. -/
structure Proper (g : Digraph) : Prop where
  sorted : g.keys.Pairwise (· < ·)
  inRange : ∀ x ∈ g.keys, g.inRange x = true
  mem_arcs : ∀ x y, (x, y) ∈ g.arcs ↔ y ∈ g.successors x
  closed : ∀ x y, y ∈ g.successors x → x ∈ g.keys ∧ y ∈ g.keys

section Make

variable {order : Int} {nodes : List Int} {pairs : List (Int × Int)} {labels : List (Int × String)}

theorem sorted_keys_make (hnodup : nodes.Nodup) :
    (make order nodes pairs labels).keys.Pairwise (· < ·) := by
  have hle : (make order nodes pairs labels).keys.Pairwise fun a b => decide (a ≤ b) = true := by
    apply List.pairwise_mergeSort
    · simp only [decide_eq_true_eq]
      omega
    · simp only [Bool.or_eq_true, decide_eq_true_eq]
      omega
  have hne := (List.mergeSort_perm nodes fun a b : Int => decide (a ≤ b)).nodup_iff.mpr hnodup
  refine (hle.and hne).imp ?_
  rintro a b ⟨hle, hne⟩
  rw [decide_eq_true_eq] at hle
  omega

theorem mem_arcs_make {v w : Int} : (v, w) ∈ (make order nodes pairs labels).arcs ↔
    w ∈ (make order nodes pairs labels).successors v := by
  unfold arcs successors
  rw [make]
  dsimp only
  rw [lookup_map_row]
  by_cases hv : v ∈ nodes
  · rw [if_pos (List.mem_mergeSort.mpr hv)]
    simp [hv]
  · rw [if_neg (mt List.mem_mergeSort.mp hv)]
    simp [hv]

theorem sorted_successors_make (v : Int) :
    ((make order nodes pairs labels).successors v).Pairwise (· < ·) := by
  unfold successors
  rw [make]
  dsimp only
  rw [lookup_map_row]
  split
  · exact IdSet.sorted _
  · exact List.Pairwise.nil

theorem proper_make (hnodup : nodes.Nodup) (hrange : ∀ x ∈ nodes, 0 ≤ x ∧ x < order) :
    (make order nodes pairs labels).Proper where
  sorted := sorted_keys_make hnodup
  inRange := by
    intro x hx
    have hx := hrange x (mem_keys_make.mp hx)
    simp [Digraph.inRange, make, hx]
  mem_arcs := fun _ _ => mem_arcs_make
  closed := by
    intro x y hy
    obtain ⟨hx, hy, -⟩ := mem_successors_make.mp hy
    exact ⟨mem_keys_make.mpr hx, mem_keys_make.mpr hy⟩

end Make

theorem lookup_map_value {β : Type} (f : Int → β → β) (rows : List (Int × β)) (v : Int) :
    (rows.map fun row => (row.1, f row.1 row.2)).lookup v = (rows.lookup v).map (f v) := by
  induction rows with
  | nil => rfl
  | cons row rest ih =>
    obtain ⟨k, row⟩ := row
    rw [List.map_cons, List.lookup_cons, List.lookup_cons, ih]
    by_cases hv : v = k
    · simp [hv]
    · simp [beq_false_of_ne hv]

theorem successors_withoutLoops (g : Digraph) (v : Int) :
    g.withoutLoops.successors v = (g.successors v).filter (· != v) := by
  unfold successors withoutLoops
  dsimp only
  rw [lookup_map_value (fun k ws => ws.filter (· != k)) g.rows]
  cases g.rows.lookup v <;> rfl

section Part

variable {g : Digraph} {start : Nat}

theorem mem_keys_partFrom {x : Int} : x ∈ (g.partFrom start).keys ↔ x ∈ g.keys.drop start := by
  change x ∈ (make g.order (g.keys.drop start) g.arcs g.labels).keys ↔ _
  exact mem_keys_make

theorem mem_successors_partFrom (hg : g.Proper) {x y : Int} :
    y ∈ (g.partFrom start).successors x ↔
      (x ∈ g.keys.drop start ∧ y ∈ g.keys.drop start) ∧ y ∈ g.successors x ∧ y ≠ x := by
  rw [partFrom, successors_withoutLoops, List.mem_filter, subgraph, mem_successors_make,
    hg.mem_arcs, bne_iff_ne]
  simp only [and_assoc]

theorem closed_partFrom (x y : Int) (h : y ∈ (g.partFrom start).successors x) :
    x ∈ (g.partFrom start).keys ∧ y ∈ (g.partFrom start).keys := by
  rw [partFrom, successors_withoutLoops, List.mem_filter, subgraph, mem_successors_make] at h
  exact ⟨mem_keys_partFrom.mpr h.1.1, mem_keys_partFrom.mpr h.1.2.1⟩

theorem nodup_successors_partFrom (x : Int) : ((g.partFrom start).successors x).Nodup := by
  rw [partFrom, successors_withoutLoops]
  exact (((sorted_successors_make x).imp fun h => ne_of_lt h)).filter _

theorem inRange_partFrom (hg : g.Proper) {x : Int} (hx : x ∈ (g.partFrom start).keys) :
    (g.partFrom start).inRange x = true :=
  hg.inRange x (List.mem_of_mem_drop (mem_keys_partFrom.mp hx))

theorem rangeClosed_partFrom (hg : g.Proper) (hstart : start < g.keys.length) :
    (g.partFrom start).rangeClosed = true := by
  simp only [rangeClosed, Bool.and_eq_true, decide_eq_true_eq, List.all_eq_true, Bool.or_eq_true]
  constructor
  · have hrange := hg.inRange _ (List.getElem_mem hstart)
    simp only [inRange, Bool.and_eq_true, decide_eq_true_eq] at hrange
    exact le_of_lt (lt_of_le_of_lt hrange.1 hrange.2)
  · exact fun x _ => .inr fun y hy => inRange_partFrom hg (closed_partFrom x y hy).2

end Part

/-! ### 2. The least node on a cycle -/

/-- A division of the nodes of a graph into sets of those that lead to each other. -/
structure StrongPartition (g : Digraph) (cs : List (List Int)) : Prop where
  disjoint : cs.flatten.Nodup
  covers : ∀ x ∈ g.keys, x ∈ cs.flatten
  strong : ∀ c ∈ cs, ∀ x ∈ c, ∀ y, y ∈ c ↔ Mutual g.successors x y

/-- What is needed of a function that finds components: it divides the nodes of every graph whose
    nodes lie in its range. -/
def FindsComponents (strong : Digraph → List (List Int)) : Prop :=
  ∀ g : Digraph, (∀ x ∈ g.keys, g.inRange x = true) →
    (∀ x y, y ∈ g.successors x → x ∈ g.keys ∧ y ∈ g.keys) → g.StrongPartition (strong g)

/-- The least node that leads to another one and back. -/
structure LeastOnCycle (successors : Int → List Int) (m : Int) : Prop where
  onCycle : ∃ y, y ≠ m ∧ Mutual successors m y
  least : ∀ x y, y ≠ x → Mutual successors x y → m ≤ x

section Least

variable {g : Digraph} (hclosed : ∀ x y, y ∈ g.successors x → x ∈ g.keys ∧ y ∈ g.keys)
  {cs cs' : List (List Int)}

include hclosed

/-- The components of two or more nodes hold the nodes that lead to another one and back. -/
theorem StrongPartition.mem_large_iff (hcs : g.StrongPartition cs) {x : Int} :
    x ∈ (cs.filter fun c => 1 < c.length).flatten ↔ ∃ y, y ≠ x ∧ Mutual g.successors x y := by
  simp only [List.mem_flatten, List.mem_filter, decide_eq_true_eq]
  constructor
  · rintro ⟨c, ⟨hc, hlarge⟩, hx⟩
    by_contra hnone
    -- a component whose nodes are all the same has one node
    have hsame : c = List.replicate c.length x := List.eq_replicate_of_mem fun y hy => by
      by_contra hne
      exact hnone ⟨y, hne, (hcs.strong c hc x hx y).mp hy⟩
    have hnodup := (List.nodup_flatten.mp hcs.disjoint).1 c hc
    rw [hsame, List.nodup_replicate] at hnodup
    omega
  · rintro ⟨y, hne, hmutual⟩
    obtain ⟨z, harc, -⟩ := (Relation.ReflTransGen.cases_head hmutual.1).resolve_left (Ne.symm hne)
    obtain ⟨c, hc, hx⟩ := List.mem_flatten.mp (hcs.covers x (hclosed x z harc).1)
    refine ⟨c, ⟨hc, ?_⟩, hx⟩
    have hy := (hcs.strong c hc x hx y).mpr hmutual
    rcases c with _ | ⟨a, _ | ⟨b, rest⟩⟩
    · exact nomatch hx
    · rw [List.mem_singleton] at hx hy
      exact absurd (hy.trans hx.symm) hne
    · simp

/-- The node that is found is the least one that leads to another one and back. -/
theorem StrongPartition.leastLarge?_eq_some_iff (hcs : g.StrongPartition cs) {m : Int} :
    leastLarge? cs = some m ↔ LeastOnCycle g.successors m := by
  rw [leastLarge?, List.min?_eq_some_iff, hcs.mem_large_iff hclosed]
  simp only [hcs.mem_large_iff hclosed]
  constructor
  · exact fun ⟨hon, hle⟩ => ⟨hon, fun x y hne hmutual => hle x ⟨y, hne, hmutual⟩⟩
  · rintro ⟨hon, hle⟩
    exact ⟨hon, fun x ⟨y, hne, hmutual⟩ => hle x y hne hmutual⟩

/-- If no node is found, no two nodes lead to each other. -/
theorem StrongPartition.eq_of_mutual (hcs : g.StrongPartition cs) (h : leastLarge? cs = none)
    {x y : Int} (hmutual : Mutual g.successors x y) : y = x := by
  rw [leastLarge?, List.min?_eq_none_iff] at h
  by_contra hne
  have hmem := (hcs.mem_large_iff hclosed).mpr ⟨y, hne, hmutual⟩
  rw [h] at hmem
  exact nomatch hmem

/-- The node does not depend on how the components are found. -/
theorem StrongPartition.leastLarge?_eq (hcs : g.StrongPartition cs) (hcs' : g.StrongPartition cs') :
    leastLarge? cs = leastLarge? cs' := by
  ext m
  rw [hcs.leastLarge?_eq_some_iff hclosed, hcs'.leastLarge?_eq_some_iff hclosed]

end Least

/-- The search for components over all of the range of a graph finds them. -/
theorem findsComponents_rangeComponents : FindsComponents rangeComponents := by
  intro g hrange hclosed
  have hmem : ∀ x, x ∈ (List.range g.order.toNat).map Int.ofNat ↔ g.inRange x = true := by
    intro x
    simp only [List.mem_map, List.mem_range, inRange, Bool.and_eq_true, decide_eq_true_eq]
    constructor
    · rintro ⟨n, hn, rfl⟩
      simp only [Int.ofNat_eq_natCast]
      omega
    · exact fun hx => ⟨x.toNat, by omega, Int.toNat_of_nonneg hx.1⟩
  have hnodes : ∀ x, ReachedFrom g.successors ((List.range g.order.toNat).map Int.ofNat) x →
      x ∈ (List.range g.order.toNat).map Int.ofNat := by
    rintro x ⟨n, hn, hlead⟩
    rcases Relation.ReflTransGen.cases_tail hlead with rfl | ⟨y, -, harc⟩
    · exact hn
    · exact (hmem x).mpr (hrange x (hclosed y x harc).2)
  obtain ⟨-, hcs, hreached⟩ := components?_spec hnodes (show _ ≤ g.order.toNat by simp)
  refine ⟨hcs.disjoint, fun x hx => ?_, fun c hc x hx y => (hcs.strong c hc).2 x hx y⟩
  exact (hreached x).mpr ⟨x, (hmem x).mpr (hrange x hx), .refl⟩

/-! ### 3. Cycles from their least node on -/

/-- The nodes of a cycle along arcs: the least one, and the others in order. -/
structure Listing (successors : Int → List Int) (m : Int) (p : List Int) : Prop where
  distinct : p.Nodup
  least : ∀ x ∈ p, m < x
  linked : (m :: p ++ [m]).IsChain fun x y => y ∈ successors x

theorem leads_of_isChain {successors : Int → List Int} {m : Int} {p : List Int}
    (h : (m :: p).IsChain fun x y => y ∈ successors x) {x : Int} (hx : x ∈ p) :
    Leads successors m x :=
  h.cons_induction (Leads successors m) p (fun _ _ harc hlead => .tail hlead harc) .refl x hx

/-- All nodes of a closed way lead to each other. -/
theorem mutual_of_isChain {successors : Int → List Int} {m : Int} {p : List Int}
    (h : (m :: p ++ [m]).IsChain fun x y => y ∈ successors x) {x : Int} (hx : x ∈ p) :
    Mutual successors m x := by
  refine ⟨leads_of_isChain h (List.mem_append_left _ hx), ?_⟩
  obtain ⟨before, after, rfl⟩ := List.append_of_mem hx
  rw [List.cons_append, List.append_assoc, List.cons_append, List.isChain_cons_split] at h
  exact leads_of_isChain h.2 (by simp)

theorem exists_arc_of_isChain {successors : Int → List Int} {m : Int} {p : List Int}
    (h : (m :: p ++ [m]).IsChain fun x y => y ∈ successors x) {x : Int} (hx : x ∈ m :: p) :
    ∃ y, y ∈ successors x := by
  obtain ⟨before, after, hsplit⟩ := List.append_of_mem hx
  obtain ⟨y, rest, hrest⟩ := List.exists_cons_of_ne_nil (List.concat_ne_nil m after)
  have hnext : m :: p ++ [m] = before ++ x :: y :: rest := by
    rw [hsplit, List.append_assoc, List.cons_append, hrest]
  exact ⟨y, List.isChain_iff_forall_rel_of_append_cons_cons.mp h hnext⟩

theorem Listing.nodup {successors : Int → List Int} {m : Int} {p : List Int}
    (h : Listing successors m p) : (m :: p).Nodup :=
  List.nodup_cons.mpr ⟨fun hm => lt_irrefl m (h.least m hm), h.distinct⟩

theorem Listing.isChain_ne {successors : Int → List Int} {m : Int} {p : List Int}
    (h : Listing successors m p) (hp : p ≠ []) : (m :: p ++ [m]).IsChain (· ≠ ·) := by
  rw [List.isChain_append]
  refine ⟨h.nodup.isChain, List.isChain_singleton _, ?_⟩
  rcases List.eq_nil_or_concat p with rfl | ⟨q, last, rfl⟩
  · exact absurd rfl hp
  · have hlast : m < last := h.least last (by simp)
    rw [List.concat_eq_append, ← List.cons_append, List.getLast?_concat]
    simpa using hlast.ne'

/-- The listing of a cycle of two or more nodes, all of them from a position on. -/
def ListedFrom (g : Digraph) (start : Nat) (c : List Int) : Prop :=
  ∃ m p, c = m :: p ++ [m] ∧ p ≠ [] ∧ Listing g.successors m p ∧
    ∀ x ∈ m :: p, x ∈ g.keys.drop start

section Listed

variable {g : Digraph} {start : Nat} {m : Int}

theorem Listing.linked_partFrom (hg : g.Proper) {p : List Int} (h : Listing g.successors m p)
    (hp : p ≠ []) (hin : ∀ x ∈ m :: p, x ∈ g.keys.drop start) :
    (m :: p ++ [m]).IsChain fun x y => y ∈ (g.partFrom start).successors x := by
  have hlinked := List.isChain_iff_forall_rel_of_append_cons_cons.mp h.linked
  have hne := List.isChain_iff_forall_rel_of_append_cons_cons.mp (h.isChain_ne hp)
  have hin' : ∀ x ∈ m :: p ++ [m], x ∈ g.keys.drop start := by
    intro x hx
    rcases List.mem_append.mp hx with hx | hx
    · exact hin x hx
    · rw [List.mem_singleton.mp hx]
      exact hin m List.mem_cons_self
  rw [List.isChain_iff_forall_rel_of_append_cons_cons]
  intro x y before after hsplit
  rw [mem_successors_partFrom hg]
  exact ⟨⟨hin' x (by simp [hsplit]), hin' y (by simp [hsplit])⟩, hlinked hsplit,
    (hne hsplit).symm⟩

theorem Listing.exists_mutual (hg : g.Proper) {p : List Int} (h : Listing g.successors m p)
    (hp : p ≠ []) (hin : ∀ x ∈ m :: p, x ∈ g.keys.drop start) :
    ∃ y, y ≠ m ∧ Mutual (g.partFrom start).successors m y := by
  obtain ⟨y, hy⟩ := List.exists_mem_of_ne_nil p hp
  exact ⟨y, (h.least y hy).ne', mutual_of_isChain (h.linked_partFrom hg hp hin) hy⟩

/-- The cycles of a part through its least node on a cycle. -/
theorem circuit_partFrom_iff (hg : g.Proper) (hm : LeastOnCycle (g.partFrom start).successors m)
    {c : List Int} : Circuit (g.partFrom start).successors m c ↔
      ∃ p, c = m :: p ++ [m] ∧ p ≠ [] ∧ Listing g.successors m p ∧
        ∀ x ∈ m :: p, x ∈ g.keys.drop start := by
  constructor
  · intro h
    obtain ⟨q, rfl, hq⟩ := h.closes
    obtain ⟨p, rfl⟩ := hq.begins
    rw [List.singleton_append] at hq h
    have hmutual : ∀ x ∈ p, Mutual (g.partFrom start).successors m x :=
      fun x hx => mutual_of_isChain h.linked hx
    have hne : ∀ x ∈ p, x ≠ m := by
      rintro x hx rfl
      exact (List.nodup_cons.mp hq.distinct).1 hx
    have hp : p ≠ [] := by
      rintro rfl
      have harc : m ∈ (g.partFrom start).successors m := by simpa using h.linked
      exact ((mem_successors_partFrom hg).mp harc).2.2 rfl
    have hin : ∀ x ∈ m :: p, x ∈ g.keys.drop start := by
      intro x hx
      obtain ⟨y, harc⟩ := exists_arc_of_isChain h.linked hx
      exact ((mem_successors_partFrom hg).mp harc).1.1
    refine ⟨p, rfl, hp, ⟨(List.nodup_cons.mp hq.distinct).2, fun x hx => ?_, ?_⟩, hin⟩
    · have hle := hm.least x m (hne x hx).symm (hmutual x hx).symm
      exact lt_of_le_of_ne hle (hne x hx).symm
    · exact h.linked.imp fun x y harc => ((mem_successors_partFrom hg).mp harc).2.1
  · rintro ⟨p, rfl, hp, h, hin⟩
    have hlinked := h.linked_partFrom hg hp hin
    exact ⟨⟨m :: p, rfl, ⟨p, rfl⟩, h.nodup, hlinked.left_of_append⟩, hlinked⟩

end Listed

/-! ### 4. All cycles of two or more nodes -/

section Positions

variable {l : List Int} {m x : Int}

theorem mem_drop_idxOf (h : l.Pairwise (· < ·)) (hm : m ∈ l) :
    x ∈ l.drop (l.idxOf m + 1) ↔ x ∈ l ∧ m < x := by
  obtain ⟨before, after, rfl⟩ := List.append_of_mem hm
  rw [List.pairwise_append, List.pairwise_cons] at h
  have hbefore : m ∉ before := fun hin => lt_irrefl m (h.2.2 m hin m List.mem_cons_self)
  rw [List.idxOf_append_of_notMem hbefore, List.idxOf_cons_self, Nat.add_zero,
    List.drop_length_add_append, List.drop_succ_cons, List.drop_zero, List.mem_append,
    List.mem_cons]
  constructor
  · exact fun hx => ⟨.inr (.inr hx), h.2.1.1 x hx⟩
  · rintro ⟨hx | rfl | hx, hlt⟩
    · exact absurd (h.2.2 x hx m List.mem_cons_self) (lt_asymm hlt)
    · exact absurd hlt (lt_irrefl x)
    · exact hx

theorem le_idxOf_of_mem_drop (h : l.Pairwise (· < ·)) {n : Nat} (hm : m ∈ l.drop n) :
    n ≤ l.idxOf m := by
  obtain ⟨i, hi, rfl⟩ := List.mem_drop_iff_getElem.mp hm
  rw [List.Nodup.idxOf_getElem (h.imp fun hlt => hlt.ne)]
  exact Nat.le_add_right _ _

end Positions

section From

variable {g : Digraph} {start : Nat} {m : Int}

theorem not_listedFrom_of_none (hg : g.Proper)
    (hnone : ∀ x y, Mutual (g.partFrom start).successors x y → y = x) (c : List Int) :
    ¬ListedFrom g start c := by
  rintro ⟨m, p, rfl, hp, hlisting, hin⟩
  obtain ⟨y, hne, hmutual⟩ := hlisting.exists_mutual hg hp hin
  exact hne (hnone m y hmutual)

theorem mem_drop_of_least (hg : g.Proper) (hm : LeastOnCycle (g.partFrom start).successors m) :
    m ∈ g.keys.drop start := by
  obtain ⟨y, hne, hmutual⟩ := hm.onCycle
  obtain ⟨z, harc, -⟩ := (Relation.ReflTransGen.cases_head hmutual.1).resolve_left (Ne.symm hne)
  exact ((mem_successors_partFrom hg).mp harc).1.1

/-- A cycle goes through the least node on a cycle, or lies behind it. -/
theorem listedFrom_iff (hg : g.Proper) (hm : LeastOnCycle (g.partFrom start).successors m)
    (c : List Int) : ListedFrom g start c ↔
      Circuit (g.partFrom start).successors m c ∨ ListedFrom g (g.keys.idxOf m + 1) c := by
  have hdrop := mem_drop_of_least hg hm
  have hkey := List.mem_of_mem_drop hdrop
  have hle := le_idxOf_of_mem_drop hg.sorted hdrop
  rw [circuit_partFrom_iff hg hm]
  constructor
  · rintro ⟨k, p, rfl, hp, hlisting, hin⟩
    obtain ⟨y, hne, hmutual⟩ := hlisting.exists_mutual hg hp hin
    rcases (hm.least k y hne hmutual).eq_or_lt with rfl | hlt
    · exact .inl ⟨p, rfl, hp, hlisting, hin⟩
    · refine .inr ⟨k, p, rfl, hp, hlisting, fun x hx => ?_⟩
      rw [mem_drop_idxOf hg.sorted hkey]
      refine ⟨List.mem_of_mem_drop (hin x hx), ?_⟩
      rcases List.mem_cons.mp hx with rfl | hx
      · exact hlt
      · exact hlt.trans (hlisting.least x hx)
  · rintro (⟨p, rfl, hp, hlisting, hin⟩ | ⟨k, p, rfl, hp, hlisting, hin⟩)
    · exact ⟨m, p, rfl, hp, hlisting, hin⟩
    · refine ⟨k, p, rfl, hp, hlisting, fun x hx => ?_⟩
      exact List.drop_subset_drop_left _ (by omega) (hin x hx)

theorem not_listedFrom_of_circuit (hg : g.Proper)
    (hm : LeastOnCycle (g.partFrom start).successors m) {c : List Int}
    (hc : Circuit (g.partFrom start).successors m c) : ¬ListedFrom g (g.keys.idxOf m + 1) c := by
  rintro ⟨k, q, heq, -, -, hin⟩
  obtain ⟨p, rfl, -⟩ := (circuit_partFrom_iff hg hm).mp hc
  obtain ⟨rfl, -⟩ := List.cons.inj heq
  have hkey := List.mem_of_mem_drop (mem_drop_of_least hg hm)
  exact lt_irrefl m ((mem_drop_idxOf hg.sorted hkey).mp (hin m List.mem_cons_self)).2

theorem not_listedFrom_of_le (hlength : g.keys.length ≤ start) (c : List Int) :
    ¬ListedFrom g start c := by
  rintro ⟨m, p, -, -, -, hin⟩
  have hm := hin m List.mem_cons_self
  rw [List.drop_eq_nil_of_le hlength] at hm
  exact nomatch hm

/-- **The cycles of two or more nodes** from a position on, if there is a round for each node. -/
theorem cyclesFrom?_spec {strong strong' : Digraph → List (List Int)}
    (hstrong : FindsComponents strong) (hstrong' : FindsComponents strong') (hg : g.Proper)
    (fuel : Nat) : ∀ {start : Nat}, start ≤ g.keys.length → g.keys.length < fuel + start →
      ∃ cs, cyclesFrom? g strong fuel start = some cs ∧ cyclesFrom? g strong' fuel start = some cs ∧
        cs.Nodup ∧ ∀ c, c ∈ cs ↔ ListedFrom g start c := by
  -- where there is no cycle, the empty list is the answer
  have hempty : ∀ {start : Nat}, (∀ c, ¬ListedFrom g start c) →
      ([] : List (List Int)).Nodup ∧ ∀ c, c ∈ [] ↔ ListedFrom g start c :=
    fun hnot => ⟨List.nodup_nil, fun c => ⟨nofun, fun hc => absurd hc (hnot c)⟩⟩
  induction fuel with
  | zero =>
    intro start hstart hfuel
    omega
  | succ fuel ih =>
    intro start hstart hfuel
    rw [cyclesFrom?, cyclesFrom?]
    by_cases hlength : g.keys.length ≤ start
    · rw [if_pos hlength, if_pos hlength]
      exact ⟨[], rfl, rfl, hempty (not_listedFrom_of_le hlength)⟩
    · have hrange : ∀ x ∈ (g.partFrom start).keys, (g.partFrom start).inRange x = true :=
        fun x => inRange_partFrom hg
      have hpart := hstrong _ hrange closed_partFrom
      have hpart' := hstrong' _ hrange closed_partFrom
      rw [if_neg hlength, if_neg hlength]
      dsimp only
      rw [rangeClosed_partFrom hg (Nat.lt_of_not_le hlength),
        hpart'.leastLarge?_eq closed_partFrom hpart]
      cases hleast : leastLarge? (strong (g.partFrom start)) with
      | none =>
        refine ⟨[], rfl, rfl, hempty (not_listedFrom_of_none hg fun x y hmutual => ?_)⟩
        exact hpart.eq_of_mutual closed_partFrom hleast hmutual
      | some m =>
        have hm := (hpart.leastLarge?_eq_some_iff closed_partFrom).mp hleast
        have hdrop := mem_drop_of_least hg hm
        have hpos := le_idxOf_of_mem_drop hg.sorted hdrop
        have hlt := List.idxOf_lt_length_of_mem (List.mem_of_mem_drop hdrop)
        obtain ⟨cs, hcs, hcs', hnodup, hmem⟩ :=
          ih hlt (show g.keys.length < fuel + (g.keys.idxOf m + 1) by omega)
        obtain ⟨r, hr, new, hfound, hnew, hcircuits, -⟩ := CycleSearch.lists_circuit
          closed_partFrom nodup_successors_partFrom (mem_keys_partFrom.mpr hdrop)
        refine ⟨new ++ cs, ?_, ?_, ?_, fun c => ?_⟩
        · simp [hr, hcs, hfound]
        · simp [hr, hcs', hfound]
        · rw [List.nodup_append]
          refine ⟨hnew, hnodup, ?_⟩
          rintro c hc d hd rfl
          exact not_listedFrom_of_circuit hg hm ((hcircuits c).mp hc) ((hmem c).mp hd)
        · rw [List.mem_append, hcircuits, hmem, listedFrom_iff hg hm]

end From

/-! ### 5. All cycles -/

section All

variable {g : Digraph}

theorem Listing.mem_keys (hg : g.Proper) {m : Int} {p : List Int} (h : Listing g.successors m p)
    {x : Int} (hx : x ∈ m :: p) : x ∈ g.keys := by
  obtain ⟨y, harc⟩ := exists_arc_of_isChain h.linked hx
  exact (hg.closed x y harc).1

theorem mem_loops_iff (hg : g.Proper) {c : List Int} :
    c ∈ (g.keys.filter fun k => (g.successors k).contains k).map (fun k => [k, k]) ↔
      ∃ m, c = [m, m] ∧ Listing g.successors m [] := by
  simp only [List.mem_map, List.mem_filter, List.contains_iff_mem]
  constructor
  · rintro ⟨k, ⟨-, harc⟩, rfl⟩
    exact ⟨k, rfl, List.nodup_nil, by simp, by simpa using harc⟩
  · rintro ⟨m, rfl, hlisting⟩
    have harc : m ∈ g.successors m := by simpa using hlisting.linked
    exact ⟨m, ⟨(hg.closed m m harc).1, harc⟩, rfl⟩

/-- **The cycles of a graph** are listed from their least nodes on, each once. -/
theorem cycles?_spec {strong strong' : Digraph → List (List Int)}
    (hstrong : FindsComponents strong) (hstrong' : FindsComponents strong') (hg : g.Proper) :
    ∃ cs, g.cycles? strong = some cs ∧ g.cycles? strong' = some cs ∧
      cs.Nodup ∧ ∀ c, c ∈ cs ↔ ∃ m p, c = m :: p ++ [m] ∧ Listing g.successors m p := by
  obtain ⟨cs, hcs, hcs', hnodup, hmem⟩ := cyclesFrom?_spec hstrong hstrong' hg
    (g.keys.length + 1) (Nat.zero_le _) (Nat.lt_succ_self _)
  refine ⟨_, by rw [cycles?, hcs]; rfl, by rw [cycles?, hcs']; rfl, ?_, ?_⟩
  · rw [List.nodup_append]
    refine ⟨?_, hnodup, ?_⟩
    · refine List.Nodup.map (fun a b hab => (List.cons.inj hab).1) (List.Nodup.filter _ ?_)
      exact hg.sorted.imp fun hlt => hlt.ne
    · rintro c hc d hd rfl
      obtain ⟨k, rfl, -⟩ := (mem_loops_iff hg).mp hc
      obtain ⟨m, p, heq, hp, -⟩ := (hmem _).mp hd
      have hlength : p.length = 0 := by simpa using congrArg List.length heq
      exact hp (List.eq_nil_of_length_eq_zero hlength)
  · intro c
    rw [List.mem_append, mem_loops_iff hg, hmem]
    constructor
    · rintro (⟨m, rfl, hlisting⟩ | ⟨m, p, rfl, -, hlisting, -⟩)
      · exact ⟨m, [], rfl, hlisting⟩
      · exact ⟨m, p, rfl, hlisting⟩
    · rintro ⟨m, p, rfl, hlisting⟩
      by_cases hp : p = []
      · exact .inl ⟨m, by rw [hp]; rfl, hp ▸ hlisting⟩
      · exact .inr ⟨m, p, rfl, hp, hlisting, fun x hx => hlisting.mem_keys hg hx⟩

end All

/-! ### 6. Cyclic sequences -/

section Cyclic

variable {successors : Int → List Int}

/-- A cyclic sequence of distinct nodes along arcs has a listing. -/
theorem exists_listing {c : Cycle Int} (hne : c ≠ Cycle.nil) (hnodup : c.Nodup)
    (hchain : c.Chain fun x y => y ∈ successors x) :
    ∃ m p, c = (m :: p : List Int) ∧ Listing successors m p := by
  induction c using Quotient.inductionOn with
  | _ l =>
    have hl : l ≠ [] := by
      rintro rfl
      exact hne rfl
    obtain ⟨m, hmin⟩ := Option.isSome_iff_exists.mp (List.isSome_min?_of_ne_nil hl)
    obtain ⟨hm, hle⟩ := List.min?_eq_some_iff.mp hmin
    obtain ⟨before, after, rfl⟩ := List.append_of_mem hm
    have hrotate : ((before ++ m :: after : List Int) : Cycle Int) =
        (m :: (after ++ before) : List Int) := by
      rw [Cycle.coe_eq_coe, ← List.cons_append]
      exact List.isRotated_append
    change ((before ++ m :: after : List Int) : Cycle Int).Nodup at hnodup
    change ((before ++ m :: after : List Int) : Cycle Int).Chain _ at hchain
    rw [hrotate, Cycle.nodup_coe_iff, List.nodup_cons] at hnodup
    rw [hrotate, Cycle.chain_coe_cons] at hchain
    refine ⟨m, after ++ before, hrotate, hnodup.2, fun x hx => ?_, hchain⟩
    have hx' : x ∈ before ++ m :: after := by
      rcases List.mem_append.mp hx with hx | hx <;> simp [hx]
    refine lt_of_le_of_ne (hle x hx') ?_
    rintro rfl
    exact hnodup.1 hx

theorem Listing.eq_of_isRotated {m n : Int} {p q : List Int} (hp : Listing successors m p)
    (hq : Listing successors n q) (h : m :: p ~r n :: q) : m :: p = n :: q := by
  obtain ⟨k, hk, hrotate⟩ := List.isRotated_iff_mod.mp h
  rw [List.rotate_eq_drop_append_take hk] at hrotate
  have hsplit := List.take_append_drop k (m :: p)
  generalize (m :: p).take k = a, (m :: p).drop k = b at hrotate hsplit
  rcases a with _ | ⟨x, a⟩
  · rw [← hsplit, ← hrotate, List.nil_append, List.append_nil]
  rcases b with _ | ⟨y, b⟩
  · rw [← hsplit, ← hrotate, List.nil_append, List.append_nil]
  -- each of the two least nodes would come behind the other one
  obtain ⟨rfl, rfl⟩ := List.cons.inj hsplit
  obtain ⟨rfl, rfl⟩ := List.cons.inj hrotate
  have hlt : x < y := hp.least y (by simp)
  have hlt' : y < x := hq.least x (by simp)
  omega

end Cyclic

/-- **All elementary cycles, each once.**  For a graph of distinct nodes in its range, and any
    arcs, the listing ends and meets none of its bounds.  Taken as cyclic sequences, the lists
    are the sequences of distinct nodes along the arcs between these nodes, with no repetition;
    and each list begins and ends with the least node of its cycle.  How the components are
    found plays no role.  The parts that lose their loops are graphs of their own: the graph
    itself keeps all of its arcs. -/
theorem cycles_exact {order : Int} {nodes : List Int} (pairs : List (Int × Int))
    (labels : List (Int × String)) (hnodup : nodes.Nodup)
    (hrange : ∀ x ∈ nodes, 0 ≤ x ∧ x < order) {strong : Digraph → List (List Int)}
    (hstrong : FindsComponents strong) :
    ∃ cs, (make order nodes pairs labels).cycles? strong = some cs ∧
      (make order nodes pairs labels).cycles? = some cs ∧
      (∀ x y, y ∈ (make order nodes pairs labels).successors x ↔
        x ∈ nodes ∧ y ∈ nodes ∧ (x, y) ∈ pairs) ∧
      (cs.map fun c => (c.dropLast : Cycle Int)).Nodup ∧
      (∀ c : Cycle Int, c ∈ cs.map (fun c => (c.dropLast : Cycle Int)) ↔
        c ≠ Cycle.nil ∧ c.Nodup ∧
          c.Chain fun x y => x ∈ nodes ∧ y ∈ nodes ∧ (x, y) ∈ pairs) ∧
      ∀ c ∈ cs, ∃ m p, c = m :: p ++ [m] ∧ (m :: p).Nodup ∧ (∀ x ∈ p, m < x) ∧
        c.IsChain fun x y => x ∈ nodes ∧ y ∈ nodes ∧ (x, y) ∈ pairs := by
  have hg : (make order nodes pairs labels).Proper := proper_make hnodup hrange
  have harc : ∀ x y, y ∈ (make order nodes pairs labels).successors x ↔
      x ∈ nodes ∧ y ∈ nodes ∧ (x, y) ∈ pairs := fun _ _ => mem_successors_make
  obtain ⟨cs, hgiven, hown, hcs, hmem⟩ :=
    cycles?_spec hstrong findsComponents_rangeComponents hg
  refine ⟨cs, hgiven, hown, harc, ?_⟩
  simp only [← harc]
  refine ⟨?_, ?_, ?_⟩
  · refine List.Nodup.map_on ?_ hcs
    intro c hc d hd heq
    obtain ⟨m, p, rfl, hp⟩ := (hmem c).mp hc
    obtain ⟨n, q, rfl, hq⟩ := (hmem d).mp hd
    rw [List.dropLast_concat, List.dropLast_concat, Cycle.coe_eq_coe] at heq
    have hsame := hp.eq_of_isRotated hq heq
    rw [hsame, (List.cons.inj hsame).1]
  · intro c
    rw [List.mem_map]
    constructor
    · rintro ⟨l, hl, rfl⟩
      obtain ⟨m, p, rfl, hlisting⟩ := (hmem l).mp hl
      rw [List.dropLast_concat, Cycle.nodup_coe_iff, Cycle.chain_coe_cons]
      exact ⟨Cycle.coe_nil ▸ by simp, hlisting.nodup, hlisting.linked⟩
    · rintro ⟨hne, hdistinct, hchain⟩
      obtain ⟨m, p, rfl, hlisting⟩ := exists_listing hne hdistinct hchain
      exact ⟨m :: p ++ [m], (hmem _).mpr ⟨m, p, rfl, hlisting⟩, by rw [List.dropLast_concat]⟩
  · intro c hc
    obtain ⟨m, p, rfl, hlisting⟩ := (hmem c).mp hc
    exact ⟨m, p, rfl, hlisting.nodup, hlisting.least, hlisting.linked⟩

/-- Arcs of two cycles with a common part and of a loop, and one that leaves the nodes. -/
def knot : List (Int × Int) := [(0, 1), (1, 2), (2, 0), (1, 0), (2, 3), (3, 3), (0, 4)]

theorem cycles_knot :
    (make 5 [2, 0, 1, 3] knot []).cycles? = some [[3, 3], [0, 1, 0], [0, 1, 2, 0]] := by
  cbv

theorem cycles_exact_knot :
    ([2, 0, 1, 3] : List Int).Nodup ∧ (∀ x ∈ [2, 0, 1, 3], (0 : Int) ≤ x ∧ x < 5) ∧
      FindsComponents rangeComponents ∧
      (make 5 [2, 0, 1, 3] knot []).cycles? rangeComponents =
        some [[3, 3], [0, 1, 0], [0, 1, 2, 0]] ∧
      ∀ c : Cycle Int, c ∈ ([[3], [0, 1], [0, 1, 2]] : List (List Int)).map (↑) ↔
        c ≠ Cycle.nil ∧ c.Nodup ∧
          c.Chain fun x y => x ∈ [2, 0, 1, 3] ∧ y ∈ [2, 0, 1, 3] ∧ (x, y) ∈ knot := by
  have hnodup : ([2, 0, 1, 3] : List Int).Nodup := by decide
  have hrange : ∀ x ∈ [2, 0, 1, 3], (0 : Int) ≤ x ∧ x < 5 := by decide
  obtain ⟨cs, hgiven, -, -, -, hcycles, -⟩ :=
    cycles_exact knot [] hnodup hrange findsComponents_rangeComponents
  rw [cycles_knot, Option.some.injEq] at hgiven
  subst hgiven
  exact ⟨hnodup, hrange, findsComponents_rangeComponents, cycles_knot, hcycles⟩

end DropFlow.Digraph
