/-
  DropFlow/Flow/Bounds.lean
  =========================
  Why the propagation ends.

  All cells of a run lie in finitely many slots, their places are made of finitely many
  steps and are not deeper than a fixed depth, and all objects come from a finite list.
  Such bounds hold at the start, and each step keeps them: a cell that is created lies
  in the slot of a cell that exists, and its steps are steps of places that exist.  So
  the number of pairs of a cell and an object in it is bounded, and a step that does
  not only shorten the work adds such a pair.
-/
import DropFlow.Flow.Propagation

namespace DropFlow.Flow

/-! ### 1. Counting -/

/-- A list without repetition is not longer than a list that contains its elements. -/
theorem length_le_of_nodup_of_forall_mem {α : Type} [DecidableEq α] {l m : List α}
    (hl : l.Nodup) (h : ∀ x ∈ l, x ∈ m) : l.length ≤ m.length := by
  induction l generalizing m with
  | nil => simp
  | cons x rest ih =>
    rw [List.nodup_cons] at hl
    have hx : x ∈ m := h x (List.mem_cons_self ..)
    have hrest : ∀ y ∈ rest, y ∈ m.erase x := fun y hy => by
      have hyx : y ≠ x := by rintro rfl; exact hl.1 hy
      exact (List.mem_erase_of_ne hyx).mpr (h y (List.mem_cons_of_mem x hy))
    have hlen := ih hl.2 hrest
    rw [List.length_erase_of_mem hx] at hlen
    have := List.length_pos_of_mem hx
    simp only [List.length_cons]
    omega

theorem nodup_toList (s : IdSet) : s.toList.Nodup :=
  s.sorted.imp fun h => Int.ne_of_lt h

theorem size_lt_size_union {s t : IdSet} {x : Int} (hx : x ∈ t) (hs : x ∉ s) :
    s.size < (s.union t).size := by
  have h := length_le_of_nodup_of_forall_mem (l := x :: s.toList) (m := (s.union t).toList)
    (List.nodup_cons.mpr ⟨hs, nodup_toList s⟩) (by
      intro y hy
      rcases List.mem_cons.mp hy with rfl | hy
      · exact IdSet.mem_union.mpr (Or.inr hx)
      · exact IdSet.mem_union.mpr (Or.inl hy))
  simp only [List.length_cons] at h
  exact h

/-- The contents of a list get more when one element gains some. -/
theorem length_flatMap_lt_length_flatMap_modify {α β : Type} (w : α → List β) (f : α → α) :
    ∀ (l : List α) (i : Nat) (a : α), l[i]? = some a → (w a).length < (w (f a)).length →
      (l.flatMap w).length < ((l.modify i f).flatMap w).length
  | [], _, _, h, _ => by simp at h
  | b :: rest, 0, a, h, hw => by
    simp only [List.getElem?_cons_zero, Option.some.injEq] at h
    subst h
    simpa only [List.modify_zero_cons, List.flatMap_cons, List.length_append,
      Nat.add_lt_add_iff_right] using hw
  | b :: rest, i + 1, a, h, hw => by
    rw [List.getElem?_cons_succ] at h
    have := length_flatMap_lt_length_flatMap_modify w f rest i a h hw
    simpa only [List.modify_succ_cons, List.flatMap_cons, List.length_append,
      Nat.add_lt_add_iff_left] using this

theorem exists_of_mem_modify {α : Type} (f : α → α) :
    ∀ (l : List α) (i : Nat) (x : α), x ∈ l.modify i f → ∃ y ∈ l, x = y ∨ x = f y
  | [], _, _, h => by simp at h
  | b :: rest, 0, x, h => by
    simp only [List.modify_zero_cons, List.mem_cons] at h
    rcases h with rfl | h
    · exact ⟨b, List.mem_cons_self .., Or.inr rfl⟩
    · exact ⟨x, List.mem_cons_of_mem b h, Or.inl rfl⟩
  | b :: rest, i + 1, x, h => by
    simp only [List.modify_succ_cons, List.mem_cons] at h
    rcases h with rfl | h
    · exact ⟨x, List.mem_cons_self .., Or.inl rfl⟩
    · obtain ⟨y, hy, e⟩ := exists_of_mem_modify f rest i x h
      exact ⟨y, List.mem_cons_of_mem b hy, e⟩

/-! ### 2. The cells after each operation -/

namespace Graph

theorem mem_cells_of_cell? {g : Graph} {id : Int} {c : Cell} (h : g.cell? id = some c) :
    c ∈ g.cells.toList := by
  unfold cell? at h
  split at h
  · rw [← Array.getElem?_toList] at h
    exact List.mem_of_getElem? h
  · simp at h

theorem mem_cells_of_mem_slotCells {g : Graph} {a : Activation} {slot id : Int} {c : Cell}
    (h : (id, c) ∈ g.slotCells a slot) : c ∈ g.cells.toList := by
  unfold slotCells numbered at h
  obtain ⟨⟨c', i⟩, hm, he⟩ := List.mem_map.mp (List.mem_filter.mp h).1
  simp only [Prod.mk.injEq] at he
  obtain ⟨_, rfl⟩ := he
  exact List.fst_mem_of_mem_zipIdx hm

theorem exists_of_mem_addObjects {g : Graph} {id : Int} {s : IdSet} {c : Cell}
    (h : c ∈ (g.addObjects id s).cells.toList) :
    ∃ d ∈ g.cells.toList, c.address = d.address ∧ ∀ o ∈ c.objects, o ∈ d.objects ∨ o ∈ s := by
  unfold addObjects modifyCell at h
  split at h
  · rw [Array.toList_modify] at h
    obtain ⟨d, hd, rfl | rfl⟩ := exists_of_mem_modify _ _ _ _ h
    · exact ⟨c, hd, rfl, fun o ho => Or.inl ho⟩
    · exact ⟨d, hd, rfl, fun o ho => IdSet.mem_union.mp ho⟩
  · exact ⟨c, h, rfl, fun o ho => Or.inl ho⟩

@[simp] theorem cells_markMultiDrop (g : Graph) (id : Int) :
    (g.markMultiDrop id).cells = g.cells := rfl

theorem cells_ensure_of_find?_eq_none {g : Graph} {a : Activation} {p : Place} (name : String)
    (h : g.find? a p = none) :
    (g.ensure a p name).1.cells = g.cells.push { activation := a, place := p, name } := by
  unfold ensure
  split
  · rename_i heq
    rw [h] at heq
    exact nomatch heq
  · rfl

end Graph

theorem cells_absorb (g : Graph) (id : Int) (delta : IdSet) :
    (absorb g id delta).cells = (g.addObjects id delta).cells := by
  unfold absorb
  dsimp only
  split
  · split <;> rfl
  · rfl

/-! ### 3. The pairs of a cell and an object in it -/

/-- The number of pairs of a cell and an object in it. -/
def total (g : Graph) : Nat := (g.cells.toList.flatMap fun c => c.objects.toList).length

theorem total_lt_total_absorb {g : Graph} {id : Int} {c : Cell} {delta : IdSet} {x : Int}
    (hc : g.cell? id = some c) (hx : x ∈ delta) (hn : x ∉ c.objects) :
    total g < total (absorb g id delta) := by
  unfold total
  rw [cells_absorb]
  unfold Graph.cell? at hc
  split at hc
  · rename_i hid
    rw [← Array.getElem?_toList] at hc
    unfold Graph.addObjects Graph.modifyCell
    rw [if_pos hid]
    dsimp only
    rw [Array.toList_modify]
    exact length_flatMap_lt_length_flatMap_modify _ _ _ _ c hc (size_lt_size_union hx hn)
  · simp at hc

theorem total_offer (r : Rules) (g : Graph) (delta : IdSet) (a : Activation) (p : Place) :
    total (offer r g delta a p).1 = total g := by
  unfold offer
  split
  · rfl
  · rename_i h
    dsimp only
    unfold total
    rw [Graph.cells_ensure_of_find?_eq_none _ h]
    simp [EmptyCollection.emptyCollection, IdSet.empty]

theorem total_offerAll (r : Rules) (delta : IdSet) (places : List (Activation × Place)) :
    ∀ g, total (offerAll r delta places g).graph = total g := by
  induction places with
  | nil => intro g; rfl
  | cons head rest ih =>
    obtain ⟨a, p⟩ := head
    intro g
    simp only [offerAll]
    split
    · exact ih g
    · exact (ih _).trans (total_offer r g delta a p)

/-! ### 4. Bounds -/

/-- Finite bounds for the cells and the objects of a run. -/
structure Bounds where
  slots : List (Activation × Int)
  steps : List Projection
  depth : Nat
  objects : List Int

/-- Whether a cell with an address may occur. -/
def Bounds.Allows (b : Bounds) (a : Activation) (p : Place) : Prop :=
  (a, p.slot) ∈ b.slots ∧ (∀ s ∈ p.steps, s ∈ b.steps) ∧ p.steps.length ≤ b.depth

/-- The words of at most `n` letters. -/
def words (letters : List Projection) : Nat → List (List Projection)
  | 0 => [[]]
  | n + 1 => [] :: letters.flatMap fun s => (words letters n).map (s :: ·)

theorem mem_words {letters : List Projection} :
    ∀ {n : Nat} {w : List Projection}, (∀ s ∈ w, s ∈ letters) → w.length ≤ n → w ∈ words letters n
  | 0, w, _, hw => by
    have : w = [] := List.length_eq_zero_iff.mp (Nat.le_zero.mp hw)
    simp [words, this]
  | n + 1, [], _, _ => by simp [words]
  | n + 1, s :: w, h, hw => by
    simp only [words, List.mem_cons, List.mem_flatMap, List.mem_map]
    refine Or.inr ⟨s, h s (List.mem_cons_self ..), w, ?_, rfl⟩
    exact mem_words (fun t ht => h t (List.mem_cons_of_mem s ht)) (Nat.le_of_succ_le_succ hw)

/-- All addresses that may occur. -/
def Bounds.addresses (b : Bounds) : List (Activation × Place) :=
  b.slots.flatMap fun (a, slot) => (words b.steps b.depth).map fun w => (a, ⟨slot, w⟩)

theorem Bounds.Allows.mem_addresses {b : Bounds} {a : Activation} {p : Place}
    (h : b.Allows a p) : (a, p) ∈ b.addresses := by
  unfold Bounds.addresses
  rw [List.mem_flatMap]
  exact ⟨(a, p.slot), h.1, List.mem_map.mpr ⟨p.steps, mem_words h.2.1 h.2.2, rfl⟩⟩

/-- The cells, the objects in them and the work of a run keep within bounds. -/
structure Within (r : Rules) (b : Bounds) (g : Graph) (pending : List WorkItem) : Prop where
  limit : r.limit ≤ b.depth
  cells : ∀ c ∈ g.cells.toList, b.Allows c.activation c.place
  objects : ∀ c ∈ g.cells.toList, ∀ o ∈ c.objects, o ∈ b.objects
  pending : ∀ item ∈ pending, ∀ o ∈ item.objects, o ∈ b.objects

/-- The bounds at the start of a run. -/
def Bounds.start (r : Rules) (g : Graph) (pending : List WorkItem) : Bounds where
  slots := g.cells.toList.map fun c => (c.activation, c.place.slot)
  steps := g.cells.toList.flatMap fun c => c.place.steps
  depth := r.limit + (g.cells.toList.flatMap fun c => c.place.steps).length
  objects := (g.cells.toList.flatMap fun c => c.objects.toList) ++
    pending.flatMap fun item => item.objects.toList

theorem length_le_length_flatMap {α β : Type} (f : α → List β) {l : List α} {a : α} (h : a ∈ l) :
    (f a).length ≤ (l.flatMap f).length := by
  induction l with
  | nil => simp at h
  | cons b rest ih =>
    simp only [List.flatMap_cons, List.length_append]
    rcases List.mem_cons.mp h with rfl | h
    · omega
    · have := ih h
      omega

theorem within_start (r : Rules) (g : Graph) (pending : List WorkItem) :
    Within r (.start r g pending) g pending where
  limit := Nat.le_add_right ..
  cells := fun c hc =>
    ⟨List.mem_map.mpr ⟨c, hc, rfl⟩, fun s hs => List.mem_flatMap.mpr ⟨c, hc, hs⟩, by
      have := length_le_length_flatMap (fun c : Cell => c.place.steps) hc
      simp only [Bounds.start]
      omega⟩
  objects := fun c hc o ho =>
    List.mem_append.mpr (Or.inl (List.mem_flatMap.mpr ⟨c, hc, ho⟩))
  pending := fun item hi o ho =>
    List.mem_append.mpr (Or.inr (List.mem_flatMap.mpr ⟨item, hi, ho⟩))

/-! ### 5. Each step keeps within the bounds -/

namespace Within

variable {r : Rules} {b : Bounds} {g : Graph} {pending : List WorkItem}

theorem withPending (h : Within r b g pending) {work : List WorkItem}
    (hw : ∀ item ∈ work, ∀ o ∈ item.objects, o ∈ b.objects) : Within r b g work :=
  { h with pending := hw }

theorem absorb (h : Within r b g pending) {id : Int} {delta : IdSet}
    (hd : ∀ o ∈ delta, o ∈ b.objects) : Within r b (absorb g id delta) pending where
  limit := h.limit
  cells := fun c hc => by
    rw [cells_absorb] at hc
    obtain ⟨d, hm, ha, _⟩ := Graph.exists_of_mem_addObjects hc
    have := h.cells d hm
    simp only [Cell.address, Prod.mk.injEq] at ha
    rw [ha.1, ha.2]
    exact this
  objects := fun c hc o ho => by
    rw [cells_absorb] at hc
    obtain ⟨d, hm, _, hor⟩ := Graph.exists_of_mem_addObjects hc
    rcases hor o ho with h' | h'
    · exact h.objects d hm o h'
    · exact hd o h'
  pending := h.pending

theorem offer (h : Within r b g pending) {delta : IdSet} (hd : ∀ o ∈ delta, o ∈ b.objects)
    {a : Activation} {p : Place} (hp : b.Allows a p) :
    Within r b (offer r g delta a p).1 (pending ++ (Flow.offer r g delta a p).2) := by
  unfold Flow.offer
  split
  · refine h.withPending fun item hi o ho => ?_
    rcases List.mem_append.mp hi with hi | hi
    · exact h.pending item hi o ho
    · rw [List.mem_singleton] at hi
      subst hi
      exact hd o ho
  · rename_i hnone
    dsimp only
    have hcells := Graph.cells_ensure_of_find?_eq_none (r.name a.function p) hnone
    have hallow : ∀ c ∈ (g.ensure a p (r.name a.function p)).1.cells.toList,
        b.Allows c.activation c.place := by
      intro c hc
      rw [hcells, Array.toList_push] at hc
      rcases List.mem_append.mp hc with hc | hc
      · exact h.cells c hc
      · rw [List.mem_singleton] at hc
        subst hc
        exact hp
    have hobjects : ∀ c ∈ (g.ensure a p (r.name a.function p)).1.cells.toList,
        ∀ o ∈ c.objects, o ∈ b.objects := by
      intro c hc o ho
      rw [hcells, Array.toList_push] at hc
      rcases List.mem_append.mp hc with hc | hc
      · exact h.objects c hc o ho
      · rw [List.mem_singleton] at hc
        subst hc
        exact absurd ho (IdSet.not_mem_empty o)
    refine ⟨h.limit, hallow, hobjects, fun item hi o ho => ?_⟩
    rcases List.mem_append.mp hi with hi | hi
    · exact h.pending item hi o ho
    · rcases List.mem_append.mp hi with hi | hi
      · unfold inherited at hi
        obtain ⟨⟨oid, oc⟩, hm, rfl⟩ := List.mem_map.mp hi
        exact hobjects oc (Graph.mem_cells_of_mem_slotCells (List.mem_filter.mp hm).1) o ho
      · rw [List.mem_singleton] at hi
        subst hi
        exact hd o ho

theorem offerAll {delta : IdSet} (hd : ∀ o ∈ delta, o ∈ b.objects)
    {places : List (Activation × Place)} :
    ∀ {g : Graph} {pending : List WorkItem}, Within r b g pending →
      (∀ a p, (a, p) ∈ places → p.depth ≤ r.limit → b.Allows a p) →
      Within r b (offerAll r delta places g).graph
        (pending ++ (Flow.offerAll r delta places g).work) := by
  induction places with
  | nil =>
    intro g pending h _
    simpa [Flow.offerAll] using h
  | cons head rest ih =>
    obtain ⟨a, p⟩ := head
    intro g pending h hp
    simp only [Flow.offerAll]
    have hrest : ∀ a' p', (a', p') ∈ rest → p'.depth ≤ r.limit → b.Allows a' p' :=
      fun a' p' hm hdep => hp a' p' (List.mem_cons_of_mem _ hm) hdep
    split
    · exact ih h hrest
    · rename_i hdepth
      have h' := h.offer hd (hp a p (List.mem_cons_self ..) (Nat.le_of_not_lt hdepth))
      have := ih h' hrest
      rwa [List.append_assoc] at this

end Within

theorem Within.sameParts {r : Rules} {b : Bounds} {g : Graph} {pending : List WorkItem}
    (h : Within r b g pending) {c : Cell} (hc : c ∈ g.cells.toList) {a : Activation} {p : Place}
    (hp : (a, p) ∈ sameParts g c) (hd : p.depth ≤ r.limit) : b.Allows a p := by
  unfold Flow.sameParts at hp
  obtain ⟨⟨oid, o⟩, _, hp⟩ := List.mem_flatMap.mp hp
  obtain ⟨target, _, hp⟩ := List.mem_filterMap.mp hp
  obtain ⟨t, ht, he⟩ := Option.map_eq_some_iff.mp hp
  simp only [Prod.mk.injEq] at he
  obtain ⟨rfl, rfl⟩ := he
  have htm := h.cells t (Graph.mem_cells_of_cell? ht)
  refine ⟨htm.1, fun s hs => ?_, Nat.le_trans hd h.limit⟩
  rcases List.mem_append.mp hs with hs | hs
  · exact htm.2.1 s hs
  · exact (h.cells c hc).2.1 s (List.mem_of_mem_drop hs)

/-- A step keeps within the bounds. -/
theorem Within.propagate {r : Rules} {b : Bounds} {g : Graph} {item : WorkItem}
    {rest : List WorkItem} (h : Within r b g (item :: rest)) :
    Within r b (propagate r g item).graph (rest ++ (Flow.propagate r g item).work) := by
  have hrest : Within r b g rest :=
    h.withPending fun i hi => h.pending i (List.mem_cons_of_mem item hi)
  have hdelta : ∀ o ∈ g.missing item.cell item.objects, o ∈ b.objects := fun o ho =>
    h.pending item (List.mem_cons_self ..) o (IdSet.mem_diff.mp ho).1
  unfold Flow.propagate
  dsimp only
  split
  · simpa using hrest
  · have habs : Within r b (Flow.absorb g item.cell (g.missing item.cell item.objects)) rest :=
      hrest.absorb hdelta
    split
    · simpa using habs
    · rename_i c hc
      have hcm := Graph.mem_cells_of_cell? hc
      unfold handOn
      dsimp only
      have hwork : Within r b (Flow.absorb g item.cell (g.missing item.cell item.objects))
          (rest ++
            ((Flow.absorb g item.cell (g.missing item.cell item.objects)).successors item.cell ++
            deeperCells (Flow.absorb g item.cell (g.missing item.cell item.objects)) c).map
              fun t => ⟨t, g.missing item.cell item.objects⟩) :=
        habs.withPending fun i hi o ho => by
          rcases List.mem_append.mp hi with hi | hi
          · exact hrest.pending i hi o ho
          · obtain ⟨t, _, rfl⟩ := List.mem_map.mp hi
            exact hdelta o ho
      have := Within.offerAll hdelta hwork fun a p hp hdep => habs.sameParts hcm hp hdep
      rwa [List.append_assoc] at this

/-! ### 6. The measure -/

theorem Within.total_le {r : Rules} {b : Bounds} {g : Graph} {pending : List WorkItem}
    (h : Within r b g pending) : total g ≤ b.addresses.length * b.objects.length := by
  have hsize : g.cells.toList.length ≤ b.addresses.length := by
    have := length_le_of_nodup_of_forall_mem g.distinct (m := b.addresses) (by
      intro x hx
      obtain ⟨c, hc, rfl⟩ := List.mem_map.mp hx
      exact (h.cells c hc).mem_addresses)
    simpa using this
  have hcell : ∀ c ∈ g.cells.toList, c.objects.size ≤ b.objects.length := fun c hc =>
    length_le_of_nodup_of_forall_mem (nodup_toList c.objects) (h.objects c hc)
  have hsum : ∀ l : List Cell, (∀ c ∈ l, c.objects.size ≤ b.objects.length) →
      (l.flatMap fun c => c.objects.toList).length ≤ l.length * b.objects.length := by
    intro l hl
    induction l with
    | nil => simp
    | cons c rest ih =>
      simp only [List.flatMap_cons, List.length_append, List.length_cons, Nat.succ_mul]
      have h1 : c.objects.toList.length ≤ b.objects.length := hl c (List.mem_cons_self ..)
      have h2 := ih fun d hd => hl d (List.mem_cons_of_mem c hd)
      omega
  exact Nat.le_trans (hsum _ hcell) (Nat.mul_le_mul_right _ hsize)

/-- How many pairs may still be added. -/
def room (b : Bounds) (g : Graph) : Nat := b.addresses.length * b.objects.length - total g

/-- A step either adds a pair, or leaves the graph alone and brings no work. -/
theorem total_propagate (r : Rules) (g : Graph) (item : WorkItem) :
    total g < total (propagate r g item).graph ∨
      (total (propagate r g item).graph = total g ∧ (propagate r g item).work = []) := by
  unfold propagate
  dsimp only
  split
  · exact Or.inr ⟨rfl, rfl⟩
  · rename_i hne
    obtain ⟨x, hx⟩ : ∃ x, x ∈ g.missing item.cell item.objects :=
      Classical.byContradiction fun hno =>
        hne (IdSet.isEmpty_iff.mpr fun x hx => hno ⟨x, hx⟩)
    have hnew := (IdSet.mem_diff.mp hx).2
    split
    · rename_i hnone
      refine Or.inr ⟨?_, rfl⟩
      have hcells : (absorb g item.cell (g.missing item.cell item.objects)).cells = g.cells := by
        rw [cells_absorb]
        rw [Graph.cell?, cells_absorb] at hnone
        unfold Graph.addObjects Graph.modifyCell at hnone ⊢
        split
        · rename_i hid
          rw [if_pos hid, if_pos hid] at hnone
          dsimp only at hnone ⊢
          rw [Array.getElem?_eq_none_iff, Array.size_modify] at hnone
          apply Array.toList_inj.mp
          rw [Array.toList_modify]
          exact List.modify_eq_self (by simpa using hnone)
        · rfl
      unfold total
      rw [hcells]
    · left
      have hold : ∃ d, g.cell? item.cell = some d := by
        rename_i c hc
        unfold Graph.cell? at hc ⊢
        rw [cells_absorb] at hc
        unfold Graph.addObjects Graph.modifyCell at hc
        split at hc
        · rename_i hid
          rw [if_pos hid]
          dsimp only at hc
          have hlt : item.cell.toNat < g.cells.size := by
            have := (Array.getElem?_eq_some_iff.mp hc).1
            simpa using this
          exact ⟨g.cells[item.cell.toNat], Array.getElem?_eq_getElem hlt⟩
        · simp at hc
      obtain ⟨d, hd⟩ := hold
      unfold handOn
      dsimp only
      rw [total_offerAll]
      refine total_lt_total_absorb hd hx ?_
      rwa [Graph.pointsTo, hd] at hnew

end DropFlow.Flow
