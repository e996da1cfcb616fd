/-
  DropFlow/Proofs/Flow/Activations.lean
  =====================================
  The activations that an analysis reaches, and the calls that it records.

  The calls of an activation are those of its blocks: each function that a call may
  invoke is entered in the context of the calling block.  No activation is reached
  twice, and all of them come from a block and a function of the program, so that the
  bound of the expansion is never met: everything that is reached is expanded.
-/
import DropFlow.Proofs.Flow.Contributions

namespace DropFlow

namespace Flow

/-! ### 1. The calls among the effects -/

/-- The calls among the effects of a block are its targets. -/
theorem call_mem_blockEffects {p : Program} {config : Config} {a : Activation} {f : Body}
    {b : Block} {block : BlockRef} {t : Int} :
    Effect.call block t ∈ blockEffects p config a f b ↔
      block = ⟨a.function, b.id⟩ ∧ t ∈ b.targets p config := by
  constructor
  · intro he
    rcases Block.brings_of_mem_blockEffects he with ⟨n, hn⟩ | hbrings
    · exact nomatch hn
    · cases hbrings with
      | call ht => exact ⟨rfl, ht⟩
  · rintro ⟨rfl, ht⟩
    obtain ⟨_, he⟩ := (Block.Brings.call (a := a) (f := f) ht).exists_mem
    exact he

theorem call_mem_activationEffects {p : Program} {config : Config} {a : Activation}
    {block : BlockRef} {t : Int} :
    Effect.call block t ∈ activationEffects p config a ↔
      ∃ f, (p.fetch a.function).body = .ok f ∧ ∃ b ∈ f.blocks, block = ⟨a.function, b.id⟩ ∧
        t ∈ b.targets p config := by
  unfold activationEffects
  split
  · rename_i f hf
    unfold bodyEffects
    rw [List.mem_flatMap]
    constructor
    · rintro ⟨b, hb, h⟩
      exact ⟨f, hf, b, hb, call_mem_blockEffects.mp h⟩
    · rintro ⟨f', hf', b, hb, h⟩
      rw [hf] at hf'
      cases hf'
      exact ⟨b, hb, call_mem_blockEffects.mpr h⟩
  · rename_i e he
    constructor
    · intro h
      exact nomatch h
    · rintro ⟨f, hf, _⟩
      rw [he] at hf
      exact nomatch hf

/-! ### 2. What effects reach -/

namespace Outline

theorem mem_calls_carry {w : Outline} {e : Effect} {x : BlockRef × Int} :
    x ∈ (w.carry e).calls.calls ↔ x ∈ w.calls.calls ∨ e = .call x.1 x.2 := by
  cases e with
  | call site callee =>
    simp only [carry, call, CallGraph.add, Effect.call.injEq]
    split
    · rename_i hin
      constructor
      · exact Or.inl
      · rintro (h | ⟨rfl, rfl⟩)
        · exact h
        · simpa using hin
    · rw [List.mem_append, List.mem_singleton]
      constructor
      · rintro (h | rfl)
        · exact Or.inl h
        · exact Or.inr ⟨rfl, rfl⟩
      · rintro (h | ⟨rfl, rfl⟩)
        · exact Or.inl h
        · exact Or.inr rfl
  | _ => simp [carry, link, drop]

theorem mem_calls_carryAll {effects : List Effect} {x : BlockRef × Int} : ∀ {w : Outline},
    x ∈ (w.carryAll effects).calls.calls ↔ x ∈ w.calls.calls ∨ .call x.1 x.2 ∈ effects := by
  induction effects with
  | nil => simp [carryAll]
  | cons e rest ih =>
    intro w
    have hcons : w.carryAll (e :: rest) = (w.carry e).carryAll rest := rfl
    rw [hcons, ih, mem_calls_carry, List.mem_cons, or_assoc, eq_comm]

theorem mem_reached_carry {w : Outline} {e : Effect} {a : Activation} :
    a ∈ (w.carry e).reached ↔ a ∈ w.reached ∨
      ∃ site callee, e = .call site callee ∧ a = ⟨callee, .call site.function site.block⟩ := by
  cases e with
  | call site callee =>
    simp only [carry, call, Effect.call.injEq]
    split
    · rename_i hin
      constructor
      · exact Or.inl
      · rintro (h | ⟨s, t, ⟨rfl, rfl⟩, rfl⟩)
        · exact h
        · simpa using hin
    · rw [List.mem_append, List.mem_singleton]
      constructor
      · rintro (h | rfl)
        · exact Or.inl h
        · exact Or.inr ⟨site, callee, ⟨rfl, rfl⟩, rfl⟩
      · rintro (h | ⟨s, t, ⟨rfl, rfl⟩, rfl⟩)
        · exact Or.inl h
        · exact Or.inr rfl
  | _ => simp [carry, link, drop]

theorem mem_reached_carryAll {effects : List Effect} {a : Activation} : ∀ {w : Outline},
    a ∈ (w.carryAll effects).reached ↔ a ∈ w.reached ∨ ∃ site callee,
      .call site callee ∈ effects ∧ a = ⟨callee, .call site.function site.block⟩ := by
  induction effects with
  | nil => simp [carryAll]
  | cons e rest ih =>
    intro w
    have hcons : w.carryAll (e :: rest) = (w.carry e).carryAll rest := rfl
    rw [hcons, ih, mem_reached_carry]
    constructor
    · rintro ((h | ⟨site, callee, rfl, h⟩) | ⟨site, callee, hm, h⟩)
      · exact Or.inl h
      · exact Or.inr ⟨site, callee, List.mem_cons_self .., h⟩
      · exact Or.inr ⟨site, callee, List.mem_cons_of_mem _ hm, h⟩
    · rintro (h | ⟨site, callee, hm, h⟩)
      · exact Or.inl (Or.inl h)
      · rcases List.mem_cons.mp hm with rfl | hm
        · exact Or.inl (Or.inr ⟨site, callee, rfl, h⟩)
        · exact Or.inr ⟨site, callee, hm, h⟩

theorem nodup_reached_carry {w : Outline} (h : w.reached.Nodup) (e : Effect) :
    (w.carry e).reached.Nodup := by
  cases e with
  | call site callee =>
    simp only [carry, call]
    split
    · exact h
    · rename_i hnew
      rw [List.nodup_append]
      refine ⟨h, (by simp), ?_⟩
      intro x hx y hy heq
      rw [List.mem_singleton.mp hy] at heq
      rw [heq] at hx
      exact hnew (by simpa using hx)
  | _ => exact h

end Outline

/-! ### 3. Everything reached is expanded -/

/-- The blocks of a program, by function. -/
def blockSites (p : Program) : List (Int × Int) :=
  p.entries.toList.zipIdx.flatMap fun (e, i) => e.source.blocks.map fun b => ((i : Int), b.id)

/-- The activations that a program can reach from an entry. -/
def activationSpace (p : Program) (entry : Int) : List Activation :=
  ⟨entry, .entry⟩ :: (List.range p.size).flatMap fun (t : Nat) =>
    (blockSites p).map fun (f, b) => ⟨(t : Int), .call f b⟩

theorem length_blockSites (p : Program) :
    (blockSites p).length = (p.entries.toList.flatMap fun e => e.source.blocks).length := by
  unfold blockSites
  rw [List.length_flatMap, List.length_flatMap]
  congr 1
  have hfst : p.entries.toList = p.entries.toList.zipIdx.map Prod.fst :=
    (List.zipIdx_map_fst 0 _).symm
  conv => rhs; rw [hfst]
  rw [List.map_map]
  refine List.map_congr_left fun x _ => ?_
  simp

theorem length_activationSpace (p : Program) (entry : Int) :
    (activationSpace p entry).length = activationBound p := by
  unfold activationSpace activationBound
  rw [List.length_cons, List.length_flatMap]
  have hconst : (List.range p.size).map (fun (t : Nat) => ((blockSites p).map fun (f, b) =>
      (⟨(t : Int), .call f b⟩ : Activation)).length) =
      List.replicate p.size (blockSites p).length := by
    rw [List.eq_replicate_iff]
    refine ⟨by simp, ?_⟩
    intro n hn
    obtain ⟨t, _, rfl⟩ := List.mem_map.mp hn
    rw [List.length_map]
  rw [hconst, List.sum_replicate_nat, length_blockSites]
  exact Nat.add_comm _ _

theorem mem_blockSites {p : Program} {id : Int} {f : Body} {b : Block}
    (hf : p.body id = .ok f) (hb : b ∈ f.blocks) : (id, b.id) ∈ blockSites p := by
  obtain ⟨e, he, _, hlower⟩ := Program.source_of_body_eq_ok hf
  have hids := (blocks_of_lowerFunction hlower).1
  have hm : b.id ∈ e.source.blocks.map (·.id) := by
    rw [← hids]
    exact List.mem_map.mpr ⟨b, hb, rfl⟩
  obtain ⟨sb, hsb, hid⟩ := List.mem_map.mp hm
  have hnonneg := (Program.bounds_of_function he).1
  unfold Program.function? at he
  rw [if_pos hnonneg] at he
  unfold blockSites
  rw [List.mem_flatMap]
  refine ⟨(e, id.toNat), ?_, List.mem_map.mpr ⟨sb, hsb, ?_⟩⟩
  · rw [List.mk_mem_zipIdx_iff_getElem?, Array.getElem?_toList]
    exact he
  · rw [hid, Int.toNat_of_nonneg hnonneg]

/-- What a coherent program reaches lies in the space. -/
theorem mem_activationSpace_of_call {p : Program} (hp : p.Coherent) {config : Config} {entry : Int}
    {a : Activation} {site : BlockRef} {callee : Int}
    (h : Effect.call site callee ∈ activationEffects p config a) :
    (⟨callee, .call site.function site.block⟩ : Activation) ∈ activationSpace p entry := by
  obtain ⟨f, hf, b, hb, rfl, ht⟩ := call_mem_activationEffects.mp h
  rw [hp.fetch_body] at hf
  obtain ⟨hlo, hhi⟩ := Block.bounds_of_mem_targets ht
  unfold activationSpace
  refine List.mem_cons_of_mem _ (List.mem_flatMap.mpr ⟨callee.toNat, ?_, ?_⟩)
  · rw [List.mem_range]
    omega
  · refine List.mem_map.mpr ⟨(a.function, b.id), mem_blockSites hf hb, ?_⟩
    dsimp only
    rw [Int.toNat_of_nonneg hlo]

/-- The activations of an expansion from an entry: they are distinct, and they are the entry and
    what the calls of the expanded ones lead to. -/
theorem Expansion.reached {p : Program} {config : Config} {entry : Int} {s : State}
    (h : Expansion p config (.entry entry) s) : s.reached.Nodup ∧
      ∀ a, a ∈ s.reached ↔ a = ⟨entry, .entry⟩ ∨ ∃ c ∈ s.reached.take s.expanded,
        ∃ site callee, .call site callee ∈ activationEffects p config c ∧
          a = ⟨callee, .call site.function site.block⟩ := by
  have houtline : s.reached = ((Outline.entry entry).carryAll
      ((s.reached.take s.expanded).flatMap (activationEffects p config))).reached :=
    congrArg Outline.reached h.outline
  constructor
  · rw [houtline]
    have hentry : (Outline.entry entry).reached.Nodup := List.pairwise_singleton ..
    exact Outline.carryAll_induction (P := fun w => w.reached.Nodup) hentry
      fun _ e _ hv => Outline.nodup_reached_carry hv e
  · intro a
    have hiff : a ∈ s.reached ↔ a ∈ (Outline.entry entry).reached ∨ ∃ site callee,
        .call site callee ∈ (s.reached.take s.expanded).flatMap (activationEffects p config) ∧
          a = ⟨callee, .call site.function site.block⟩ := by
      conv => lhs; rw [houtline]
      exact Outline.mem_reached_carryAll
    rw [hiff, Outline.reached_entry, List.mem_singleton]
    constructor
    · rintro (h | ⟨site, callee, hm, heq⟩)
      · exact Or.inl h
      · obtain ⟨c, hc, he⟩ := List.mem_flatMap.mp hm
        exact Or.inr ⟨c, hc, site, callee, he, heq⟩
    · rintro (h | ⟨c, hc, site, callee, he, heq⟩)
      · exact Or.inl h
      · exact Or.inr ⟨site, callee, List.mem_flatMap.mpr ⟨c, hc, he⟩, heq⟩

/-- **The bound of the expansion is never met:** all that is reached is expanded. -/
theorem expanded_eq_length {p : Program} (hp : p.Coherent) {config : Config} {entry : Int}
    {s : State} (h : expandFrom p config entry = (s, none)) :
    s.expanded = s.reached.length := by
  obtain ⟨hexp, hend⟩ := expansion_expandFrom h
  rcases hend with hend | hend
  · obtain ⟨hnodup, hreached⟩ := hexp.reached
    have hspace : ∀ a ∈ s.reached, a ∈ activationSpace p entry := by
      intro a ha
      rcases (hreached a).mp ha with rfl | ⟨c, _, site, callee, hcall, rfl⟩
      · exact List.mem_cons_self ..
      · exact mem_activationSpace_of_call hp hcall
    have hle := length_le_of_nodup_of_forall_mem hnodup hspace
    rw [length_activationSpace] at hle
    have hexpanded := hexp.expanded_le
    omega
  · exact hend

end Flow

end DropFlow
