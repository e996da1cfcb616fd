/-
  DropFlow/Proofs/Flow/Contributions.lean
  =======================================
  What the blocks of a body contribute to an expansion.

  The effects of a block are put together by several functions, one for each kind of
  statement and of call.  `Block.Brings` says once what they amount to: an effect of a
  block is a notice, or it is brought by one of the parts of the block, and what a part
  brings is among the effects.  The calls, the sites, the flows and the failures of a
  block are read off from this relation alone.
-/
import DropFlow.Proofs.Flow.Effects
import DropFlow.Proofs.Resolution

namespace DropFlow

open DropFlow.Flow

/-! ### 1. What a block brings -/

/-- What the parts of a block of an activation bring, besides notices.  A flow may come with any
    news. -/
inductive Block.Brings (p : Program) (config : Config) (a : Activation) (f : Body) (b : Block) :
    Effect → Prop
  | assignment {s : Assignment} {news : Option Notice} : s ∈ b.assignments →
      s.createsAlias = true → Brings p config a f b
        (.link (cellOf a f s.right) (cellOf a f s.left) ⟨a.function, b.id, s.location⟩ .value news)
  | drop {place : Place} {location : Location} : b.terminator = .drop place location →
      Brings p config a f b (.drop (cellOf a f place) ⟨a.function, b.id, location⟩)
  | call {t : Int} : t ∈ b.targets p config → Brings p config a f b (.call ⟨a.function, b.id⟩ t)
  | load {t : Int} : t ∈ b.targets p config → Brings p config a f b (.load t)
  | argument {c : Call} {t : Int} {g : Body} {i : Nat} {arg : Argument} {news : Option Notice} :
      b.terminator = .call c → t ∈ b.targets p config → p.body t = .ok g →
      c.arguments[i]? = some arg → arg.createsAlias = true → (g.slot? (i + 1)).isSome = true →
      Brings p config a f b (.link (cellOf a f arg.place)
        (cellOf ⟨t, .call a.function b.id⟩ g ⟨i + 1, []⟩) ⟨a.function, b.id, c.location⟩ .argument
        news)
  | result {c : Call} {t : Int} {g : Body} {place : Place} {news : Option Notice} :
      b.terminator = .call c → t ∈ b.targets p config → p.body t = .ok g →
      valueDestination f c = .ok (some place) →
      Brings p config a f b (.link (cellOf ⟨t, .call a.function b.id⟩ g ⟨resultSlot, []⟩)
        (cellOf a f place) ⟨a.function, b.id, c.location⟩ .value news)
  | destination {c : Call} {place : Place} : b.terminator = .call c →
      (resolve p config c.callee c.candidates).2 = .external →
      valueDestination f c = .ok (some place) → Brings p config a f b (.touch (cellOf a f place))
  | external {c : Call} {place : Place} {arg : Argument} {news : Option Notice} :
      b.terminator = .call c → (resolve p config c.callee c.candidates).2 = .external →
      valueDestination f c = .ok (some place) → arg ∈ c.arguments → arg.createsAlias = true →
      Brings p config a f b (.link (cellOf a f arg.place) (cellOf a f place)
        ⟨a.function, b.id, c.location⟩ .value news)
  /-- The destination of an external call is looked at, and that of a call to a function that
      lowers. -/
  | abort {c : Call} {e : AnalysisError} : b.terminator = .call c →
      ((resolve p config c.callee c.candidates).2 = .external ∨
        ∃ t ∈ b.targets p config, ∃ g, p.body t = .ok g) →
      valueDestination f c = .error e → Brings p config a f b (.abort e)

namespace Flow

/-- The effect with other news of a flow. -/
def Effect.withNews (news : Option Notice) : Effect → Effect
  | .link source target site passing _ => .link source target site passing news
  | e => e

/-! ### 2. Assignments and arguments -/

theorem mem_assignmentEffects {a : Activation} {f : Body} {b : Block} {s : Assignment} {e : Effect}
    (he : e ∈ assignmentEffects a f b s) : (∃ n, e = .note n) ∨ s.createsAlias = true ∧
      ∃ news, e = .link (cellOf a f s.right) (cellOf a f s.left) ⟨a.function, b.id, s.location⟩
        .value news := by
  simp only [assignmentEffects] at he
  split at he
  · exact Or.inl ⟨_, List.mem_singleton.mp he⟩
  · rename_i halias
    exact Or.inr ⟨by simpa using halias, _, List.mem_singleton.mp he⟩

/-- The effects of passing arguments are notices, and flows from the arguments that make aliases
    into the parameters that are declared. -/
theorem mem_argumentEffects {a callee : Activation} {f g : Body} {site : Site} {e : Effect}
    {arguments : List Argument} : ∀ {index : Nat},
      e ∈ argumentEffects a callee f g site index arguments → (∃ n, e = .note n) ∨
        ∃ i arg, arguments[i]? = some arg ∧ arg.createsAlias = true ∧
          (g.slot? ((index + i : Nat) + 1)).isSome = true ∧
          e = .link (cellOf a f arg.place) (cellOf callee g ⟨(index + i : Nat) + 1, []⟩) site
            .argument none := by
  induction arguments with
  | nil => exact fun he => absurd he List.not_mem_nil
  | cons arg rest ih =>
    intro index he
    rw [argumentEffects] at he
    rcases List.mem_append.mp he with he | he
    · split at he
      · exact absurd he List.not_mem_nil
      · rename_i halias
        split at he
        · exact Or.inl ⟨_, List.mem_singleton.mp he⟩
        · rename_i hslot
          refine Or.inr ⟨0, arg, rfl, by simpa using halias, ?_, List.mem_singleton.mp he⟩
          rw [Option.isNone_iff_eq_none, ← ne_eq, Option.ne_none_iff_isSome] at hslot
          exact hslot
    · rcases ih he with hnote | ⟨i, arg', hi, halias, hslot, rfl⟩
      · exact Or.inl hnote
      · have hindex : index + 1 + i = index + (i + 1) := by omega
        rw [hindex] at hslot ⊢
        exact Or.inr ⟨i + 1, arg', hi, halias, hslot, rfl⟩

theorem link_mem_argumentEffects {a callee : Activation} {f g : Body} {site : Site}
    {arg : Argument} (halias : arg.createsAlias = true) {arguments : List Argument} :
    ∀ {index i : Nat}, arguments[i]? = some arg →
      (g.slot? ((index + i : Nat) + 1)).isSome = true →
      Effect.link (cellOf a f arg.place) (cellOf callee g ⟨(index + i : Nat) + 1, []⟩) site
        .argument none ∈ argumentEffects a callee f g site index arguments := by
  induction arguments with
  | nil =>
    intro index i hi
    exact nomatch hi
  | cons first rest ih =>
    intro index i hi hslot
    rw [argumentEffects]
    cases i with
    | zero =>
      cases hi
      refine List.mem_append_left _ ?_
      have hnone : (g.slot? ((index : Int) + 1)).isNone = false := by
        rw [← Option.not_isSome, Bool.not_eq_false']
        exact hslot
      simp [halias, hnone]
    | succ i =>
      have hindex : index + (i + 1) = index + 1 + i := by omega
      rw [hindex] at hslot ⊢
      exact List.mem_append_right _ (ih hi hslot)

end Flow

/-! ### 3. The effects of a block -/

namespace Block

variable {p : Program} {config : Config} {a : Activation} {f : Body} {b : Block} {c : Call}
  {e : Effect}

theorem brings_of_mem_targetEffects {t : Int} (hterm : b.terminator = .call c)
    (ht : t ∈ b.targets p config) (he : e ∈ targetEffects p a f b.id c t) :
    (∃ n, e = .note n) ∨ b.Brings p config a f e := by
  simp only [targetEffects, List.mem_cons] at he
  rcases he with rfl | rfl | he
  · exact Or.inr (.call ht)
  · exact Or.inr (.load ht)
  · split at he
    · exact nomatch he
    · rename_i g hg
      rcases List.mem_append.mp he with he | he
      · rcases mem_argumentEffects he with hnote | ⟨i, arg, hi, halias, hslot, rfl⟩
        · exact Or.inl hnote
        · rw [Nat.zero_add] at hslot ⊢
          exact Or.inr (.argument hterm ht hg hi halias hslot)
      · unfold resultEffects at he
        split at he
        · rename_i failure hfailure
          rw [List.mem_singleton.mp he]
          exact Or.inr (.abort hterm (Or.inr ⟨t, ht, g, hg⟩) hfailure)
        · exact nomatch he
        · rename_i place hplace
          rw [List.mem_singleton.mp he]
          exact Or.inr (.result hterm ht hg hplace)

theorem brings_of_mem_externalEffects (hterm : b.terminator = .call c)
    (hkind : (resolve p config c.callee c.candidates).2 = .external)
    (he : e ∈ externalEffects a f b.id c) : b.Brings p config a f e := by
  simp only [externalEffects] at he
  split at he
  · rename_i failure hfailure
    rw [List.mem_singleton.mp he]
    exact .abort hterm (Or.inl hkind) hfailure
  · exact nomatch he
  · rename_i place hplace
    rcases List.mem_cons.mp he with rfl | he
    · exact .destination hterm hkind hplace
    · obtain ⟨arg, harg, rfl⟩ := List.mem_map.mp he
      obtain ⟨hmem, halias⟩ := List.mem_filter.mp harg
      exact .external hterm hkind hplace hmem halias

/-- **An effect of a block** is a notice, or one of the parts of the block brings it. -/
theorem brings_of_mem_blockEffects (he : e ∈ blockEffects p config a f b) :
    (∃ n, e = .note n) ∨ b.Brings p config a f e := by
  rcases List.mem_append.mp he with he | he
  · obtain ⟨s, hs, he⟩ := List.mem_flatMap.mp he
    rcases mem_assignmentEffects he with hnote | ⟨halias, news, rfl⟩
    · exact Or.inl hnote
    · exact Or.inr (.assignment hs halias)
  · split at he
    · exact nomatch he
    · rename_i place location hterm
      rw [List.mem_singleton.mp he]
      exact Or.inr (.drop hterm)
    · rename_i c hterm
      have htargets : b.targets p config = (resolve p config c.callee c.candidates).1 :=
        targets_of_call hterm
      unfold callEffects at he
      rcases hres : resolve p config c.callee c.candidates with ⟨targets, kind⟩
      rw [hres] at he htargets
      rcases List.mem_cons.mp he with rfl | he
      · exact Or.inl ⟨_, rfl⟩
      · cases kind with
        | resolved =>
          obtain ⟨t, ht, he⟩ := List.mem_flatMap.mp he
          exact brings_of_mem_targetEffects hterm (htargets ▸ ht) he
        | external => exact Or.inr (brings_of_mem_externalEffects hterm (by rw [hres]) he)
        | passthrough => exact nomatch he
        | ignored => exact nomatch he

theorem mem_blockEffects_of_mem_callEffects (hterm : b.terminator = .call c)
    (he : e ∈ callEffects p config a f b.id c) : e ∈ blockEffects p config a f b := by
  refine List.mem_append_right _ ?_
  rw [hterm]
  exact he

theorem mem_blockEffects_of_mem_targetEffects {t : Int} (hterm : b.terminator = .call c)
    (ht : t ∈ b.targets p config) (he : e ∈ targetEffects p a f b.id c t) :
    e ∈ blockEffects p config a f b := by
  rw [targets_of_call hterm] at ht
  have hkind := resolve_eq_resolved_iff.mpr (List.ne_nil_of_mem ht)
  apply mem_blockEffects_of_mem_callEffects hterm
  simp only [callEffects, hkind]
  exact List.mem_cons_of_mem _ (List.mem_flatMap.mpr ⟨t, ht, he⟩)

theorem mem_blockEffects_of_mem_externalEffects (hterm : b.terminator = .call c)
    (hkind : (resolve p config c.callee c.candidates).2 = .external)
    (he : e ∈ externalEffects a f b.id c) : e ∈ blockEffects p config a f b := by
  apply mem_blockEffects_of_mem_callEffects hterm
  simp only [callEffects, hkind]
  exact List.mem_cons_of_mem _ he

/-- **What a part of a block brings** is among its effects, with some news. -/
theorem Brings.exists_mem (h : b.Brings p config a f e) :
    ∃ news, e.withNews news ∈ blockEffects p config a f b := by
  cases h with
  | @assignment s _ hs halias =>
    have hmem : ∃ news, Effect.link (cellOf a f s.right) (cellOf a f s.left)
        ⟨a.function, b.id, s.location⟩ .value news ∈ assignmentEffects a f b s := by
      simp [assignmentEffects, halias]
    obtain ⟨news, hnews⟩ := hmem
    exact ⟨news, List.mem_append_left _ (List.mem_flatMap.mpr ⟨s, hs, hnews⟩)⟩
  | drop hterm =>
    refine ⟨none, List.mem_append_right _ ?_⟩
    rw [hterm]
    exact List.mem_singleton.mpr rfl
  | @call t ht =>
    obtain ⟨c, hterm, _⟩ := mem_targets_iff.mp ht
    exact ⟨none, mem_blockEffects_of_mem_targetEffects hterm ht List.mem_cons_self⟩
  | @load t ht =>
    obtain ⟨c, hterm, _⟩ := mem_targets_iff.mp ht
    refine ⟨none, mem_blockEffects_of_mem_targetEffects hterm ht ?_⟩
    exact List.mem_cons_of_mem _ List.mem_cons_self
  | @argument c t g i arg _ hterm ht hg hi halias hslot =>
    refine ⟨none, mem_blockEffects_of_mem_targetEffects hterm ht ?_⟩
    simp only [targetEffects, hg]
    refine List.mem_cons_of_mem _ (List.mem_cons_of_mem _ (List.mem_append_left _ ?_))
    rw [← Nat.zero_add i] at hslot ⊢
    exact link_mem_argumentEffects halias hi hslot
  | result hterm ht hg hplace =>
    refine ⟨none, mem_blockEffects_of_mem_targetEffects hterm ht ?_⟩
    simp [targetEffects, resultEffects, hg, hplace, Effect.withNews]
  | destination hterm hkind hplace =>
    refine ⟨none, mem_blockEffects_of_mem_externalEffects hterm hkind ?_⟩
    simp [externalEffects, hplace, Effect.withNews]
  | @external c place arg _ hterm hkind hplace hmem halias =>
    refine ⟨none, mem_blockEffects_of_mem_externalEffects hterm hkind ?_⟩
    simp only [externalEffects, hplace]
    apply List.mem_cons_of_mem
    exact List.mem_map.mpr ⟨arg, List.mem_filter.mpr ⟨hmem, halias⟩, rfl⟩
  | abort hterm hlooked hfailure =>
    refine ⟨none, ?_⟩
    rcases hlooked with hkind | ⟨t, ht, g, hg⟩
    · apply mem_blockEffects_of_mem_externalEffects hterm hkind
      simp [externalEffects, hfailure, Effect.withNews]
    · apply mem_blockEffects_of_mem_targetEffects hterm ht
      simp [targetEffects, resultEffects, hg, hfailure, Effect.withNews]

end Block

end DropFlow
