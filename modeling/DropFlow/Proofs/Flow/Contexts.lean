/-
  DropFlow/Proofs/Flow/Contexts.lean
  ==================================
  The activations and the calls of an analysis, measured against the program.

  `Enters` says which activations a program can enter from an entry, without any analysis:
  it is the least set that contains the entry and follows the calls.  An expansion that
  succeeds reaches these activations and no other one (`mem_reached_iff_enters`).

  It records the calls of a function once for every activation of the function, the static
  call graph records them once; both have the same callees for every block.
-/
import DropFlow.Proofs.CallGraph
import DropFlow.Proofs.Flow.Analysis
import DropFlow.Proofs.Flow.Termination
import DropFlow.Proofs.Program.Loading

namespace DropFlow.Flow

/-! ### 1. The activations -/

/-- The activations that a program can enter from an entry: the entry itself, and each function
    that the call of a block may invoke, in the context of the block. -/
inductive Enters (p : Program) (config : Config) (entry : Int) : Activation → Prop
  | entry : Enters p config entry ⟨entry, .entry⟩
  | call {a : Activation} {f : Body} {b : Block} {t : Int} : Enters p config entry a →
      p.body a.function = .ok f → b ∈ f.blocks → t ∈ b.targets p config →
      Enters p config entry ⟨t, .call a.function b.id⟩

section Expanded

variable {p : Program} {config : Config} {entry : Int} {s : State}

/-- Each round of the expansion only reaches what the program enters. -/
theorem State.Expands.enters (hp : p.Coherent) {r : State × Option AnalysisError}
    (h : s.Expands config r) (hlater : p.Later s.program)
    (hs : ∀ a ∈ s.reached, Enters p config entry a) (hnone : r.2 = none) :
    ∀ a ∈ r.1.reached, Enters p config entry a := by
  induction h with
  | done _ => exact hs
  | abort _ _ => exact nomatch hnone
  | @next s s' a r ha hone _ ih =>
    have hlater₀ : p.Later ({ s with expanded := s.expanded + 1 } : State).program := hlater
    obtain ⟨_, houtline, hlater', _⟩ := expandOne_spec hlater₀ hone
    refine ih hlater' (fun x hx => ?_) hnone
    have hreached : s'.reached =
        (s.outline.carryAll (activationEffects p config a)).reached :=
      congrArg Outline.reached houtline
    rw [hreached, Outline.mem_reached_carryAll] at hx
    rcases hx with hx | ⟨site, t, hcall, rfl⟩
    · exact hs x hx
    · obtain ⟨f, hf, b, hb, rfl, ht⟩ := call_mem_activationEffects.mp hcall
      rw [hp.fetch_body] at hf
      exact .call (hs a (List.mem_of_getElem? ha)) hf hb ht

/-- **The activations reached are those that the program enters.** -/
theorem mem_reached_iff_enters (hp : p.Coherent) (h : expandFrom p config entry = (s, none))
    {a : Activation} : a ∈ s.reached ↔ Enters p config entry a := by
  have hreached := mem_reached_expandFrom hp h
  constructor
  · have hexpands := expands_expandFrom hp config entry
    rw [h] at hexpands
    apply hexpands.enters hp Relation.ReflTransGen.refl _ rfl
    intro x hx
    rw [List.mem_singleton.mp hx]
    exact .entry
  · intro hentered
    induction hentered with
    | entry => exact (hreached _).mpr (Or.inl rfl)
    | @call a f b t _ hf hb ht ih =>
      exact (hreached _).mpr (Or.inr ⟨a, ih, f, hf, b, hb, t, ht, rfl⟩)

theorem Analyzed.enters (h : Analyzed p config entry s) {a : Activation} (ha : a ∈ s.reached)
    {f : Body} (hf : p.body a.function = .ok f) {b : Block} (hb : b ∈ f.blocks) {t : Int}
    (ht : t ∈ b.targets p config) : ⟨t, .call a.function b.id⟩ ∈ s.reached :=
  (h.reached _).mpr (Or.inr ⟨a, ha, f, hf, b, hb, t, ht, rfl⟩)

/-! ### 2. The calls -/

/-- The call that an effect records. -/
def Effect.call? : Effect → Option (BlockRef × Int)
  | .call site callee => some (site, callee)
  | _ => none

theorem Outline.calls_carryAll (w : Outline) (effects : List Effect) :
    (w.carryAll effects).calls = w.calls.record (effects.filterMap Effect.call?) := by
  induction effects generalizing w with
  | nil => rfl
  | cons e rest ih =>
    have hcons : w.carryAll (e :: rest) = (w.carry e).carryAll rest := rfl
    rw [hcons, ih]
    cases e <;> rfl

theorem filterMap_call?_eq_nil {effects : List Effect}
    (h : ∀ site t, Effect.call site t ∉ effects) : effects.filterMap Effect.call? = [] := by
  rw [List.filterMap_eq_nil_iff]
  intro e he
  cases e with
  | call site t => exact absurd he (h site t)
  | _ => rfl

theorem filterMap_call?_targetEffects (a : Activation) (f : Body) (id : Int) (c : Call) (t : Int) :
    (targetEffects p a f id c t).filterMap Effect.call? = [(⟨a.function, id⟩, t)] := by
  simp only [targetEffects, List.filterMap_cons, Effect.call?]
  split
  · rfl
  · rw [filterMap_call?_eq_nil]
    intro site u hmem
    rcases List.mem_append.mp hmem with hmem | hmem
    · rcases mem_argumentEffects hmem with ⟨n, hn⟩ | ⟨_, _, _, _, _, hlink⟩
      · cases hn
      · cases hlink
    · simp only [resultEffects] at hmem
      split at hmem <;> simp at hmem

theorem filterMap_call?_blockEffects (a : Activation) (f : Body) (b : Block) :
    (blockEffects p config a f b).filterMap Effect.call? =
      (b.targets p config).map fun t => (⟨a.function, b.id⟩, t) := by
  by_cases hnil : b.targets p config = []
  · rw [hnil, List.map_nil]
    apply filterMap_call?_eq_nil
    intro site t hmem
    have ht := (call_mem_blockEffects.mp hmem).2
    simp [hnil] at ht
  · -- a block with a target ends with a call that is resolved
    obtain ⟨t, ht⟩ := List.exists_mem_of_ne_nil _ hnil
    obtain ⟨c, hterm, _⟩ := Block.mem_targets_iff.mp ht
    rw [Block.targets_of_call hterm] at hnil ⊢
    have hkind := resolve_eq_resolved_iff.mpr hnil
    have hassign : (b.assignments.flatMap (assignmentEffects a f b)).filterMap Effect.call? =
        [] := by
      apply filterMap_call?_eq_nil
      intro site t hmem
      obtain ⟨s, _, hs⟩ := List.mem_flatMap.mp hmem
      rcases mem_assignmentEffects hs with ⟨n, hn⟩ | ⟨_, news, hlink⟩
      · cases hn
      · cases hlink
    rw [blockEffects, List.filterMap_append, hassign, List.nil_append, hterm]
    simp only [callEffects, hkind, List.filterMap_cons, Effect.call?, List.filterMap_flatMap,
      filterMap_call?_targetEffects]
    exact List.map_eq_flatMap.symm

theorem filterMap_call?_activationEffects (hp : p.Coherent) (a : Activation) :
    (activationEffects p config a).filterMap Effect.call? = p.callsOf config a.function := by
  unfold activationEffects Program.callsOf
  rw [hp.fetch_body]
  cases p.body a.function with
  | error e => rfl
  | ok f =>
    dsimp only
    unfold bodyEffects
    simp only [List.filterMap_flatMap, filterMap_call?_blockEffects]

/-- The calls recorded are those of the functions of the activations reached. -/
theorem calls_expandFrom (hp : p.Coherent) (h : expandFrom p config entry = (s, none)) :
    s.calls = CallGraph.record {} ((s.reached.map (·.function)).flatMap (p.callsOf config)) := by
  have hcalls : s.calls = ((Outline.entry entry).carryAll
      (s.reached.flatMap (activationEffects p config))).calls :=
    congrArg Outline.calls (outline_expandFrom hp h)
  rw [hcalls, Outline.calls_carryAll, List.filterMap_flatMap, List.flatMap_map]
  simp only [filterMap_call?_activationEffects hp]
  rfl

theorem callees_expandFrom (hp : p.Coherent) (h : expandFrom p config entry = (s, none))
    (site : BlockRef) : s.calls.callees site =
      if ∃ a ∈ s.reached, a.function = site.function then p.targetsAt config site else [] := by
  rw [calls_expandFrom hp h, CallGraph.callees_record_callsOf]
  simp only [List.mem_map]

end Expanded

/-- **The contexts of an analysis are exact.**  For every program that can be built, and every
    configuration and entry whose analysis succeeds, the activations reached are distinct and are
    those that the program enters from the entry; the blocks of their functions have the callees
    of the static call graph, in the same order, if there is one; and no call is recorded for any
    other function. -/
theorem analyze_enters_exactly {p : Program} (hp : p.Built) {config : Config} {entry : Int}
    {s : State} (h : analyze p config entry = (s, none)) :
    s.reached.Nodup ∧ (∀ a, a ∈ s.reached ↔ Enters p config entry a) ∧
      (∀ calls, (staticCallGraph p config).1 = .ok calls → ∀ a ∈ s.reached, ∀ block,
        s.calls.callees ⟨a.function, block⟩ = calls.callees ⟨a.function, block⟩) ∧
      ∀ f, (∀ a ∈ s.reached, a.function ≠ f) → s.calls.callBlocks f = [] := by
  obtain ⟨s₀, hexpand, rfl⟩ := expandFrom_of_analyze h
  refine ⟨(expansion_expandFrom hexpand).1.reached.1, ?_, ?_, ?_⟩
  · intro a
    exact mem_reached_iff_enters hp.coherent hexpand
  · intro calls hstatic a ha block
    obtain ⟨f, hf⟩ := usable_expandFrom hp.coherent hexpand ha
    have hdefined : a.function ∈ p.defined := by
      obtain ⟨e, he, hdef, _⟩ := Program.source_of_body_eq_ok hf
      rw [Program.mem_defined]
      simp [Program.hasBody, he, hdef]
    have hanalysis := callees_expandFrom hp.coherent hexpand ⟨a.function, block⟩
    rw [if_pos ⟨a, ha, rfl⟩] at hanalysis
    rw [callees_staticCallGraph hp.coherent hstatic, if_pos hdefined]
    exact hanalysis
  · intro f hf
    rw [List.eq_nil_iff_forall_not_mem]
    intro block hblock
    obtain ⟨t, ht⟩ := CallGraph.mem_callBlocks.mp hblock
    obtain ⟨a, ha, _, _, _, _, hsite, _⟩ := (mem_calls_expandFrom hp.coherent hexpand _ t).mp ht
    exact hf a ha (congrArg BlockRef.function hsite).symm

/-- A call of the walk, which moves the second slot into it. -/
def walkCall : Source.Call where
  callee := "walk"
  arguments := [{ kind := "move", place := some ⟨1, []⟩ }]

/-- A function that starts a walk from each of its blocks. -/
def wander : Source.Function where
  name := "main"
  slots := [{ slot := 0 }, { slot := 1 }]
  blocks :=
    [{ id := 0
       successors := [1]
       call := some walkCall },
     { id := 1
       call := some walkCall }]

/-- A recursive walk, which drops what it is given. -/
def walk : Source.Function where
  name := "walk"
  slots := [{ slot := 0 }, { slot := 1 }]
  blocks :=
    [{ id := 0
       successors := [1]
       call := some walkCall },
     { id := 1, drop := some { place := ⟨1, []⟩ } }]

/-- The program of these two functions. -/
def walkProgram : Program := { entries := #[{ source := wander }, { source := walk }] }

/-- What its analysis leaves behind. -/
def walkState : State := (analyze walkProgram {} 0).1

theorem built_walk : walkProgram.Built :=
  Program.built_of_names [wander, walk] (by decide) (by decide)

theorem analyze_walk : analyze walkProgram {} 0 = (walkState, none) :=
  Prod.ext rfl (by decide +kernel)

/-- The walk is entered from two blocks of the first function and from its own. -/
theorem analyze_enters_exactly_walk :
    walkState.reached = [⟨0, .entry⟩, ⟨1, .call 0 0⟩, ⟨1, .call 0 1⟩, ⟨1, .call 1 0⟩] ∧
      Enters walkProgram {} 0 ⟨1, .call 1 0⟩ ∧
      ∃ calls, (staticCallGraph walkProgram {}).1 = .ok calls ∧
        walkState.calls.callees ⟨1, 0⟩ = [1] ∧ calls.callees ⟨1, 0⟩ = [1] := by
  obtain ⟨_, henters, hcallees, _⟩ := analyze_enters_exactly built_walk analyze_walk
  have hreached : walkState.reached =
      [⟨0, .entry⟩, ⟨1, .call 0 0⟩, ⟨1, .call 0 1⟩, ⟨1, .call 1 0⟩] := by decide +kernel
  have hlast : (⟨1, .call 1 0⟩ : Activation) ∈ walkState.reached := by simp [hreached]
  obtain ⟨calls, hcalls⟩ : ∃ calls, (staticCallGraph walkProgram {}).1 = .ok calls :=
    ⟨_, eq_ok_of_toOption (a := ⟨.ofList [0, 1], [(⟨0, 0⟩, 1), (⟨0, 1⟩, 1), (⟨1, 0⟩, 1)]⟩)
      (by decide +kernel)⟩
  have hsame : walkState.calls.callees ⟨1, 0⟩ = [1] := by decide +kernel
  refine ⟨hreached, (henters _).mp hlast, calls, hcalls, hsame, ?_⟩
  rw [← hsame]
  exact (hcallees calls hcalls _ hlast 0).symm

end DropFlow.Flow
