/-
  DropFlow/Proofs/Flow/Analysis.lean
  ==================================
  What an analysis that succeeds leaves behind.

  `Program.Step` is one step of the execution of a program under a configuration, said
  without any analysis.  The calls that an analysis records are those of the functions
  that it reaches, and no step leaves these functions; so that from a block of such a
  function the recorded calls lead where the program leads (`Analyzed.reaches_iff`).
  The objects have been propagated to the end (`Analyzed.closed`, `marksExact`), and the
  edges and drop sites are those of the expansion (`Analyzed.effects`).
-/
import DropFlow.Proofs.Flow.Activations
import DropFlow.Proofs.Flow.Confluence
import DropFlow.Proofs.Oracle

namespace DropFlow

/-! ### 1. The execution of a program -/

/-- One step of the execution: from a block to a successor, or into the entry block of a function
    that its call may invoke. -/
inductive Program.Step (p : Program) (config : Config) : BlockRef → BlockRef → Prop
  | next {f : Int} {body : Body} {b : Block} {t : Int} : p.body f = .ok body → b ∈ body.blocks →
      t ∈ b.successors → Step p config ⟨f, b.id⟩ ⟨f, t⟩
  | enter {f g : Int} {body callee : Body} {b : Block} : p.body f = .ok body → b ∈ body.blocks →
      g ∈ b.targets p config → p.body g = .ok callee →
      Step p config ⟨f, b.id⟩ ⟨g, callee.entry⟩

/-- One block can be executed after another one, in zero or more steps. -/
def Program.Reaches (p : Program) (config : Config) : BlockRef → BlockRef → Prop :=
  Relation.ReflTransGen (Program.Step p config)

namespace Flow

/-! ### 2. The end of an expansion -/

/-- The callers of a call graph are the functions that its calls come from. -/
def CallersExact (calls : CallGraph) : Prop :=
  ∀ f, f ∈ calls.callers ↔ ∃ x ∈ calls.calls, x.1.function = f

theorem CallersExact.add {calls : CallGraph} (h : CallersExact calls) (site : BlockRef)
    (callee : Int) : CallersExact (calls.add site callee) := by
  intro f
  have hmem : ∀ x, x ∈ (calls.add site callee).calls ↔ x ∈ calls.calls ∨ x = (site, callee) := by
    intro x
    unfold CallGraph.add
    dsimp only
    split
    · rename_i hin
      constructor
      · exact Or.inl
      · rintro (hx | rfl)
        · exact hx
        · simpa using hin
    · rw [List.mem_append, List.mem_singleton]
  have hcallers : f ∈ (calls.add site callee).callers ↔ f = site.function ∨ f ∈ calls.callers :=
    IdSet.mem_insert
  rw [hcallers, h f]
  constructor
  · rintro (rfl | ⟨x, hx, hf⟩)
    · exact ⟨(site, callee), (hmem _).mpr (Or.inr rfl), rfl⟩
    · exact ⟨x, (hmem x).mpr (Or.inl hx), hf⟩
  · rintro ⟨x, hx, hf⟩
    rcases (hmem x).mp hx with hx | rfl
    · exact Or.inr ⟨x, hx, hf⟩
    · exact Or.inl hf.symm

section Expanded

variable {p : Program} {config : Config} {entry : Int} {s : State}

theorem call_mem_flatMap_activationEffects (hp : p.Coherent) {as : List Activation}
    {site : BlockRef} {t : Int} : .call site t ∈ as.flatMap (activationEffects p config) ↔
      ∃ a ∈ as, ∃ f, p.body a.function = .ok f ∧ ∃ b ∈ f.blocks, site = ⟨a.function, b.id⟩ ∧
        t ∈ b.targets p config := by
  rw [List.mem_flatMap]
  simp only [call_mem_activationEffects, hp.fetch_body]

theorem outline_expandFrom (hp : p.Coherent) (h : expandFrom p config entry = (s, none)) :
    s.outline = (Outline.entry entry).carryAll
      (s.reached.flatMap (activationEffects p config)) := by
  have houtline := (expansion_expandFrom h).1.outline
  rw [expanded_eq_length hp h, List.take_length] at houtline
  exact houtline

theorem usable_expandFrom (hp : p.Coherent) (h : expandFrom p config entry = (s, none))
    {a : Activation} (ha : a ∈ s.reached) : ∃ f, p.body a.function = .ok f := by
  have husable := (expansion_expandFrom h).1.usable a
  rw [expanded_eq_length hp h, List.take_length] at husable
  obtain ⟨f, hf⟩ := husable ha
  rw [hp.fetch_body] at hf
  exact ⟨f, hf⟩

/-- The activations reached are the entry and what the calls of activations reached lead to. -/
theorem mem_reached_expandFrom (hp : p.Coherent) (h : expandFrom p config entry = (s, none))
    (a : Activation) : a ∈ s.reached ↔ a = ⟨entry, .entry⟩ ∨ ∃ c ∈ s.reached, ∃ f,
      p.body c.function = .ok f ∧ ∃ b ∈ f.blocks, ∃ t ∈ b.targets p config,
        a = ⟨t, .call c.function b.id⟩ := by
  have hreached := (expansion_expandFrom h).1.reached.2 a
  rw [expanded_eq_length hp h, List.take_length] at hreached
  refine hreached.trans (or_congr Iff.rfl ?_)
  constructor
  · rintro ⟨c, hc, site, callee, hm, rfl⟩
    obtain ⟨f, hf, b, hb, rfl, ht⟩ := call_mem_activationEffects.mp hm
    rw [hp.fetch_body] at hf
    exact ⟨c, hc, f, hf, b, hb, callee, ht, rfl⟩
  · rintro ⟨c, hc, f, hf, b, hb, t, ht, rfl⟩
    rw [← hp.fetch_body] at hf
    have hcall := call_mem_activationEffects.mpr ⟨f, hf, b, hb, rfl, ht⟩
    exact ⟨c, hc, ⟨c.function, b.id⟩, t, hcall, rfl⟩

theorem mem_calls_expandFrom (hp : p.Coherent) (h : expandFrom p config entry = (s, none))
    (site : BlockRef) (t : Int) : (site, t) ∈ s.calls.calls ↔ ∃ a ∈ s.reached, ∃ f,
      p.body a.function = .ok f ∧ ∃ b ∈ f.blocks, site = ⟨a.function, b.id⟩ ∧
        t ∈ b.targets p config := by
  have hcalls : s.calls = ((Outline.entry entry).carryAll
      (s.reached.flatMap (activationEffects p config))).calls :=
    congrArg Outline.calls (outline_expandFrom hp h)
  rw [hcalls, Outline.mem_calls_carryAll, ← call_mem_flatMap_activationEffects hp]
  exact or_iff_right (fun hno => nomatch hno)

theorem callersExact_expandFrom (h : expandFrom p config entry = (s, none)) :
    CallersExact s.calls := by
  have hcalls := congrArg Outline.calls (expansion_expandFrom h).1.outline
  have hexact : CallersExact s.outline.calls := by
    rw [hcalls]
    refine Outline.carryAll_induction (P := fun w => CallersExact w.calls) ?_ ?_
    · intro f
      constructor
      · intro hf
        exact absurd hf (IdSet.not_mem_empty f)
      · rintro ⟨x, hx, _⟩
        exact nomatch hx
    · intro w e _ hw
      cases e with
      | call site callee => exact hw.add site callee
      | _ => exact hw
  exact hexact

end Expanded

/-! ### 3. The end of an analysis -/

/-- What an analysis that succeeds leaves behind. -/
structure Analyzed (p : Program) (config : Config) (entry : Int) (s : State) : Prop where
  later : p.Later s.program
  usable : ∀ a ∈ s.reached, ∃ f, p.body a.function = .ok f
  /-- The activations reached are the entry and what the calls of activations reached lead to. -/
  reached : ∀ a, a ∈ s.reached ↔ a = ⟨entry, .entry⟩ ∨ ∃ c ∈ s.reached, ∃ f,
    p.body c.function = .ok f ∧ ∃ b ∈ f.blocks, ∃ t ∈ b.targets p config,
      a = ⟨t, .call c.function b.id⟩
  /-- The calls recorded are those of the activations reached. -/
  calls : ∀ site t, (site, t) ∈ s.calls.calls ↔ ∃ a ∈ s.reached, ∃ f,
    p.body a.function = .ok f ∧ ∃ b ∈ f.blocks, site = ⟨a.function, b.id⟩ ∧
      t ∈ b.targets p config
  callers : CallersExact s.calls
  /-- The graph comes from the one that the effects of the activations build. -/
  effects : ((Outline.entry entry).carryAll
    (s.reached.flatMap (activationEffects p config))).graph.Evolves s.graph
  closed : s.graph.Closed config.depthLimit
  marksExact : s.graph.MarksExact

theorem analyze_eq_iff {p : Program} {config : Config} {entry : Int} {s : State} :
    analyze p config entry = (s, none) ↔ p.hasBody entry = true ∧
      ∃ s₀, expandFrom p config entry = (s₀, none) ∧ s = s₀.solve config entry := by
  unfold analyze
  by_cases hbody : p.hasBody entry = true
  · rw [if_neg (by simp [hbody])]
    rcases expandFrom p config entry with ⟨s₀, failure⟩
    cases failure with
    | none => simp [hbody, eq_comm]
    | some e => simp
  · rw [if_pos (by simpa using hbody)]
    simp [hbody]

theorem expandFrom_of_analyze {p : Program} {config : Config} {entry : Int} {s : State}
    (h : analyze p config entry = (s, none)) :
    ∃ s₀, expandFrom p config entry = (s₀, none) ∧ s = s₀.solve config entry :=
  (analyze_eq_iff.mp h).2

/-- An analysis succeeds if the entry has a body and the expansion succeeds. -/
theorem analyze_eq_none_iff {p : Program} {config : Config} {entry : Int} :
    (analyze p config entry).2 = none ↔
      p.hasBody entry = true ∧ (expandFrom p config entry).2 = none := by
  constructor
  · intro h
    obtain ⟨hbody, s₀, hexpand, _⟩ := analyze_eq_iff.mp (Prod.ext rfl h)
    exact ⟨hbody, by rw [hexpand]⟩
  · rintro ⟨hbody, h⟩
    have hanalyze := analyze_eq_iff.mpr ⟨hbody, _, Prod.ext rfl h, rfl⟩
    rw [hanalyze]

/-- The graph of an analysis is the outcome of a run on the expanded graph. -/
theorem runs_of_analyze {p : Program} {config : Config} {entry : Int}
    (h : (analyze p config entry).2 = none) : ∃ s₀, expandFrom p config entry = (s₀, none) ∧
      Runs (rules s₀.program config) ⟨s₀.graph, s₀.pending⟩
        ⟨(analyze p config entry).1.graph, []⟩ := by
  rcases hres : analyze p config entry with ⟨s, failure⟩
  rw [hres] at h
  cases h
  obtain ⟨s₀, hexpand, rfl⟩ := expandFrom_of_analyze hres
  exact ⟨s₀, hexpand, runs_solve (rules s₀.program config) s₀.graph s₀.pending⟩

/-- An analysis that succeeds keeps the edges, the drop sites and the cells of the expansion. -/
theorem evolves_of_analyze {p : Program} {config : Config} {entry : Int} {s : State}
    (h : analyze p config entry = (s, none)) :
    (expandFrom p config entry).1.graph.Evolves s.graph := by
  obtain ⟨s₀, hexpand, rfl⟩ := expandFrom_of_analyze h
  rw [hexpand]
  exact (runs_solve (rules s₀.program config) s₀.graph s₀.pending).evolves
    (seeded_expandFrom hexpand).placed

/-- **An analysis that succeeds** has reached, recorded and propagated all that there is. -/
theorem analyzed_of_analyze {p : Program} (hp : p.Coherent) {config : Config} {entry : Int}
    {s : State} (h : analyze p config entry = (s, none)) : Analyzed p config entry s := by
  obtain ⟨s₀, hexpand, rfl⟩ := expandFrom_of_analyze h
  have hseeded := seeded_expandFrom hexpand
  have hrun := runs_solve (rules s₀.program config) s₀.graph s₀.pending
  have hgraph : (expandFrom p config entry).1.graph = ((Outline.entry entry).carryAll
      (s₀.reached.flatMap (activationEffects p config))).graph := by
    rw [hexpand]
    exact congrArg Outline.graph (outline_expandFrom hp hexpand)
  have hreached := mem_reached_expandFrom hp hexpand
  have hcalls := mem_calls_expandFrom hp hexpand
  have hcallers := callersExact_expandFrom hexpand
  exact
    { later := (expansion_expandFrom hexpand).1.later
      usable := fun a ha => usable_expandFrom hp hexpand ha
      reached := hreached
      calls := hcalls
      callers := hcallers
      effects := hgraph ▸ evolves_of_analyze h
      closed := hrun.closed hseeded
      marksExact := hrun.marksExact hseeded.placed hseeded.marksExact }

namespace Analyzed

variable {p : Program} {config : Config} {entry : Int} {s : State}

theorem bounded (h : Analyzed p config entry s) : s.calls.Bounded p.size where
  callers := fun x hx => (h.callers _).mpr ⟨x, hx, rfl⟩
  range := fun f hf => by
    rcases CallGraph.mem_functions.mp hf with hf | ⟨site, hm⟩
    · obtain ⟨⟨site, t⟩, hx, rfl⟩ := (h.callers f).mp hf
      obtain ⟨a, _, body, hbody, _, _, rfl, _⟩ := (h.calls site t).mp hx
      obtain ⟨e, he, _⟩ := Program.source_of_body_eq_ok hbody
      exact Program.bounds_of_function he
    · obtain ⟨_, _, _, _, _, _, _, ht⟩ := (h.calls site f).mp hm
      exact Block.bounds_of_mem_targets ht

/-- From a block of a function that is reached, the recorded calls lead where the program leads. -/
theorem reaches_iff (h : Analyzed p config entry s) {x y : BlockRef}
    (hx : ∃ a ∈ s.reached, a.function = x.function) :
    s.calls.Reaches p x y ↔ p.Reaches config x y := by
  constructor
  · intro hreach
    refine Relation.ReflTransGen.mono ?_ _ _ hreach
    intro u v hstep
    cases hstep with
    | next hsucc =>
      obtain ⟨body, hbody, b, hb, rfl, ht⟩ := Program.mem_successors_iff.mp hsucc
      exact .next hbody hb ht
    | enter hcall hcallee =>
      obtain ⟨a, _, body, hbody, b, hb, rfl, ht⟩ := (h.calls _ _).mp hcall
      exact .enter hbody hb ht hcallee
  · intro hreach
    -- every step stays among the functions that are reached
    have hboth : s.calls.Reaches p x y ∧ ∃ a ∈ s.reached, a.function = y.function := by
      induction hreach with
      | refl => exact ⟨Relation.ReflTransGen.refl, hx⟩
      | tail _ hstep ih =>
        obtain ⟨hway, a, ha, hfun⟩ := ih
        cases hstep with
        | next hbody hb ht =>
          refine ⟨hway.tail (.next ?_), a, ha, hfun⟩
          exact Program.mem_successors_iff.mpr ⟨_, hbody, _, hb, rfl, ht⟩
        | @enter f g _ _ b hbody hb ht hcallee =>
          dsimp only at hfun
          subst hfun
          refine ⟨hway.tail (.enter ?_ hcallee), ⟨g, .call a.function b.id⟩, ?_, rfl⟩
          · exact (h.calls _ _).mpr ⟨a, ha, _, hbody, _, hb, rfl, ht⟩
          · exact (h.reached _).mpr (Or.inr ⟨a, ha, _, hbody, _, hb, _, ht, rfl⟩)
    exact hboth.1

end Analyzed

end Flow

end DropFlow
