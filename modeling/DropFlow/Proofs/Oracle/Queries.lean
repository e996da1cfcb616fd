/-
  DropFlow/Proofs/Oracle/Queries.lean
  ===================================
  One oracle, asked again and again.

  The calls of a call graph over a program lead to functions that lower (`CallGraph.Over`);
  those that an analysis or the static call graph records do.  Over such a graph the oracle
  answers every question about two blocks, whatever it was asked before and however it
  traverses the graphs, as long as it traverses them exactly; and the answer is whether the
  steps of the execution lead from one to the other (`canReach_iff_reaches`).
-/
import DropFlow.Proofs.Flow.Contexts

namespace DropFlow

/-! ### 1. Call graphs over a program -/

theorem Program.bounds_of_body {p : Program} {f : Int} {body : Body} (h : p.body f = .ok body) :
    0 ≤ f ∧ f < p.size := by
  obtain ⟨e, he, _⟩ := source_of_body_eq_ok h
  exact bounds_of_function he

namespace CallGraph

/-- The functions of a call graph are functions of the program, and all callees lower. -/
structure Over (p : Program) (calls : CallGraph) : Prop extends calls.Bounded p.size where
  lowers : ∀ x ∈ calls.calls, ∃ body, p.body x.2 = .ok body

namespace Over

variable {p q : Program} {calls : CallGraph}

theorem empty (p : Program) : Over p {} where
  callers := by simp
  range := by
    intro f hf
    rcases mem_functions.mp hf with hf | ⟨_, hf⟩
    · exact absurd hf (IdSet.not_mem_empty f)
    · exact nomatch hf
  lowers := by simp

theorem register (h : calls.Over p) {f : Int} {body : Body} (hf : p.body f = .ok body) :
    (calls.register f).Over p where
  callers := fun x hx => IdSet.mem_insert.mpr (Or.inr (h.callers x hx))
  range := by
    intro g hg
    rcases mem_functions.mp hg with hg | hg
    · rcases IdSet.mem_insert.mp hg with rfl | hg
      · exact Program.bounds_of_body hf
      · exact h.range g (mem_functions.mpr (Or.inl hg))
    · exact h.range g (mem_functions.mpr (Or.inr hg))
  lowers := h.lowers

theorem add (h : calls.Over p) {site : BlockRef} {t : Int} {caller callee : Body}
    (hcaller : p.body site.function = .ok caller) (hcallee : p.body t = .ok callee) :
    (calls.add site t).Over p where
  callers := by
    intro x hx
    rcases mem_calls_add.mp hx with hx | rfl
    · exact IdSet.mem_insert.mpr (Or.inr (h.callers x hx))
    · exact IdSet.mem_insert.mpr (Or.inl rfl)
  range := by
    intro g hg
    rcases mem_functions.mp hg with hg | ⟨at', hg⟩
    · rcases IdSet.mem_insert.mp hg with rfl | hg
      · exact Program.bounds_of_body hcaller
      · exact h.range g (mem_functions.mpr (Or.inl hg))
    · rcases mem_calls_add.mp hg with hg | heq
      · exact h.range g (mem_functions.mpr (Or.inr ⟨at', hg⟩))
      · cases heq
        exact Program.bounds_of_body hcallee
  lowers := by
    intro x hx
    rcases mem_calls_add.mp hx with hx | rfl
    · exact h.lowers x hx
    · exact ⟨callee, hcallee⟩

theorem record (h : calls.Over p) {list : List (BlockRef × Int)}
    (hlist : ∀ x ∈ list, (∃ caller, p.body x.1.function = .ok caller) ∧
      ∃ callee, p.body x.2 = .ok callee) : (calls.record list).Over p := by
  induction list generalizing calls with
  | nil => exact h
  | cons x rest ih =>
    obtain ⟨⟨caller, hcaller⟩, callee, hcallee⟩ := hlist x (List.mem_cons_self ..)
    apply ih (h.add hcaller hcallee)
    intro y hy
    exact hlist y (List.mem_cons_of_mem _ hy)

theorem sameSources (h : calls.Over p) (hsame : p.SameSources q) : calls.Over q where
  callers := h.callers
  range := by
    rw [hsame.size]
    exact h.range
  lowers := by
    intro x hx
    rw [hsame.body]
    exact h.lowers x hx

end Over

end CallGraph

theorem Flow.calls_over_of_analyze {p : Program} (hp : p.Coherent) {config : Config} {entry : Int}
    {s : State} (h : analyze p config entry = (s, none)) : s.calls.Over p where
  toBounded := (analyzed_of_analyze hp h).bounded
  lowers := by
    intro x hx
    have hanalyzed := analyzed_of_analyze hp h
    obtain ⟨a, ha, f, hf, b, hb, _, ht⟩ := (hanalyzed.calls x.1 x.2).mp hx
    exact hanalyzed.usable _ (hanalyzed.enters ha hf hb ht)

/-- The static call graph lowers every defined function, and its callees are defined. -/
theorem calls_over_of_staticCallGraph {p : Program} (hp : p.Coherent) {config : Config}
    {calls : CallGraph} (h : (staticCallGraph p config).1 = .ok calls) : calls.Over p := by
  obtain ⟨hlower, rfl⟩ := staticCallsFrom_spec hp p.defined Relation.ReflTransGen.refl h
  have hrecorded : ∀ f ∈ p.defined, ∀ x ∈ p.callsOf config f,
      (∃ caller, p.body x.1.function = .ok caller) ∧ ∃ callee, p.body x.2 = .ok callee := by
    intro f hf x hx
    obtain ⟨body, hbody, b, _, hsite, ht⟩ := Program.mem_callsOf.mp hx
    constructor
    · rw [hsite]
      exact ⟨body, hbody⟩
    · apply hlower
      rw [Program.mem_defined]
      exact (b.targets_spec p config).2 _ ht
  have hfold : ∀ (fs : List Int) (g : CallGraph), (∀ f ∈ fs, f ∈ p.defined) → g.Over p →
      (fs.foldl (fun g f => (g.register f).record (p.callsOf config f)) g).Over p := by
    intro fs
    induction fs with
    | nil => exact fun _ _ hg => hg
    | cons f rest ih =>
      intro g hfs hg
      have hf := hfs f (List.mem_cons_self ..)
      obtain ⟨body, hbody⟩ := hlower f hf
      apply ih
      · exact fun f' hf' => hfs f' (List.mem_cons_of_mem _ hf')
      · exact (hg.register hbody).record (hrecorded f hf)
  exact hfold p.defined {} (fun _ hf => hf) (.empty p)

/-! ### 2. Questions -/

namespace Oracle

/-- Asks questions one after the other. -/
def askAll (o : Oracle) (asked : List (BlockRef × BlockRef)) : Oracle :=
  asked.foldl (fun o q => (o.canReach q.1 q.2).1) o

/-- The search for the answer to a question, without a bound, ends with an answer. -/
inductive Answers (o : Oracle) (a b : BlockRef) : Option Bool → Prop
  | found {o₁ : Oracle} : o.look a b = (o₁, .found) → Answers o a b (some true)
  | lost {o₁ : Oracle} : o.look a b = (o₁, .lost) → Answers o a b none
  | follow {o₁ : Oracle} {list : List Pursuit} {r : Oracle × Option Bool} :
      o.look a b = (o₁, .follow list) → Searches b o₁ [a] list r → Answers o a b r.2

variable {p : Program} {calls : CallGraph} {o : Oracle}

theorem Knows.askAll (hp : p.Coherent) (hcalls : calls.Bounded p.size) (h : o.Knows p calls)
    (asked : List (BlockRef × BlockRef)) : (o.askAll asked).Knows p calls := by
  induction asked generalizing o with
  | nil => exact h
  | cons q rest ih => exact ih (canReach_spec hp hcalls h q.1 q.2).1

theorem Knows.answers (hp : p.Coherent) (hcalls : calls.Bounded p.size) (h : o.Knows p calls)
    (a b : BlockRef) : Answers o a b (o.canReach a b).2 := by
  obtain ⟨h₁, hlook⟩ := h.look hp hcalls a b
  unfold canReach
  rcases hres : o.look a b with ⟨o₁, seen⟩
  rw [hres] at h₁ hlook
  dsimp only at h₁ hlook ⊢
  cases seen with
  | found => exact .found hres
  | lost => exact absurd hlook id
  | follow list =>
    obtain ⟨hsearch, _, r, hr, _⟩ := search_spec hp hcalls _ h₁ (.start hlook)
      (h₁.searchBound_le hlook.2.1 [a])
    have hfollow := Answers.follow hres hsearch
    rw [hr] at hfollow
    dsimp only
    rw [hr]
    exact hfollow

/-- **The oracle is exact.**  For every program that can be built, every call graph over it and all
    exact traversals, after any questions, the oracle has an answer for any two blocks; its search
    ends there by itself, and the answer is whether the second block can be executed after the
    first.  The calls that an analysis or the static call graph records are such a call graph, over
    the program as they leave it. -/
theorem canReach_iff_reaches {p : Program} (hp : p.Built) {walks : Traversals}
    (hwalks : walks.Exact) :
    (∀ calls : CallGraph, calls.Over p → ∀ (asked : List (BlockRef × BlockRef)) (a b : BlockRef),
      ∃ r, (((make p calls walks).askAll asked).canReach a b).2 = some r ∧
        Answers ((make p calls walks).askAll asked) a b (some r) ∧
        (r = true ↔ calls.Reaches p a b)) ∧
      (∀ config entry s, Flow.analyze p config entry = (s, none) →
        s.program.Built ∧ s.calls.Over s.program) ∧
      ∀ config calls, (staticCallGraph p config).1 = .ok calls →
        (staticCallGraph p config).2.1.Built ∧ calls.Over (staticCallGraph p config).2.1 := by
  refine ⟨?_, ?_, ?_⟩
  · intro calls hcalls asked a b
    have hknows := (knows_make p calls hwalks).askAll hp.coherent hcalls.toBounded asked
    obtain ⟨_, r, hr, hiff⟩ := canReach_spec hp.coherent hcalls.toBounded hknows a b
    have hanswers := hknows.answers hp.coherent hcalls.toBounded a b
    rw [hr] at hanswers
    exact ⟨r, hr, hanswers, hiff⟩
  · intro config entry s h
    have hlater := (Flow.analyzed_of_analyze hp.coherent h).later
    exact ⟨hp.later hlater,
      (Flow.calls_over_of_analyze hp.coherent h).sameSources hlater.alike.toSameSources⟩
  · intro config calls h
    have hlater : p.Later (staticCallGraph p config).2.1 :=
      Program.later_staticCallsFrom config p.defined {} p
    exact ⟨hp.later hlater,
      (calls_over_of_staticCallGraph hp.coherent h).sameSources hlater.alike.toSameSources⟩

/-- The calls of the walk. -/
def walkCalls : CallGraph := ⟨.ofList [0, 1], [(⟨0, 0⟩, 1), (⟨0, 1⟩, 1), (⟨1, 0⟩, 1)]⟩

theorem walkCalls_over : walkCalls.Over Flow.walkProgram := by
  have hstatic : (staticCallGraph Flow.walkProgram {}).1 = .ok walkCalls :=
    eq_ok_of_toOption (by decide +kernel)
  exact calls_over_of_staticCallGraph Flow.built_walk.coherent hstatic

theorem walkCalls_reaches : walkCalls.Reaches Flow.walkProgram ⟨0, 1⟩ ⟨1, 1⟩ := by
  have hentry : (Flow.walkProgram.body 1).toOption.map (·.entry) = some 0 := by decide +kernel
  obtain ⟨body, hbody, hzero⟩ := Option.map_eq_some_iff.mp hentry
  have henter : CallGraph.Step Flow.walkProgram walkCalls ⟨0, 1⟩ ⟨1, body.entry⟩ :=
    .enter (by decide) (eq_ok_of_toOption hbody)
  rw [hzero] at henter
  exact (Relation.ReflTransGen.single henter).tail (.next (by decide +kernel))

theorem walkCalls_not_reaches : ¬walkCalls.Reaches Flow.walkProgram ⟨1, 1⟩ ⟨0, 0⟩ := by
  intro hreach
  rcases Relation.ReflTransGen.cases_head hreach with heq | ⟨y, hstep, _⟩
  · exact nomatch heq
  · cases hstep with
    | @next _ _ v hv =>
      have hnil : Flow.walkProgram.successors 1 1 = [] := by decide +kernel
      rw [hnil] at hv
      exact nomatch hv
    | enter hcall _ => simp [walkCalls] at hcall

/-- After two other questions, the oracle of the walk finds that its last block can be executed
    after a block of the first function, and that the first block cannot be executed after it. -/
theorem canReach_iff_reaches_walk :
    let o := (make Flow.walkProgram walkCalls).askAll [(⟨1, 0⟩, ⟨0, 0⟩), (⟨0, 0⟩, ⟨1, 1⟩)]
    (o.canReach ⟨0, 1⟩ ⟨1, 1⟩).2 = some true ∧ (o.canReach ⟨1, 1⟩ ⟨0, 0⟩).2 = some false := by
  have hexact := (canReach_iff_reaches Flow.built_walk Traversals.exact_own).1 walkCalls
    walkCalls_over [(⟨1, 0⟩, ⟨0, 0⟩), (⟨0, 0⟩, ⟨1, 1⟩)]
  constructor
  · obtain ⟨r, hr, _, hiff⟩ := hexact ⟨0, 1⟩ ⟨1, 1⟩
    rw [hr, hiff.mpr walkCalls_reaches]
  · obtain ⟨r, hr, _, hiff⟩ := hexact ⟨1, 1⟩ ⟨0, 0⟩
    have hfalse : r = false := by
      rw [← Bool.not_eq_true, hiff]
      exact walkCalls_not_reaches
    rw [hr, hfalse]

end Oracle

end DropFlow
