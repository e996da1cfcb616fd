/-
  DropFlow/Proofs/Oracle.lean
  ===========================
  The oracle is exact.

  `CallGraph.Step` is one step of the execution as far as the oracle follows it: from a
  block to a successor, or into the entry block of a function that the block calls.  What
  the oracle keeps is true of the program and its calls (`Knows`), whatever it was asked
  before and whatever exact traversals it uses (`Traversals.Exact`).  Its search leaves out
  functions that cannot call their way to the wanted one, and blocks that it has visited;
  neither loses a way, and the bound of the search is never met: without it, the search
  ends in the same way (`Searches`).  So the oracle always has an answer, and the answer
  is right (`canReach_spec`).
-/
import DropFlow.Proofs.Digraph.Closure
import DropFlow.Proofs.Program.Store

namespace DropFlow

/-! ### 1. Steps between blocks -/

/-- The successors of a block in the body of its function, if there is a usable one. -/
def Program.successors (p : Program) (f block : Int) : List Int :=
  match p.body f with
  | .ok b => b.successors block
  | .error _ => []

/-- The blocks that a block reaches without leaving its function. -/
def Program.Within (p : Program) (f : Int) : Int → Int → Prop :=
  Relation.ReflTransGen fun u v => v ∈ p.successors f u

namespace CallGraph

/-- One step of the execution: to a successor in the same function, or into the entry block of a
    function that is called. -/
inductive Step (p : Program) (calls : CallGraph) : BlockRef → BlockRef → Prop
  | next {f u v : Int} : v ∈ p.successors f u → Step p calls ⟨f, u⟩ ⟨f, v⟩
  | enter {site : BlockRef} {g : Int} {b : Body} : (site, g) ∈ calls.calls → p.body g = .ok b →
      Step p calls site ⟨g, b.entry⟩

/-- One block can be executed after another one. -/
def Reaches (p : Program) (calls : CallGraph) : BlockRef → BlockRef → Prop :=
  Relation.ReflTransGen (Step p calls)

/-- One function can call its way to another one. -/
def Leads (calls : CallGraph) : Int → Int → Prop :=
  Relation.ReflTransGen fun f g => ∃ site : BlockRef, site.function = f ∧ (site, g) ∈ calls.calls

/-- The calls come from known callers, and all functions are among the first `size` ones. -/
structure Bounded (size : Nat) (calls : CallGraph) : Prop where
  callers : ∀ x ∈ calls.calls, x.1.function ∈ calls.callers
  range : ∀ f ∈ calls.functions, 0 ≤ f ∧ f < size

variable {p : Program} {calls : CallGraph}

theorem reaches_of_within {f u v : Int} (h : p.Within f u v) : Reaches p calls ⟨f, u⟩ ⟨f, v⟩ := by
  induction h with
  | refl => exact Relation.ReflTransGen.refl
  | tail _ hstep ih => exact ih.tail (Step.next hstep)

/-- Along a way, the functions call their way. -/
theorem leads_of_reaches {x y : BlockRef} (h : Reaches p calls x y) :
    calls.Leads x.function y.function := by
  induction h with
  | refl => exact Relation.ReflTransGen.refl
  | tail _ hstep ih =>
    cases hstep with
    | next _ => exact ih
    | enter hcall _ => exact ih.tail ⟨_, rfl, hcall⟩

theorem mem_functions {f : Int} :
    f ∈ calls.functions ↔ f ∈ calls.callers ∨ ∃ site, (site, f) ∈ calls.calls := by
  unfold functions
  rw [← IdSet.mem_def, IdSet.mem_union, IdSet.mem_ofList, List.mem_map]
  constructor
  · rintro (h | ⟨⟨site, g⟩, hm, rfl⟩)
    · exact Or.inl h
    · exact Or.inr ⟨site, hm⟩
  · rintro (h | ⟨site, hm⟩)
    · exact Or.inl h
    · exact Or.inr ⟨(site, f), hm, rfl⟩

/-- One function has a resolved call of another one. -/
def Calls (calls : CallGraph) (f g : Int) : Prop :=
  ∃ site : BlockRef, site.function = f ∧ (site, g) ∈ calls.calls

theorem mem_functions_of_calls (h : ∀ x ∈ calls.calls, x.1.function ∈ calls.callers) {f g : Int}
    (hcall : calls.Calls f g) : f ∈ calls.functions ∧ g ∈ calls.functions := by
  obtain ⟨site, rfl, hm⟩ := hcall
  exact ⟨mem_functions.mpr (Or.inl (h _ hm)), mem_functions.mpr (Or.inr ⟨site, hm⟩)⟩

/-- The arcs between the functions are their calls. -/
theorem mem_successors_toDigraph (h : ∀ x ∈ calls.calls, x.1.function ∈ calls.callers)
    {order : Int} {name : Int → String} {f g : Int} :
    g ∈ (calls.toDigraph order name).successors f ↔ calls.Calls f g := by
  rw [toDigraph, Digraph.mem_successors_make, List.mem_map]
  constructor
  · rintro ⟨_, _, ⟨site, t⟩, hm, heq⟩
    cases heq
    exact ⟨site, rfl, hm⟩
  · intro hcall
    obtain ⟨hf, hg⟩ := mem_functions_of_calls h hcall
    obtain ⟨site, rfl, hm⟩ := hcall
    exact ⟨hf, hg, (site, g), hm, rfl⟩

theorem arcs_toDigraph (h : ∀ x ∈ calls.calls, x.1.function ∈ calls.callers) (order : Int)
    (name : Int → String) :
    (fun f g => g ∈ (calls.toDigraph order name).successors f) = calls.Calls := by
  funext f g
  exact propext (mem_successors_toDigraph h)

theorem eq_of_leads_of_notMem (h : ∀ x ∈ calls.calls, x.1.function ∈ calls.callers) {f g : Int}
    (hf : f ∉ calls.functions) (hlead : calls.Leads f g) : g = f := by
  rcases Relation.ReflTransGen.cases_head hlead with heq | ⟨k, ⟨site, rfl, hm⟩, _⟩
  · exact heq.symm
  · exact absurd (mem_functions.mpr (Or.inl (h _ hm))) hf

theorem mem_callees {site : BlockRef} {g : Int} :
    g ∈ calls.callees site ↔ (site, g) ∈ calls.calls := by
  simp [callees]

theorem mem_callBlocks {f k : Int} :
    k ∈ calls.callBlocks f ↔ ∃ g, (⟨f, k⟩, g) ∈ calls.calls := by
  unfold callBlocks
  rw [← IdSet.mem_def, IdSet.mem_ofList, List.mem_map]
  constructor
  · rintro ⟨⟨site, g⟩, hm, rfl⟩
    obtain ⟨hcall, hf⟩ := List.mem_filter.mp hm
    have hsite : site.function = f := by simpa using hf
    subst hsite
    exact ⟨g, hcall⟩
  · rintro ⟨g, hm⟩
    exact ⟨(⟨f, k⟩, g), List.mem_filter.mpr ⟨hm, by simp⟩, rfl⟩

/-- The callees of blocks of a function, as a list of calls has them. -/
def calleesOf (list : List (BlockRef × Int)) (f : Int) (blocks : List Int) : List Int :=
  blocks.flatMap fun k => (list.filter (·.1 = ⟨f, k⟩)).map (·.2)

theorem length_calleesOf_cons_le (x : BlockRef × Int) (list : List (BlockRef × Int)) (f : Int)
    {blocks : List Int} (h : blocks.Nodup) : (calleesOf (x :: list) f blocks).length ≤
      (calleesOf list f blocks).length + if x.1.block ∈ blocks then 1 else 0 := by
  induction blocks with
  | nil => exact Nat.le_refl 0
  | cons k rest ih =>
    rw [List.nodup_cons] at h
    have hle := ih h.2
    unfold calleesOf at hle ⊢
    rw [List.flatMap_cons, List.flatMap_cons, List.length_append, List.length_append,
      List.filter_cons]
    by_cases hx : x.1 = ⟨f, k⟩
    · have hblock : x.1.block = k := congrArg BlockRef.block hx
      rw [hblock, if_neg h.1] at hle
      rw [hblock, if_pos (List.mem_cons_self ..), if_pos (decide_eq_true hx), List.map_cons,
        List.length_cons]
      omega
    · rw [if_neg (by simp [hx])]
      by_cases hm : x.1.block ∈ rest
      · rw [if_pos hm] at hle
        rw [if_pos (List.mem_cons_of_mem _ hm)]
        omega
      · rw [if_neg hm] at hle
        omega

theorem length_calleesOf_le (list : List (BlockRef × Int)) (f : Int) {blocks : List Int}
    (h : blocks.Nodup) : (calleesOf list f blocks).length ≤ list.length := by
  induction list with
  | nil =>
    have hnil : calleesOf [] f blocks = [] := by simp [calleesOf]
    rw [hnil]
    exact Nat.le_refl 0
  | cons x rest ih =>
    have hle := length_calleesOf_cons_le x rest f h
    rw [List.length_cons]
    split at hle <;> omega

end CallGraph

/-! ### 2. What the oracle knows -/

/-- Traversals that meet exactly the nodes that can be reached.  The breadth-first one is asked
    only for graphs whose nodes lie in their range. -/
structure Traversals.Exact (walks : Traversals) : Prop where
  depthFirst : ∀ {order : Int} {nodes : List Int} {pairs : List (Int × Int)}
    {labels : List (Int × String)}, nodes.Nodup → ∀ v ∈ nodes, ∀ w,
    w ∈ walks.depthFirst (Digraph.make order nodes pairs labels) v ↔
      Relation.ReflTransGen
        (fun x y => y ∈ (Digraph.make order nodes pairs labels).successors x) v w
  breadthFirst : ∀ {order : Int} {nodes : List Int} {pairs : List (Int × Int)}
    {labels : List (Int × String)}, nodes.Nodup → (∀ x ∈ nodes, 0 ≤ x ∧ x < order) →
    ∀ v ∈ nodes, ∀ w,
    w ∈ walks.breadthFirst (Digraph.make order nodes pairs labels) v ↔
      Relation.ReflTransGen
        (fun x y => y ∈ (Digraph.make order nodes pairs labels).successors x) v w

theorem Traversals.exact_own : Traversals.own.Exact where
  depthFirst := fun _ _ _ _ => Digraph.mem_reachable_make
  breadthFirst := fun _ _ _ _ _ => Digraph.mem_reachable_make

theorem Program.nodup_of_body {p : Program} {f : Int} {b : Body} (h : p.body f = .ok b) :
    (b.blocks.map (·.id)).Nodup := by
  obtain ⟨_, _, _, hlower⟩ := source_of_body_eq_ok h
  exact (blocks_of_lowerFunction hlower).2

theorem Program.mem_successors_iff {p : Program} {f u v : Int} : v ∈ p.successors f u ↔
    ∃ body, p.body f = .ok body ∧ ∃ b ∈ body.blocks, b.id = u ∧ v ∈ b.successors := by
  unfold Program.successors
  cases hf : p.body f with
  | error e =>
    constructor
    · intro h
      exact nomatch h
    · rintro ⟨body, hbody, _⟩
      exact nomatch hbody
  | ok body =>
    have hblock : ∀ b, body.block? u = some b ↔ b ∈ body.blocks ∧ b.id = u :=
      fun b => Body.block?_eq_some_iff (Program.nodup_of_body hf)
    dsimp only
    unfold Body.successors
    constructor
    · intro h
      split at h
      · rename_i b hb
        obtain ⟨hm, hid⟩ := (hblock b).mp hb
        exact ⟨body, rfl, b, hm, hid, h⟩
      · exact nomatch h
    · rintro ⟨body', hbody', b, hm, hid, h⟩
      cases hbody'
      rw [(hblock b).mpr ⟨hm, hid⟩]
      exact h

section ControlFlow

variable {p : Program} {f : Int} {b : Body}

/-- The arcs between the blocks are the steps to another block. -/
theorem Program.mem_successors_controlFlow (h : p.body f = .ok b) {u v : Int} :
    v ∈ b.controlFlow.successors u ↔ v ∈ p.successors f u ∧ v ≠ u := by
  obtain ⟨_, _, _, hlower⟩ := source_of_body_eq_ok h
  rw [Body.controlFlow, Digraph.mem_successors_make, Program.mem_successors_iff]
  simp only [h, Except.ok.injEq, exists_eq_left', List.mem_map, List.mem_flatMap, List.mem_filter,
    decide_eq_true_eq, Prod.mk.injEq]
  constructor
  · rintro ⟨-, -, c, hc, s, ⟨hs, hne⟩, rfl, rfl⟩
    exact ⟨⟨c, hc, rfl, hs⟩, hne⟩
  · rintro ⟨⟨c, hc, rfl, hv⟩, hne⟩
    refine ⟨⟨c, hc, rfl⟩, ?_, c, hc, v, ⟨hv, hne⟩, rfl, rfl⟩
    exact List.mem_map.mp (successors_of_lowerFunction hlower hc hv)

/-- Without the arcs from a block to itself, the same blocks are reached. -/
theorem Program.within_iff_controlFlow (h : p.body f = .ok b) {u v : Int} : p.Within f u v ↔
    Relation.ReflTransGen (fun x y => y ∈ b.controlFlow.successors x) u v := by
  constructor
  · intro hwithin
    induction hwithin with
    | refl => exact .refl
    | @tail x y _ hstep ih =>
      by_cases hne : y = x
      · exact hne ▸ ih
      · exact ih.tail ((p.mem_successors_controlFlow h).mpr ⟨hstep, hne⟩)
  · intro hreach
    exact Relation.ReflTransGen.mono
      (fun x y hstep => ((p.mem_successors_controlFlow h).mp hstep).1) _ _ hreach

/-- A block that does not exist reaches itself alone. -/
theorem Program.eq_of_within {u v : Int} (hnone : p.successors f u = [])
    (h : p.Within f u v) : v = u := by
  rcases Relation.ReflTransGen.cases_head h with heq | ⟨w, hstep, _⟩
  · exact heq.symm
  · rw [hnone] at hstep
    exact nomatch hstep

end ControlFlow

namespace Oracle

/-- What the oracle keeps is true of a program and its calls. -/
structure Knows (p : Program) (calls : CallGraph) (o : Oracle) : Prop where
  later : p.Later o.program
  calls_eq : o.calls = calls
  graph : o.graph = calls.toDigraph p.size p.name
  walks : o.walks.Exact
  flows : ∀ f g, o.flows.lookup f = some g → g = (p.body f).toOption.map (·.controlFlow)
  blocks : ∀ a set, o.blocks.lookup a = some set →
    ∀ v, v ∈ set ↔ p.Within a.function a.block v
  functions : ∀ f set, o.functions.lookup f = some set →
    ∀ g, g ∈ set ↔ g ≠ f ∧ calls.Leads f g

theorem knows_make (p : Program) (calls : CallGraph) {walks : Traversals} (hwalks : walks.Exact) :
    (make p calls walks).Knows p calls where
  later := Relation.ReflTransGen.refl
  calls_eq := rfl
  graph := rfl
  walks := hwalks
  flows := fun _ _ h => nomatch h
  blocks := fun _ _ h => nomatch h
  functions := fun _ _ h => nomatch h

variable {p : Program} {calls : CallGraph} {o : Oracle}

theorem Knows.announce (h : o.Knows p calls) (notices : Array Notice) :
    Knows p calls { o with notices := notices } :=
  ⟨h.later, h.calls_eq, h.graph, h.walks, h.flows, h.blocks, h.functions⟩

theorem lookup_cons_cases {α β : Type} [BEq α] [LawfulBEq α] {k k' : α} {v v' : β}
    {table : List (α × β)} (h : ((k, v) :: table).lookup k' = some v') :
    (k' = k ∧ v' = v) ∨ table.lookup k' = some v' := by
  rw [List.lookup_cons] at h
  split at h
  · rename_i heq
    cases h
    exact Or.inl ⟨by simpa using heq, rfl⟩
  · exact Or.inr h

theorem Knows.fetch (hp : p.Coherent) (h : o.Knows p calls) (f : Int) :
    (o.fetch f).1.Knows p calls ∧ (o.fetch f).2 = p.body f := by
  refine ⟨?_, ?_⟩
  · exact ⟨h.later.fetch f, h.calls_eq, h.graph, h.walks, h.flows, h.blocks, h.functions⟩
  · unfold Oracle.fetch
    dsimp only
    rw [h.later.alike.fetched f, hp.fetch_body f]

theorem Knows.controlFlow (hp : p.Coherent) (h : o.Knows p calls) (f : Int) :
    (o.controlFlow f).1.Knows p calls ∧
      (o.controlFlow f).2 = (p.body f).toOption.map (·.controlFlow) := by
  unfold Oracle.controlFlow
  split
  · rename_i g hg
    exact ⟨h, h.flows f g hg⟩
  · obtain ⟨hfetch, hbody⟩ := h.fetch hp f
    dsimp only
    rw [hbody]
    refine ⟨⟨hfetch.later, hfetch.calls_eq, hfetch.graph, hfetch.walks, ?_, hfetch.blocks,
      hfetch.functions⟩, rfl⟩
    intro k g hg
    rcases lookup_cons_cases hg with ⟨rfl, rfl⟩ | hg
    · rfl
    · exact hfetch.flows k g hg

theorem Knows.addBlocks (h : o.Knows p calls) {a : BlockRef} {set : IdSet}
    (hset : ∀ v, v ∈ set ↔ p.Within a.function a.block v) :
    Knows p calls { o with blocks := (a, set) :: o.blocks } := by
  refine ⟨h.later, h.calls_eq, h.graph, h.walks, h.flows, ?_, h.functions⟩
  intro b set' hb
  rcases lookup_cons_cases hb with ⟨rfl, rfl⟩ | hb
  · exact hset
  · exact h.blocks b set' hb

/-- What is met from a block are the blocks that it reaches, with the block itself where there is
    nothing to traverse. -/
theorem Knows.mem_blocksMet (h : o.Knows p calls) (a : BlockRef) (v : Int) :
    v ∈ IdSet.ofList (a.block :: match (p.body a.function).toOption.map (·.controlFlow) with
      | some g => if g.keys.contains a.block then o.walks.depthFirst g a.block else []
      | none => []) ↔ p.Within a.function a.block v := by
  have hself : v = a.block → p.Within a.function a.block v := by
    rintro rfl
    exact .refl
  rw [IdSet.mem_ofList, List.mem_cons]
  cases hf : p.body a.function with
  | error e =>
    have hnone : p.successors a.function a.block = [] := by rw [Program.successors, hf]
    refine ⟨fun hv => hself (hv.resolve_right List.not_mem_nil), fun hwithin => .inl ?_⟩
    exact Program.eq_of_within hnone hwithin
  | ok f =>
    have hkeys : a.block ∈ f.controlFlow.keys ↔ a.block ∈ f.blocks.map (·.id) :=
      Digraph.mem_keys_make
    simp only [Except.toOption, Option.map_some, List.contains_iff_mem]
    split
    · rename_i hin
      rw [Body.controlFlow, h.walks.depthFirst (Program.nodup_of_body hf) _ (hkeys.mp hin),
        ← Body.controlFlow, ← Program.within_iff_controlFlow hf]
      exact or_iff_right_of_imp hself
    · rename_i hout
      have hnone : p.successors a.function a.block = [] := by
        rw [List.eq_nil_iff_forall_not_mem]
        intro w hw
        obtain ⟨body, hbody, c, hc, hid, _⟩ := Program.mem_successors_iff.mp hw
        rw [hf] at hbody
        cases hbody
        exact hout (hkeys.mpr (List.mem_map.mpr ⟨c, hc, hid⟩))
      refine ⟨fun hv => hself (hv.resolve_right List.not_mem_nil), fun hwithin => .inl ?_⟩
      exact Program.eq_of_within hnone hwithin

theorem Knows.blocksFrom (hp : p.Coherent) (h : o.Knows p calls) (a : BlockRef) :
    (o.blocksFrom a).1.Knows p calls ∧
      ∀ v, v ∈ (o.blocksFrom a).2 ↔ p.Within a.function a.block v := by
  unfold Oracle.blocksFrom
  split
  · rename_i set hset
    exact ⟨h, h.blocks a set hset⟩
  · obtain ⟨hknows, hflow⟩ := h.controlFlow hp a.function
    rcases hres : o.controlFlow a.function with ⟨o₁, flow⟩
    rw [hres] at hknows hflow
    dsimp only at hknows hflow ⊢
    subst hflow
    refine ⟨hknows.addBlocks ?_, ?_⟩ <;> exact hknows.mem_blocksMet a

theorem Knows.functionsFrom (hcalls : calls.Bounded p.size) (h : o.Knows p calls) (f : Int) :
    (o.functionsFrom f).1.Knows p calls ∧ ∃ set, (o.functionsFrom f).2 = some set ∧
      ∀ g, g ∈ set ↔ g ≠ f ∧ calls.Leads f g := by
  unfold Oracle.functionsFrom
  split
  · rename_i set hset
    exact ⟨h, set, rfl, h.functions f set hset⟩
  · have hkeys : f ∈ o.graph.keys ↔ f ∈ calls.functions := by
      rw [h.graph]
      exact Digraph.mem_keys_make
    split
    · rename_i hin
      rw [List.contains_iff_mem, hkeys] at hin
      have hmet : ∀ g, g ∈ o.walks.breadthFirst o.graph f ↔ calls.Leads f g := by
        intro g
        have hnodup : calls.functions.Nodup := (IdSet.sorted _).imp Int.ne_of_lt
        have harcs := CallGraph.arcs_toDigraph hcalls.callers p.size p.name
        rw [h.graph]
        unfold CallGraph.toDigraph at harcs ⊢
        rw [h.walks.breadthFirst hnodup hcalls.range f hin, harcs]
        exact Iff.rfl
      have hrange : (o.walks.breadthFirst o.graph f).all
          (fun v => decide (0 ≤ v) && decide (v < o.graph.order)) = true := by
        rw [List.all_eq_true]
        intro g hg
        have hfun : g ∈ calls.functions := by
          rcases Relation.ReflTransGen.cases_tail ((hmet g).mp hg) with heq | ⟨_, _, site, _, hm⟩
          · exact heq ▸ hin
          · exact CallGraph.mem_functions.mpr (Or.inr ⟨site, hm⟩)
        obtain ⟨hlo, hhi⟩ := hcalls.range g hfun
        have horder : o.graph.order = p.size := by
          rw [h.graph]
          rfl
        simp [horder, hlo, hhi]
      rw [if_pos hrange]
      have hset : ∀ g, g ∈ IdSet.ofList ((o.walks.breadthFirst o.graph f).filter (· ≠ f)) ↔
          g ≠ f ∧ calls.Leads f g := by
        intro g
        rw [IdSet.mem_ofList, List.mem_filter, hmet g, decide_eq_true_eq, and_comm]
      refine ⟨⟨h.later, h.calls_eq, h.graph, h.walks, h.flows, h.blocks, ?_⟩, _, rfl, hset⟩
      intro g set hg
      rcases lookup_cons_cases hg with ⟨rfl, rfl⟩ | hg
      · exact hset
      · exact h.functions g set hg
    · rename_i hout
      rw [List.contains_iff_mem, hkeys] at hout
      have hset : ∀ g, g ∈ (∅ : IdSet) ↔ g ≠ f ∧ calls.Leads f g := by
        intro g
        constructor
        · intro hg
          exact absurd hg (IdSet.not_mem_empty g)
        · rintro ⟨hne, hlead⟩
          exact absurd (CallGraph.eq_of_leads_of_notMem hcalls.callers hout hlead) hne
      refine ⟨⟨h.later, h.calls_eq, h.graph, h.walks, h.flows, h.blocks, ?_⟩, _, rfl, hset⟩
      intro g set hg
      rcases lookup_cons_cases hg with ⟨rfl, rfl⟩ | hg
      · exact hset
      · exact h.functions g set hg

theorem Knows.reachesFunction (hcalls : calls.Bounded p.size) (h : o.Knows p calls) (f g : Int) :
    (o.reachesFunction f g).1.Knows p calls ∧ ∃ r, (o.reachesFunction f g).2 = some r ∧
      (r = true ↔ calls.Leads f g) := by
  unfold Oracle.reachesFunction
  split
  · rename_i heq
    subst heq
    exact ⟨h, true, rfl, fun _ => Relation.ReflTransGen.refl, fun _ => rfl⟩
  · rename_i hne
    obtain ⟨hknows, set, hset, hmem⟩ := h.functionsFrom hcalls f
    refine ⟨hknows, decide (g ∈ set), ?_, ?_⟩
    · dsimp only
      rw [hset, Option.map_some]
    · rw [decide_eq_true_eq, hmem g]
      exact ⟨fun hg => hg.2, fun hg => ⟨Ne.symm hne, hg⟩⟩

/-! ### 3. The look at a block -/

/-- A block reaches another one without leaving its function. -/
def Here (p : Program) (a x : BlockRef) : Prop :=
  a.function = x.function ∧ p.Within a.function a.block x.block

theorem Here.reaches {a x : BlockRef} (h : Here p a x) : calls.Reaches p a x := by
  obtain ⟨f, u⟩ := a
  obtain ⟨g, v⟩ := x
  obtain ⟨rfl, hwithin⟩ := h
  exact CallGraph.reaches_of_within hwithin

/-- What the look at a block has to give: the wanted block is here, or it is not and the calls
    are given that are made from here, unless they cannot lead to it. -/
def Look.Right (p : Program) (calls : CallGraph) (a b : BlockRef) : Look → Prop
  | .found => Here p a b
  | .follow list => ¬Here p a b ∧ list.length ≤ calls.calls.length ∧
    (∀ x ∈ list, ∃ site, Here p a site ∧ (site, x.2) ∈ calls.calls) ∧
    (calls.Leads a.function b.function → ∀ site g, Here p a site → (site, g) ∈ calls.calls →
      ∃ x ∈ list, x.2 = g)
  | .lost => False

/-- No calls have to be followed from a function without calls, or one that does not lead to the
    wanted one. -/
theorem Look.right_nil {a b : BlockRef} (hhere : ¬Here p a b)
    (h : calls.Leads a.function b.function → calls.callBlocks a.function = []) :
    Look.Right p calls a b (.follow []) := by
  refine ⟨hhere, Nat.zero_le _, fun x hx => (nomatch hx), fun hlead site g hsite hcall => ?_⟩
  have hm : site.block ∈ calls.callBlocks a.function := by
    rw [CallGraph.mem_callBlocks, hsite.1]
    exact ⟨g, hcall⟩
  rw [h hlead] at hm
  exact nomatch hm

theorem Look.right_follow {a b : BlockRef} (hhere : ¬Here p a b) {set : IdSet}
    (hset : ∀ v, v ∈ set ↔ p.Within a.function a.block v) :
    Look.Right p calls a b (.follow
      (((calls.callBlocks a.function).filter fun s => decide (s ∈ set)).flatMap fun s =>
        (calls.callees ⟨a.function, s⟩).map fun callee => (a, callee))) := by
  refine ⟨hhere, ?_, ?_, ?_⟩
  · have hnodup : ((calls.callBlocks a.function).filter fun s => decide (s ∈ set)).Nodup :=
      ((IdSet.sorted _).imp fun hlt => Int.ne_of_lt hlt).filter _
    have hle := CallGraph.length_calleesOf_le calls.calls a.function hnodup
    unfold CallGraph.calleesOf at hle
    rw [List.length_flatMap] at hle ⊢
    simpa [CallGraph.callees] using hle
  · intro x hx
    obtain ⟨s, hs, hx⟩ := List.mem_flatMap.mp hx
    obtain ⟨g, hg, rfl⟩ := List.mem_map.mp hx
    obtain ⟨_, hin⟩ := List.mem_filter.mp hs
    refine ⟨⟨a.function, s⟩, ⟨rfl, (hset s).mp (of_decide_eq_true hin)⟩, ?_⟩
    exact CallGraph.mem_callees.mp hg
  · intro _ site g hsite hcall
    obtain ⟨f, s⟩ := site
    obtain ⟨rfl, hwithin⟩ := hsite
    refine ⟨(a, g), List.mem_flatMap.mpr ⟨s, List.mem_filter.mpr ⟨?_, ?_⟩, ?_⟩, rfl⟩
    · exact CallGraph.mem_callBlocks.mpr ⟨g, hcall⟩
    · exact decide_eq_true ((hset s).mpr hwithin)
    · exact List.mem_map.mpr ⟨g, CallGraph.mem_callees.mpr hcall, rfl⟩

/-- The look at a block is right. -/
theorem Knows.look (hp : p.Coherent) (hcalls : calls.Bounded p.size) (h : o.Knows p calls)
    (a b : BlockRef) :
    (o.look a b).1.Knows p calls ∧ Look.Right p calls a b (o.look a b).2 := by
  -- the first part of the look, and what the oracle knows after it
  have hfirst : ∃ o₁ here, (if a.function = b.function then
      ((o.blocksFrom a).1, decide (b.block ∈ (o.blocksFrom a).2)) else (o, false)) = (o₁, here) ∧
        o₁.Knows p calls ∧ (here = true ↔ Here p a b) := by
    by_cases hf : a.function = b.function
    · obtain ⟨hknows, hset⟩ := h.blocksFrom hp a
      rw [if_pos hf]
      refine ⟨_, _, rfl, hknows, ?_⟩
      rw [decide_eq_true_eq, hset]
      exact ⟨fun hw => ⟨hf, hw⟩, fun hh => hh.2⟩
    · rw [if_neg hf]
      exact ⟨_, _, rfl, h, fun hno => (nomatch hno), fun hh => absurd hh.1 hf⟩
  obtain ⟨o₁, here, hsame, h₁, hhere⟩ := hfirst
  unfold Oracle.look
  dsimp only
  rw [hsame]
  dsimp only
  cases here with
  | true => exact ⟨h₁, hhere.mp rfl⟩
  | false =>
    have hnot : ¬Here p a b := fun hh => nomatch hhere.mpr hh
    obtain ⟨h₂, r, hr, hlead⟩ := h₁.reachesFunction hcalls a.function b.function
    rw [if_neg Bool.false_ne_true]
    rcases hres : o₁.reachesFunction a.function b.function with ⟨o₂, answer⟩
    rw [hres] at hr h₂
    dsimp only at hr h₂
    subst hr
    cases r with
    | false =>
      refine ⟨h₂, Look.right_nil hnot fun hl => ?_⟩
      exact nomatch hlead.mpr hl
    | true =>
      dsimp only
      rw [h₂.calls_eq]
      split
      · rename_i hnil
        exact ⟨h₂, Look.right_nil hnot fun _ => hnil⟩
      · obtain ⟨h₃, hset⟩ := h₂.blocksFrom hp a
        refine ⟨h₃, ?_⟩
        dsimp only
        rw [h₃.calls_eq]
        exact Look.right_follow hnot hset

/-! ### 4. The search -/

/-- The search without a bound: it goes on until the wanted block is found, a call leaves the
    program, or nothing is left to follow.  What it announces on the way does not matter. -/
inductive Searches (b : BlockRef) :
    Oracle → List BlockRef → List Pursuit → Oracle × Option Bool → Prop
  | done {o : Oracle} {visited : List BlockRef} : Searches b o visited [] (o, some false)
  | unusable {o o₁ : Oracle} {visited : List BlockRef} {x : Pursuit} {rest : List Pursuit}
      {e : Program.BodyError} {notices : Array Notice} {r : Oracle × Option Bool} :
      o.fetch x.2 = (o₁, .error e) → Searches b { o₁ with notices := notices } visited rest r →
      Searches b o visited (x :: rest) r
  | visited {o o₁ : Oracle} {visited : List BlockRef} {x : Pursuit} {rest : List Pursuit}
      {f : Body} {r : Oracle × Option Bool} : o.fetch x.2 = (o₁, .ok f) →
      ⟨x.2, f.entry⟩ ∈ visited → Searches b o₁ visited rest r → Searches b o visited (x :: rest) r
  | found {o o₁ o₂ : Oracle} {visited : List BlockRef} {x : Pursuit} {rest : List Pursuit}
      {f : Body} : o.fetch x.2 = (o₁, .ok f) → ⟨x.2, f.entry⟩ ∉ visited →
      o₁.look ⟨x.2, f.entry⟩ b = (o₂, .found) → Searches b o visited (x :: rest) (o₂, some true)
  | lost {o o₁ o₂ : Oracle} {visited : List BlockRef} {x : Pursuit} {rest : List Pursuit}
      {f : Body} : o.fetch x.2 = (o₁, .ok f) → ⟨x.2, f.entry⟩ ∉ visited →
      o₁.look ⟨x.2, f.entry⟩ b = (o₂, .lost) → Searches b o visited (x :: rest) (o₂, none)
  | follow {o o₁ o₂ : Oracle} {visited : List BlockRef} {x : Pursuit} {rest list : List Pursuit}
      {f : Body} {r : Oracle × Option Bool} : o.fetch x.2 = (o₁, .ok f) →
      ⟨x.2, f.entry⟩ ∉ visited → o₁.look ⟨x.2, f.entry⟩ b = (o₂, .follow list) →
      Searches b o₂ (⟨x.2, f.entry⟩ :: visited) (list ++ rest) r →
      Searches b o visited (x :: rest) r

/-- The entry blocks of the functions that are called. -/
def entryBlocks (p : Program) (calls : CallGraph) : List BlockRef :=
  calls.calls.filterMap fun x => (p.body x.2).toOption.map fun f => ⟨x.2, f.entry⟩

/-- The number of entry blocks that have not been visited. -/
def unvisited (p : Program) (calls : CallGraph) (visited : List BlockRef) : Nat :=
  (entryBlocks p calls).countP fun a => !visited.contains a

/-- The state of a search for a block from a start. -/
structure Searching (p : Program) (calls : CallGraph) (start b : BlockRef)
    (visited : List BlockRef) (pursuits : List Pursuit) : Prop where
  start_mem : start ∈ visited
  /-- The calls to follow are made on the way. -/
  sound : ∀ x ∈ pursuits, ∃ site, calls.Reaches p start site ∧ (site, x.2) ∈ calls.calls
  /-- The blocks visited do not reach the wanted one in their functions. -/
  missed : ∀ v ∈ visited, ¬Here p v b
  /-- The calls that may lead to the wanted block lead to visited blocks, or are to be followed. -/
  covered : ∀ v ∈ visited, calls.Leads v.function b.function → ∀ site g f, Here p v site →
    (site, g) ∈ calls.calls → p.body g = .ok f → ⟨g, f.entry⟩ ∈ visited ∨ ∃ x ∈ pursuits, x.2 = g

/-- A search that has nothing left to follow has missed nothing. -/
theorem Searching.not_reaches {start b : BlockRef} {visited : List BlockRef}
    (h : Searching p calls start b visited []) : ¬calls.Reaches p start b := by
  intro hreach
  -- along the way to the wanted block, every block is reached from a visited one in its function
  have hway : ∀ {x : BlockRef}, calls.Reaches p x b → (∃ v ∈ visited, Here p v x) →
      ∃ v ∈ visited, Here p v b := by
    intro x hx
    induction hx using Relation.ReflTransGen.head_induction_on with
    | refl => exact fun hv => hv
    | @head x y hstep hrest ih =>
      rintro ⟨v, hv, hhere⟩
      cases hstep with
      | next hsucc => exact ih ⟨v, hv, hhere.1, hhere.2.tail (hhere.1 ▸ hsucc)⟩
      | @enter site g f hcall hbody =>
        have hlead : calls.Leads v.function b.function := by
          have hfull : calls.Reaches p x b := Relation.ReflTransGen.head (.enter hcall hbody) hrest
          rw [hhere.1]
          exact CallGraph.leads_of_reaches hfull
        rcases h.covered v hv hlead x g f hhere hcall hbody with hm | ⟨_, hm, _⟩
        · exact ih ⟨⟨g, f.entry⟩, hm, rfl, Relation.ReflTransGen.refl⟩
        · exact nomatch hm
  obtain ⟨v, hv, hhere⟩ := hway hreach
    ⟨start, h.start_mem, rfl, Relation.ReflTransGen.refl⟩
  exact h.missed v hv hhere

theorem Searching.start {a b : BlockRef} {list : List Pursuit}
    (h : Look.Right p calls a b (.follow list)) : Searching p calls a b [a] list := by
  obtain ⟨hnot, _, hsound, hcomplete⟩ := h
  refine ⟨List.mem_singleton.mpr rfl, ?_, ?_, ?_⟩
  · intro x hx
    obtain ⟨site, hsite, hcall⟩ := hsound x hx
    exact ⟨site, hsite.reaches, hcall⟩
  · intro v hv
    rw [List.mem_singleton.mp hv]
    exact hnot
  · intro v hv hlead site g f hhere hcall _
    rw [List.mem_singleton.mp hv] at hlead hhere
    exact Or.inr (hcomplete hlead site g hhere hcall)

theorem Searching.skip {start b : BlockRef} {visited : List BlockRef} {x : Pursuit}
    {rest : List Pursuit} (h : Searching p calls start b visited (x :: rest))
    (hskip : ∀ f, p.body x.2 = .ok f → ⟨x.2, f.entry⟩ ∈ visited) :
    Searching p calls start b visited rest := by
  refine ⟨h.start_mem, fun y hy => h.sound y (List.mem_cons_of_mem _ hy), h.missed, ?_⟩
  intro v hv hlead site g f hhere hcall hbody
  rcases h.covered v hv hlead site g f hhere hcall hbody with hm | ⟨y, hy, rfl⟩
  · exact Or.inl hm
  · rcases List.mem_cons.mp hy with rfl | hy
    · exact Or.inl (hskip f hbody)
    · exact Or.inr ⟨y, hy, rfl⟩

/-- The entry block of the first function to follow is reached. -/
theorem Searching.reaches_entry {start b : BlockRef} {visited : List BlockRef} {x : Pursuit}
    {rest : List Pursuit} {f : Body} (h : Searching p calls start b visited (x :: rest))
    (hbody : p.body x.2 = .ok f) : calls.Reaches p start ⟨x.2, f.entry⟩ := by
  obtain ⟨site, hsite, hcall⟩ := h.sound x (List.mem_cons_self ..)
  exact hsite.tail (.enter hcall hbody)

/-- The first call to follow leads to a block that has been looked at. -/
theorem Searching.follow {start b : BlockRef} {visited : List BlockRef} {x : Pursuit}
    {rest list : List Pursuit} {f : Body} (h : Searching p calls start b visited (x :: rest))
    (hbody : p.body x.2 = .ok f) (hlook : Look.Right p calls ⟨x.2, f.entry⟩ b (.follow list)) :
    Searching p calls start b (⟨x.2, f.entry⟩ :: visited) (list ++ rest) := by
  obtain ⟨hnot, _, hsound, hcomplete⟩ := hlook
  have hentered := h.reaches_entry hbody
  refine ⟨List.mem_cons_of_mem _ h.start_mem, ?_, ?_, ?_⟩
  · intro y hy
    rcases List.mem_append.mp hy with hy | hy
    · obtain ⟨site, hsite, hcall'⟩ := hsound y hy
      exact ⟨site, hentered.trans hsite.reaches, hcall'⟩
    · exact h.sound y (List.mem_cons_of_mem _ hy)
  · intro v hv
    rcases List.mem_cons.mp hv with rfl | hv
    · exact hnot
    · exact h.missed v hv
  · intro v hv hlead site g f' hhere hcall' hbody'
    rcases List.mem_cons.mp hv with rfl | hv
    · obtain ⟨y, hy, hg⟩ := hcomplete hlead site g hhere hcall'
      exact Or.inr ⟨y, List.mem_append_left _ hy, hg⟩
    · rcases h.covered v hv hlead site g f' hhere hcall' hbody' with hm | ⟨y, hy, rfl⟩
      · exact Or.inl (List.mem_cons_of_mem _ hm)
      · rcases List.mem_cons.mp hy with rfl | hy
        · rw [hbody] at hbody'
          cases hbody'
          exact Or.inl (List.mem_cons_self ..)
        · exact Or.inr ⟨y, List.mem_append_right _ hy, rfl⟩

/-- Visiting an entry block leaves fewer to be visited. -/
theorem unvisited_cons_lt {visited : List BlockRef} {a : BlockRef}
    (ha : a ∈ entryBlocks p calls) (hnew : visited.contains a = false) :
    unvisited p calls (a :: visited) < unvisited p calls visited := by
  unfold unvisited
  generalize entryBlocks p calls = list at ha
  have hle : ∀ l : List BlockRef, l.countP (fun x => !(a :: visited).contains x) ≤
      l.countP fun x => !visited.contains x := by
    intro l
    refine List.countP_mono_left fun x _ hx => ?_
    rw [List.contains_cons, Bool.not_or, Bool.and_eq_true] at hx
    exact hx.2
  induction list with
  | nil => exact nomatch ha
  | cons x rest ih =>
    rw [List.countP_cons, List.countP_cons]
    by_cases hx : x = a
    · have hrest := hle rest
      rw [hx, hnew, List.contains_cons, beq_self_eq_true, Bool.true_or]
      simp only [Bool.not_true, Bool.not_false, Bool.false_eq_true, if_true, if_false]
      omega
    · have hlt := ih ((List.mem_cons.mp ha).resolve_left (Ne.symm hx))
      rw [List.contains_cons, beq_eq_false_iff_ne.mpr hx, Bool.false_or]
      omega

/-- What a block brings to follow is paid for by its visit. -/
theorem Searching.paid_of_visit {start b : BlockRef} {visited : List BlockRef} {x : Pursuit}
    {rest list : List Pursuit} {f : Body} {fuel : Nat}
    (h : Searching p calls start b visited (x :: rest)) (hbody : p.body x.2 = .ok f)
    (hnew : visited.contains ⟨x.2, f.entry⟩ = false)
    (hlook : Look.Right p calls ⟨x.2, f.entry⟩ b (.follow list))
    (hfuel : rest.length + 1 + calls.calls.length * unvisited p calls visited ≤ fuel + 1) :
    (list ++ rest).length + calls.calls.length * unvisited p calls (⟨x.2, f.entry⟩ :: visited) ≤
      fuel := by
  obtain ⟨site, _, hcall⟩ := h.sound x (List.mem_cons_self ..)
  have hentry : (⟨x.2, f.entry⟩ : BlockRef) ∈ entryBlocks p calls := by
    refine List.mem_filterMap.mpr ⟨(site, x.2), hcall, ?_⟩
    rw [hbody]
    rfl
  have hpaid : calls.calls.length * unvisited p calls (⟨x.2, f.entry⟩ :: visited) +
      calls.calls.length ≤ calls.calls.length * unvisited p calls visited := by
    rw [← Nat.mul_succ]
    exact Nat.mul_le_mul_left _ (unvisited_cons_lt hentry hnew)
  have hlen := hlook.2.1
  rw [List.length_append]
  omega

/-- **The search ends and is exact**, within a bound that covers the calls to follow and those that
    the blocks not yet visited may bring. -/
theorem search_spec (hp : p.Coherent) (hcalls : calls.Bounded p.size) {start b : BlockRef}
    (fuel : Nat) : ∀ {o : Oracle} {visited : List BlockRef} {pursuits : List Pursuit},
      o.Knows p calls → Searching p calls start b visited pursuits →
      pursuits.length + calls.calls.length * unvisited p calls visited ≤ fuel →
      Searches b o visited pursuits (search b fuel o visited pursuits) ∧
        (search b fuel o visited pursuits).1.Knows p calls ∧
        ∃ r, (search b fuel o visited pursuits).2 = some r ∧
          (r = true ↔ calls.Reaches p start b) := by
  have hdone : ∀ {visited : List BlockRef}, Searching p calls start b visited [] →
      (false = true ↔ calls.Reaches p start b) := by
    intro visited hs
    exact ⟨fun h => (nomatch h), fun h => absurd h hs.not_reaches⟩
  induction fuel with
  | zero =>
    intro o visited pursuits ho hs hfuel
    have hnil : pursuits = [] := List.eq_nil_of_length_eq_zero (by omega)
    subst hnil
    rw [search]
    exact ⟨.done, ho, false, rfl, hdone hs⟩
  | succ fuel ih =>
    intro o visited pursuits ho hs hfuel
    cases pursuits with
    | nil =>
      rw [search]
      · exact ⟨.done, ho, false, rfl, hdone hs⟩
      · exact fun h => nomatch h
    | cons x rest =>
      obtain ⟨from', callee⟩ := x
      rw [List.length_cons] at hfuel
      rw [search]
      obtain ⟨h₁, hbody⟩ := ho.fetch hp callee
      rcases hfetch : o.fetch callee with ⟨o₁, result⟩
      rw [hfetch] at h₁ hbody
      dsimp only at h₁ hbody
      cases result with
      | error e =>
        have hrest : Searching p calls start b visited rest := by
          apply hs.skip
          intro f hf
          rw [← hbody] at hf
          exact nomatch hf
        obtain ⟨hsearch, hanswer⟩ := ih (h₁.announce _) hrest (by omega)
        exact ⟨.unusable hfetch hsearch, hanswer⟩
      | ok f =>
        dsimp only
        split
        · rename_i hvisited
          have hmem : (⟨callee, f.entry⟩ : BlockRef) ∈ visited := by simpa using hvisited
          have hrest : Searching p calls start b visited rest := by
            apply hs.skip
            intro f' hf'
            rw [← hbody] at hf'
            cases hf'
            exact hmem
          obtain ⟨hsearch, hanswer⟩ := ih h₁ hrest (by omega)
          exact ⟨.visited hfetch hmem hsearch, hanswer⟩
        · rename_i hnew
          have hnotMem : (⟨callee, f.entry⟩ : BlockRef) ∉ visited := by simpa using hnew
          obtain ⟨h₂, hlook⟩ := h₁.look hp hcalls ⟨callee, f.entry⟩ b
          rcases hres : o₁.look ⟨callee, f.entry⟩ b with ⟨o₂, seen⟩
          rw [hres] at h₂ hlook
          dsimp only at h₂ hlook
          cases seen with
          | found =>
            have hentered := hs.reaches_entry hbody.symm
            exact ⟨.found hfetch hnotMem hres, h₂, true, rfl,
              fun _ => hentered.trans (Here.reaches hlook), fun _ => rfl⟩
          | lost => exact absurd hlook id
          | follow list =>
            have hfuel' := hs.paid_of_visit hbody.symm (Bool.not_eq_true _ ▸ hnew) hlook hfuel
            obtain ⟨hsearch, hanswer⟩ := ih h₂ (hs.follow hbody.symm hlook) hfuel'
            exact ⟨.follow hfetch hnotMem hres hsearch, hanswer⟩

theorem Knows.searchBound_le (h : o.Knows p calls) {list : List Pursuit}
    (hlist : list.length ≤ calls.calls.length) (visited : List BlockRef) :
    list.length + calls.calls.length * unvisited p calls visited ≤ o.searchBound := by
  have hentries : unvisited p calls visited ≤ calls.calls.length :=
    Nat.le_trans List.countP_le_length (List.length_filterMap_le _ _)
  have hmul : calls.calls.length * unvisited p calls visited ≤
      calls.calls.length * calls.calls.length := Nat.mul_le_mul_left _ hentries
  have hsquare : (calls.calls.length + 1) * (calls.calls.length + 1) =
      calls.calls.length * calls.calls.length + calls.calls.length + calls.calls.length + 1 := by
    rw [Nat.succ_mul, Nat.mul_succ]
    omega
  unfold searchBound
  rw [h.calls_eq]
  omega

/-- **The oracle is exact.**  After whatever it was asked before, it has an answer, and the answer
    is whether the second block can be executed after the first. -/
theorem canReach_spec (hp : p.Coherent) (hcalls : calls.Bounded p.size) (h : o.Knows p calls)
    (a b : BlockRef) : (o.canReach a b).1.Knows p calls ∧
      ∃ r, (o.canReach a b).2 = some r ∧ (r = true ↔ calls.Reaches p a b) := by
  obtain ⟨h₁, hlook⟩ := h.look hp hcalls a b
  unfold canReach
  rcases hres : o.look a b with ⟨o₁, seen⟩
  rw [hres] at h₁ hlook
  dsimp only at h₁ hlook ⊢
  cases seen with
  | found => exact ⟨h₁.announce _, true, rfl, fun _ => Here.reaches hlook, fun _ => rfl⟩
  | lost => exact absurd hlook id
  | follow list =>
    obtain ⟨_, h₂, r, hr, hiff⟩ := search_spec hp hcalls _ h₁ (.start hlook)
      (h₁.searchBound_le hlook.2.1 [a])
    dsimp only
    rw [hr]
    exact ⟨h₂.announce _, r, rfl, hiff⟩

end Oracle

end DropFlow
