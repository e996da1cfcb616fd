/-
  DropFlow/Proofs/CallGraph.lean
  ==============================
  The calls that a call graph has after calls were recorded.

  A call that is recorded again stays where it is, so that the callees of a block are the
  functions recorded for it, each at its first occurrence (`callees_record`).  The calls
  of a function are those of its blocks, and no call has a target twice; it does not
  matter, then, how often and in which order whole functions are recorded: the callees of
  a block are the targets of its call (`callees_record_callsOf`).

  The static call graph records every defined function once.
-/
import DropFlow.Proofs.Oracle
import DropFlow.Proofs.Program.Loading
import DropFlow.Proofs.Resolution
import Mathlib.Data.List.Induction

namespace DropFlow

/-! ### 1. Recording calls -/

namespace CallGraph

/-- Records calls in order. -/
def record (g : CallGraph) (list : List (BlockRef × Int)) : CallGraph :=
  list.foldl (fun g call => g.add call.1 call.2) g

theorem record_append (g : CallGraph) (list more : List (BlockRef × Int)) :
    g.record (list ++ more) = (g.record list).record more :=
  List.foldl_append

theorem mem_calls_add {g : CallGraph} {site : BlockRef} {t : Int} {x : BlockRef × Int} :
    x ∈ (g.add site t).calls ↔ x ∈ g.calls ∨ x = (site, t) := by
  by_cases hin : (site, t) ∈ g.calls
  · simp only [add, List.contains_iff_mem, hin, if_true]
    constructor
    · exact Or.inl
    · rintro (hx | rfl)
      · exact hx
      · exact hin
  · simp [add, hin]

theorem callees_add (g : CallGraph) (at' site : BlockRef) (t : Int) :
    (g.add at' t).callees site =
      if at' = site ∧ t ∉ g.callees site then g.callees site ++ [t] else g.callees site := by
  have hmem : t ∈ g.callees site ↔ (site, t) ∈ g.calls := mem_callees
  simp only [hmem]
  unfold callees add
  by_cases hsite : at' = site
  · subst hsite
    by_cases hin : (at', t) ∈ g.calls <;> simp [hin]
  · by_cases hin : (at', t) ∈ g.calls <;> simp [hin, hsite]

/-- The callees of a block are the functions recorded for it, each at its first occurrence. -/
theorem callees_record (list : List (BlockRef × Int)) (site : BlockRef) :
    (record {} list).callees site = ((list.filter (·.1 = site)).map (·.2)).eraseDups := by
  induction list using List.reverseRecOn with
  | nil => rfl
  | append_singleton list call ih =>
    obtain ⟨at', t⟩ := call
    have hlast : record {} (list ++ [(at', t)]) = (record {} list).add at' t := by
      rw [record_append]
      rfl
    rw [hlast, callees_add, ih, List.filter_append, List.map_append, List.eraseDups_append]
    by_cases hsite : at' = site
    · by_cases hin : (site, t) ∈ list
      · simp [hsite, hin, List.removeAll]
      · simp [hsite, hin, List.removeAll, List.eraseDups_cons]
    · simp [hsite]

theorem calls_record_congr {g g' : CallGraph} (h : g.calls = g'.calls)
    (list : List (BlockRef × Int)) : (g.record list).calls = (g'.record list).calls := by
  induction list generalizing g g' with
  | nil => exact h
  | cons call rest ih =>
    apply ih
    simp [add, h]

end CallGraph

/-! ### 2. The calls of a function -/

/-- The calls of a function, in the order of its blocks. -/
def Program.callsOf (p : Program) (config : Config) (f : Int) : List (BlockRef × Int) :=
  match p.body f with
  | .ok body => body.blocks.flatMap fun b => (b.targets p config).map fun t => (⟨f, b.id⟩, t)
  | .error _ => []

/-- The functions that the call of a block may invoke; none if there is no such block. -/
def Program.targetsAt (p : Program) (config : Config) (site : BlockRef) : List Int :=
  match p.body site.function with
  | .ok body => ((body.block? site.block).map (·.targets p config)).getD []
  | .error _ => []

theorem Program.nodup_targetsAt (p : Program) (config : Config) (site : BlockRef) :
    (p.targetsAt config site).Nodup := by
  unfold targetsAt
  split
  · rename_i body _
    cases body.block? site.block with
    | none => exact List.nodup_nil
    | some b => exact (b.targets_spec p config).1
  · exact List.nodup_nil

theorem Program.mem_callsOf {p : Program} {config : Config} {f t : Int} {site : BlockRef} :
    (site, t) ∈ p.callsOf config f ↔ ∃ body, p.body f = .ok body ∧ ∃ b ∈ body.blocks,
      site = ⟨f, b.id⟩ ∧ t ∈ b.targets p config := by
  unfold callsOf
  cases p.body f with
  | error e => simp
  | ok body =>
    simp only [List.mem_flatMap, List.mem_map, Prod.mk.injEq, Except.ok.injEq, exists_eq_left']
    constructor
    · rintro ⟨b, hb, u, hu, rfl, rfl⟩
      exact ⟨b, hb, rfl, hu⟩
    · rintro ⟨b, hb, rfl, ht⟩
      exact ⟨b, hb, t, ht, rfl, rfl⟩

/-- Of the elements of a list with distinct keys, only the one with a key counts. -/
theorem flatMap_ite_of_nodup {α β γ : Type} [DecidableEq β] (key : α → β) (h : α → List γ) (k : β)
    {list : List α} (hlist : (list.map key).Nodup) :
    (list.flatMap fun x => if key x = k then h x else []) =
      ((list.find? fun x => key x = k).map h).getD [] := by
  induction list with
  | nil => rfl
  | cons x rest ih =>
    rw [List.map_cons, List.nodup_cons] at hlist
    rw [List.flatMap_cons, List.find?_cons]
    by_cases hx : key x = k
    · have hrest : (rest.flatMap fun y => if key y = k then h y else []) = [] := by
        rw [List.flatMap_eq_nil_iff]
        intro y hy
        apply if_neg
        rintro rfl
        exact hlist.1 (List.mem_map.mpr ⟨y, hy, hx.symm⟩)
      simp [hx, hrest]
    · simp [hx, ih hlist.2]

theorem Program.filter_callsOf (p : Program) (config : Config) (f : Int) (site : BlockRef) :
    ((p.callsOf config f).filter (·.1 = site)).map (·.2) =
      if f = site.function then p.targetsAt config site else [] := by
  have hblock : ∀ b : Block, (((b.targets p config).map fun t => ((⟨f, b.id⟩ : BlockRef), t)).filter
      (·.1 = site)).map (·.2) =
        if f = site.function ∧ b.id = site.block then b.targets p config else [] := by
    intro b
    obtain ⟨g, k⟩ := site
    by_cases hsite : f = g ∧ b.id = k
    · simp [hsite, List.filter_map, Function.comp_def]
    · simp [hsite]
  unfold callsOf targetsAt
  by_cases hf : f = site.function
  · subst hf
    cases hbody : p.body site.function with
    | error e => simp
    | ok body =>
      have hnodup := Program.nodup_of_body hbody
      simp only [List.filter_flatMap, List.map_flatMap, hblock, true_and, if_true]
      exact flatMap_ite_of_nodup Block.id (·.targets p config) site.block hnodup
  · cases p.body f with
    | error e => simp [hf]
    | ok body => simp [List.filter_flatMap, List.map_flatMap, hblock, hf]

theorem eraseDups_of_nodup {list : List Int} (h : list.Nodup) : list.eraseDups = list := by
  induction list with
  | nil => rfl
  | cons x rest ih =>
    rw [List.nodup_cons] at h
    have hfilter : rest.filter (fun y => !y == x) = rest := by
      rw [List.filter_eq_self]
      intro y hy
      have hne : y ≠ x := by
        rintro rfl
        exact h.1 hy
      simp [hne]
    rw [List.eraseDups_cons, hfilter, ih h.2]

/-- **The callees of a block** after functions were recorded, each any number of times and in any
    order: the targets of its call, if its function is among them. -/
theorem CallGraph.callees_record_callsOf (p : Program) (config : Config) (fs : List Int)
    (site : BlockRef) : (record {} (fs.flatMap (p.callsOf config))).callees site =
      if site.function ∈ fs then p.targetsAt config site else [] := by
  rw [callees_record, List.filter_flatMap, List.map_flatMap]
  simp only [Program.filter_callsOf]
  induction fs with
  | nil => rfl
  | cons f rest ih =>
    rw [List.flatMap_cons]
    by_cases hf : f = site.function
    · -- the rest repeats what is there
      have hrest : (rest.flatMap fun g => if g = site.function then p.targetsAt config site
          else []).removeAll (p.targetsAt config site) = [] := by
        rw [List.removeAll, List.filter_eq_nil_iff]
        intro t ht
        obtain ⟨g, _, hg⟩ := List.mem_flatMap.mp ht
        split at hg
        · simp [hg]
        · exact nomatch hg
      rw [if_pos hf, List.eraseDups_append, hrest,
        eraseDups_of_nodup (p.nodup_targetsAt config site)]
      simp [hf]
    · rw [if_neg hf, List.nil_append, ih]
      simp [Ne.symm hf]

/-! ### 3. The static call graph -/

theorem Program.id_of_body {p : Program} {f : Int} {body : Body} (h : p.body f = .ok body) :
    body.id = f := by
  obtain ⟨e, _, _, hlower⟩ := source_of_body_eq_ok h
  unfold lowerFunction at hlower
  split at hlower
  · exact nomatch hlower
  · split at hlower
    · exact nomatch hlower
    · split at hlower
      · exact nomatch hlower
      · split at hlower
        · exact nomatch hlower
        · cases hlower
          rfl

theorem CallGraph.addBody_eq {p q : Program} (hsame : p.SameSources q) {config : Config} {f : Int}
    {body : Body} (hbody : p.body f = .ok body) (g : CallGraph) :
    g.addBody q config body = (g.register f).record (p.callsOf config f) := by
  have htargets : ∀ b : Block, b.targets q config = b.targets p config := by
    intro b
    unfold Block.targets
    split
    · rw [hsame.resolve]
    · rfl
  unfold addBody record Program.callsOf
  rw [hbody, Program.id_of_body hbody]
  simp only [htargets, List.foldl_flatMap, List.foldl_map]

/-- The static call graph records the functions one after the other, if all of them lower. -/
theorem staticCallsFrom_spec {p : Program} (hp : p.Coherent) {config : Config} (fs : List Int) :
    ∀ {g g' : CallGraph} {q : Program}, p.Later q →
      (staticCallsFrom config g q fs).1 = .ok g' →
      (∀ f ∈ fs, ∃ body, p.body f = .ok body) ∧
        g' = fs.foldl (fun g f => (g.register f).record (p.callsOf config f)) g := by
  induction fs with
  | nil =>
    intro g g' q _ h
    cases h
    exact ⟨by simp, rfl⟩
  | cons f rest ih =>
    intro g g' q hq h
    rw [staticCallsFrom] at h
    dsimp only at h
    split at h
    · cases h
    · rename_i body hfetch
      have hbody : p.body f = .ok body := by
        rw [← hp.fetch_body, ← hq.alike.fetched]
        exact hfetch
      obtain ⟨hrest, hg'⟩ := ih (hq.fetch f) h
      constructor
      · intro f' hf'
        rcases List.mem_cons.mp hf' with rfl | hf'
        · exact ⟨body, hbody⟩
        · exact hrest f' hf'
      · rw [hg', CallGraph.addBody_eq hq.alike.toSameSources hbody]
        rfl

theorem calls_foldl_register (p : Program) (config : Config) (fs : List Int) (g : CallGraph) :
    (fs.foldl (fun g f => (g.register f).record (p.callsOf config f)) g).calls =
      (g.record (fs.flatMap (p.callsOf config))).calls := by
  induction fs generalizing g with
  | nil => rfl
  | cons f rest ih =>
    rw [List.foldl_cons, List.flatMap_cons, CallGraph.record_append, ih]
    apply CallGraph.calls_record_congr
    apply CallGraph.calls_record_congr
    rfl

theorem callees_staticCallGraph {p : Program} (hp : p.Coherent) {config : Config} {g : CallGraph}
    (h : (staticCallGraph p config).1 = .ok g) (site : BlockRef) :
    g.callees site = if site.function ∈ p.defined then p.targetsAt config site else [] := by
  obtain ⟨_, hg⟩ := staticCallsFrom_spec hp p.defined Relation.ReflTransGen.refl h
  have hcalls := calls_foldl_register p config p.defined {}
  rw [← CallGraph.callees_record_callsOf, hg]
  unfold CallGraph.callees
  rw [hcalls]

theorem Program.mem_targetsAt {p : Program} {config : Config} {site : BlockRef} {t : Int} :
    t ∈ p.targetsAt config site ↔ (site, t) ∈ p.callsOf config site.function := by
  have hfilter := p.filter_callsOf config site.function site
  rw [if_pos rfl] at hfilter
  rw [← hfilter]
  simp

theorem Program.mem_defined_of_body {p : Program} {f : Int} {body : Body}
    (h : p.body f = .ok body) : f ∈ p.defined := by
  obtain ⟨e, he, hdef, _⟩ := source_of_body_eq_ok h
  rw [mem_defined]
  simp [hasBody, he, hdef]

/-- The calls of the static call graph are those of all functions. -/
theorem mem_calls_staticCallGraph {p : Program} (hp : p.Coherent) {config : Config} {g : CallGraph}
    (h : (staticCallGraph p config).1 = .ok g) {site : BlockRef} {t : Int} :
    (site, t) ∈ g.calls ↔ (site, t) ∈ p.callsOf config site.function := by
  rw [← CallGraph.mem_callees, callees_staticCallGraph hp h, ← Program.mem_targetsAt]
  split
  · exact Iff.rfl
  · rename_i hundefined
    simp only [List.not_mem_nil, false_iff, Program.mem_targetsAt, Program.mem_callsOf]
    rintro ⟨body, hbody, _⟩
    exact hundefined (Program.mem_defined_of_body hbody)

theorem CallGraph.mem_callers_record {list : List (BlockRef × Int)} {f : Int} : ∀ {g : CallGraph},
    f ∈ (g.record list).callers ↔ f ∈ g.callers ∨ ∃ call ∈ list, call.1.function = f := by
  induction list with
  | nil => simp [record]
  | cons call rest ih =>
    intro g
    have hcons : g.record (call :: rest) = (g.add call.1 call.2).record rest := rfl
    have hadd : f ∈ (g.add call.1 call.2).callers ↔ f = call.1.function ∨ f ∈ g.callers :=
      IdSet.mem_insert
    rw [hcons, ih, hadd, or_assoc, or_left_comm]
    simp only [List.mem_cons, exists_eq_or_imp, @eq_comm _ f]

theorem mem_callers_foldl_register {p : Program} {config : Config} {f : Int} (fs : List Int) :
    ∀ {g : CallGraph},
      f ∈ (fs.foldl (fun g f => (g.register f).record (p.callsOf config f)) g).callers ↔
        f ∈ g.callers ∨ f ∈ fs := by
  induction fs with
  | nil => simp
  | cons f' rest ih =>
    intro g
    have hregister : f ∈ (g.register f').callers ↔ f = f' ∨ f ∈ g.callers := IdSet.mem_insert
    have hcalls : (∃ call ∈ p.callsOf config f', call.1.function = f) → f = f' := by
      rintro ⟨⟨site, t⟩, hm, rfl⟩
      obtain ⟨_, _, _, _, rfl, _⟩ := Program.mem_callsOf.mp hm
      rfl
    have hhere : f ∈ ((g.register f').record (p.callsOf config f')).callers ↔
        f = f' ∨ f ∈ g.callers := by
      rw [CallGraph.mem_callers_record, hregister]
      exact or_iff_left_of_imp fun h => .inl (hcalls h)
    rw [List.foldl_cons, ih, hhere, List.mem_cons, or_assoc, or_left_comm]

/-- The functions of the static call graph are those that are defined. -/
theorem mem_functions_staticCallGraph {p : Program} (hp : p.Coherent) {config : Config}
    {g : CallGraph} (h : (staticCallGraph p config).1 = .ok g) {f : Int} :
    f ∈ g.functions ↔ p.hasBody f = true := by
  obtain ⟨_, hg⟩ := staticCallsFrom_spec hp p.defined Relation.ReflTransGen.refl h
  have hcallers : f ∈ g.callers ↔ p.hasBody f = true := by
    rw [hg, mem_callers_foldl_register, Program.mem_defined]
    exact or_iff_right (IdSet.not_mem_empty f)
  rw [CallGraph.mem_functions, hcallers]
  refine or_iff_left_of_imp ?_
  rintro ⟨site, hsite⟩
  obtain ⟨_, _, b, _, _, ht⟩ := Program.mem_callsOf.mp ((mem_calls_staticCallGraph hp h).mp hsite)
  exact (b.targets_spec p config).2 f ht

end DropFlow
