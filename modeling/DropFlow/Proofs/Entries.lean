/-
  DropFlow/Proofs/Entries.lean
  ============================
  The functions that a check starts from.

  Both ways to find entries are exact: what is found are the functions that have a
  property of the program, and nothing is found only if no function has it (`Finds`).
  These are the functions with a body whose names end with an entry, or, when no entry is
  named, the functions with a body that no other function calls, if there are such.
-/
import DropFlow.Proofs.CallGraph
import DropFlow.Proofs.Digraph.Closure
import DropFlow.Proofs.Program.Renaming

namespace DropFlow

/-! ### 1. What is found -/

/-- The entries found are the functions with a property, and there is at least one. -/
structure Finds (found : Except EntryError (List Int)) (P : Int → Prop) : Prop where
  succeeds : (∃ ids, found = .ok ids) ↔ ∃ id, P id
  mem : ∀ ids, found = .ok ids → ∀ id, id ∈ ids ↔ P id

/-- A function with a body that one of some entries names. -/
def Program.Named (p : Program) (entries : List String) (id : Int) : Prop :=
  p.hasBody id = true ∧ ∃ entry ∈ entries, matchesEntry (p.name id) entry = true

/-- A function with a body that no other function calls. -/
def Program.Uncalled (p : Program) (config : Config) (id : Int) : Prop :=
  p.hasBody id = true ∧ ∀ f, f ≠ id → ∀ site, (site, id) ∉ p.callsOf config f

theorem Finds.error {P : Int → Prop} (e : EntryError) (h : ∀ id, ¬P id) : Finds (.error e) P where
  succeeds := by simp [h]
  mem := fun _ h => nomatch h

theorem Finds.ok {P : Int → Prop} {ids : List Int} (hne : ids ≠ []) (h : ∀ id, id ∈ ids ↔ P id) :
    Finds (.ok ids) P where
  succeeds := by
    obtain ⟨id, hid⟩ := List.exists_mem_of_ne_nil _ hne
    exact ⟨fun _ => ⟨id, (h id).mp hid⟩, fun _ => ⟨ids, rfl⟩⟩
  mem := fun _ heq => by
    cases heq
    exact h

theorem mem_entryMatches {p : Program} {entry : String} {id : Int} :
    id ∈ entryMatches p entry ↔ p.hasBody id = true ∧ matchesEntry (p.name id) entry = true := by
  rw [entryMatches, List.mem_filter, Program.mem_defined]

theorem finds_namedEntries (p : Program) (entries : List String) :
    Finds (namedEntries p entries).1 (p.Named entries) := by
  have hmem : ∀ id, id ∈ (IdSet.ofList (entries.flatMap (entryMatches p))).toList ↔
      p.Named entries id := by
    intro id
    rw [← IdSet.mem_def, IdSet.mem_ofList, List.mem_flatMap]
    simp only [mem_entryMatches, Program.Named]
    exact ⟨fun ⟨e, he, hbody, hmatch⟩ => ⟨hbody, e, he, hmatch⟩,
      fun ⟨hbody, e, he, hmatch⟩ => ⟨e, he, hbody, hmatch⟩⟩
  unfold namedEntries
  dsimp only
  split
  · rename_i hnil
    refine .error _ fun id hid => ?_
    rw [← hmem, hnil] at hid
    exact nomatch hid
  · rename_i hne
    exact .ok hne hmem

/-! ### 2. Uncalled functions -/

theorem Digraph.inDegree_eq_zero_iff {g : Digraph} {v : Int} :
    g.inDegree v = 0 ↔ ∀ k ∈ g.keys, k ≠ v → v ∉ g.successors k := by
  simp [inDegree, List.countP_eq_zero]

/-- The functions that the graph of calls leaves uncalled. -/
theorem mem_uncalled_iff {p : Program} (hp : p.Coherent) {config : Config} {calls : CallGraph}
    (h : (staticCallGraph p config).1 = .ok calls) (order : Int) (name : Int → String) {id : Int} :
    id ∈ (calls.toDigraph order name).keys.filter
      (fun f => (calls.toDigraph order name).inDegree f = 0) ↔ p.Uncalled config id := by
  have hkeys : ∀ f, f ∈ (calls.toDigraph order name).keys ↔ p.hasBody f = true := by
    intro f
    rw [CallGraph.toDigraph, Digraph.mem_keys_make, mem_functions_staticCallGraph hp h]
  have hcalls : ∀ f, id ∈ (calls.toDigraph order name).successors f ↔
      p.hasBody f = true ∧ p.hasBody id = true ∧ ∃ site, (site, id) ∈ p.callsOf config f := by
    intro f
    rw [CallGraph.toDigraph, Digraph.mem_successors_make, mem_functions_staticCallGraph hp h,
      mem_functions_staticCallGraph hp h, List.mem_map]
    refine and_congr_right fun _ => and_congr_right fun _ => ?_
    constructor
    · rintro ⟨⟨site, t⟩, hm, heq⟩
      cases heq
      exact ⟨site, (mem_calls_staticCallGraph hp h).mp hm⟩
    · rintro ⟨site, hsite⟩
      obtain ⟨_, _, _, _, rfl, _⟩ := Program.mem_callsOf.mp hsite
      exact ⟨_, (mem_calls_staticCallGraph hp h).mpr hsite, rfl⟩
  rw [List.mem_filter, hkeys, decide_eq_true_iff, Digraph.inDegree_eq_zero_iff]
  refine and_congr_right fun hbody => ?_
  constructor
  · intro hnone f hne site hsite
    -- a function that calls has a body, so that the graph has it
    obtain ⟨body, hf, _⟩ := Program.mem_callsOf.mp hsite
    have hdefined := Program.mem_defined.mp (Program.mem_defined_of_body hf)
    exact hnone f ((hkeys f).mpr hdefined) hne ((hcalls f).mpr ⟨hdefined, hbody, site, hsite⟩)
  · intro hnone f _ hne hf
    obtain ⟨_, _, site, hsite⟩ := (hcalls f).mp hf
    exact hnone f hne site hsite

theorem finds_detectedEntries {p : Program} (hp : p.Coherent) {config : Config} {calls : CallGraph}
    (h : (staticCallGraph p config).1 = .ok calls) (hsome : ∃ id, p.Uncalled config id) :
    Finds (detectedEntries p calls).1 (p.Uncalled config) := by
  have hmem : ∀ id, id ∈ rootFunctions (calls.toDigraph p.size p.name) ↔ p.Uncalled config id := by
    intro id
    rw [← mem_uncalled_iff hp h p.size p.name]
    unfold rootFunctions
    split
    · rename_i hnil
      -- a cycle gives an entry only when every function is called
      obtain ⟨f, hf⟩ := hsome
      rw [← mem_uncalled_iff hp h p.size p.name, hnil] at hf
      exact nomatch hf
    · rw [← IdSet.mem_def, IdSet.mem_ofList]
  unfold detectedEntries
  dsimp only
  split
  · rename_i hnil
    refine .error _ fun id hid => ?_
    rw [← hmem, hnil] at hid
    exact nomatch hid
  · rename_i hne
    exact .ok hne hmem

/-- A function that a check starts from, unless no entry is named and every function is called by
    another one. -/
def Program.Starts (p : Program) (config : Config) (entries : List String) (id : Int) : Prop :=
  if entries = [] then p.Uncalled config id else p.Named entries id

theorem finds_findEntries {p : Program} (hp : p.Coherent) {config : Config} {calls : CallGraph}
    (hcalls : (staticCallGraph p config).1 = .ok calls) {entries : List String}
    (h : entries ≠ [] ∨ ∃ id, p.Uncalled config id) :
    Finds (findEntries p calls entries).1 (p.Starts config entries) := by
  unfold findEntries Program.Starts
  by_cases hnil : entries = []
  · simp only [hnil, List.isEmpty_nil, if_true]
    exact finds_detectedEntries hp hcalls (h.resolve_left (absurd hnil))
  · simp only [List.isEmpty_iff, hnil, if_false]
    exact finds_namedEntries p entries

/-! ### 3. Renamed programs -/

namespace Program.Renamed

variable {ρ : Equiv.Perm Int} {p q : Program} {config : Config}

theorem named_iff (h : p.Renamed ρ q) {entries : List String} {id : Int} :
    q.Named entries (ρ id) ↔ p.Named entries id := by
  unfold Program.Named
  rw [h.hasBody]
  refine and_congr_right fun hbody => ?_
  rw [h.name hbody]

theorem mem_callsOf (h : p.Renamed ρ q) {f t : Int} {site : BlockRef}
    (hcall : (site, t) ∈ p.callsOf config f) : (site.rename ρ, ρ t) ∈ q.callsOf config (ρ f) := by
  obtain ⟨body, hbody, b, hb, rfl, ht⟩ := Program.mem_callsOf.mp hcall
  refine Program.mem_callsOf.mpr ⟨_, h.body hbody, b, hb, rfl, ?_⟩
  rw [h.targets]
  exact List.mem_map_of_mem ht

theorem uncalled (h : p.Renamed ρ q) {id : Int} (hid : p.Uncalled config id) :
    q.Uncalled config (ρ id) := by
  refine ⟨by rw [h.hasBody]; exact hid.1, fun f hne site hsite => ?_⟩
  have hcall := h.symm.mem_callsOf hsite
  rw [ρ.symm_apply_apply] at hcall
  refine hid.2 (ρ.symm f) ?_ _ hcall
  rintro rfl
  exact hne (ρ.apply_symm_apply f).symm

theorem uncalled_iff (h : p.Renamed ρ q) {id : Int} :
    q.Uncalled config (ρ id) ↔ p.Uncalled config id := by
  constructor
  · intro hid
    have hback := h.symm.uncalled hid
    rw [ρ.symm_apply_apply] at hback
    exact hback
  · exact h.uncalled

theorem starts_iff (h : p.Renamed ρ q) {entries : List String} {id : Int} :
    q.Starts config entries (ρ id) ↔ p.Starts config entries id := by
  unfold Program.Starts
  split
  · exact h.uncalled_iff
  · exact h.named_iff

end Program.Renamed

end DropFlow
