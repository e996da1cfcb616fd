/-
  DropFlow/Proofs/Entries/Roots.lean
  ==================================
  The entries of a loaded program, and what they lead to.

  The static call graph of a loaded program has the defined functions as its nodes and
  their resolved calls as its arcs.  When no entry is named, the entries are its functions
  that no other function calls, or else the least function of each group of mutually
  recursive functions that is not called from outside; there is always one of the two.

  A function that no other function calls is a group of its own that is not called from
  outside.  So when there is one, larger groups are passed over, and the functions that
  only they lead to are not reached from any entry.
-/
import DropFlow.Proofs.Digraph.Source
import DropFlow.Proofs.Entries
import DropFlow.Proofs.Oracle.Queries

namespace DropFlow

/-! ### 1. Groups of functions -/

namespace CallGraph

/-- No other function calls a function. -/
def Uncalled (calls : CallGraph) (f : Int) : Prop := ∀ g, calls.Calls g f → g = f

/-- Two functions call their ways to each other. -/
def Mutual (calls : CallGraph) (f g : Int) : Prop := calls.Leads f g ∧ calls.Leads g f

/-- The group of functions that a function is mutually recursive with is not called from
    outside. -/
def InSource (calls : CallGraph) (f : Int) : Prop :=
  ∀ g h, calls.Calls g h → calls.Mutual f h → calls.Mutual f g

variable {calls : CallGraph} {f g : Int}

theorem Uncalled.eq_of_leads (h : calls.Uncalled f) (hlead : calls.Leads g f) : g = f := by
  -- from the end of the way: before the function there is only the function itself
  induction hlead using Relation.ReflTransGen.head_induction_on with
  | refl => rfl
  | head hcall _ ih =>
    rw [ih] at hcall
    exact h _ hcall

/-- A function that no other function calls is a group of its own that is not called from
    outside. -/
theorem uncalled_iff : calls.Uncalled f ↔ calls.InSource f ∧ ∀ g, calls.Mutual f g → g = f := by
  constructor
  · intro h
    refine ⟨fun g k hcall hmutual => ?_, fun g hmutual => h.eq_of_leads hmutual.2⟩
    rw [h.eq_of_leads hmutual.2] at hcall
    rw [h g hcall]
    exact ⟨.refl, .refl⟩
  · rintro ⟨hsource, halone⟩ g hcall
    exact halone g (hsource g f hcall ⟨.refl, .refl⟩)

end CallGraph

/-! ### 2. The graph of the functions -/

section Graph

variable {calls : CallGraph} {order : Int} {name : Int → String} {f g : Int}

namespace CallGraph

theorem mem_keys_toDigraph : f ∈ (calls.toDigraph order name).keys ↔ f ∈ calls.functions := by
  rw [toDigraph, Digraph.mem_keys_make]

theorem mem_keys_of_mem_successors (h : g ∈ (calls.toDigraph order name).successors f) :
    f ∈ (calls.toDigraph order name).keys ∧ g ∈ (calls.toDigraph order name).keys := by
  rw [toDigraph, Digraph.mem_successors_make] at h
  rw [mem_keys_toDigraph, mem_keys_toDigraph]
  exact ⟨h.1, h.2.1⟩

variable (hcallers : ∀ x ∈ calls.calls, x.1.function ∈ calls.callers)

include hcallers

theorem leads_toDigraph :
    Digraph.Leads (calls.toDigraph order name).successors f g ↔ calls.Leads f g := by
  rw [Digraph.Leads, arcs_toDigraph hcallers]
  exact Iff.rfl

theorem inSource_toDigraph :
    Digraph.InSource (calls.toDigraph order name).successors f ↔ calls.InSource f := by
  simp only [Digraph.InSource, Digraph.Mutual, leads_toDigraph hcallers,
    mem_successors_toDigraph hcallers]
  exact Iff.rfl

/-- The functions that the graph leaves uncalled. -/
theorem mem_uncalled_toDigraph : f ∈ (calls.toDigraph order name).keys.filter
      (fun f => (calls.toDigraph order name).inDegree f = 0) ↔
      f ∈ calls.functions ∧ calls.Uncalled f := by
  simp only [List.mem_filter, decide_eq_true_iff, Digraph.inDegree_eq_zero_iff, mem_keys_toDigraph,
    mem_successors_toDigraph hcallers]
  refine and_congr_right fun _ => ?_
  constructor
  · intro hnone g hcall
    by_contra hne
    exact hnone g (mem_functions_of_calls hcallers hcall).1 hne hcall
  · intro hnone g _ hne hcall
    exact hne (hnone g hcall)

end CallGraph

/-! ### 3. The roots of the graph -/

theorem pairwise_rootFunctions (g : Digraph) : (rootFunctions g).Pairwise (· < ·) := by
  simp only [rootFunctions]
  split <;> exact IdSet.sorted _

variable (hcallers : ∀ x ∈ calls.calls, x.1.function ∈ calls.callers)

include hcallers

/-- The roots are the functions that no other function calls, if there is one. -/
theorem mem_rootFunctions_of_uncalled (h : ∃ u ∈ calls.functions, calls.Uncalled u) :
    f ∈ rootFunctions (calls.toDigraph order name) ↔ f ∈ calls.functions ∧ calls.Uncalled f := by
  rw [← CallGraph.mem_uncalled_toDigraph hcallers]
  simp only [rootFunctions]
  split
  · rename_i hnil
    obtain ⟨u, hu⟩ := h
    rw [← CallGraph.mem_uncalled_toDigraph hcallers, hnil] at hu
    exact nomatch hu
  · rw [← IdSet.mem_def, IdSet.mem_ofList]

theorem rootFunctions_of_called (h : ¬∃ u ∈ calls.functions, calls.Uncalled u) :
    rootFunctions (calls.toDigraph order name) =
      (IdSet.ofList ((calls.toDigraph order name).sources.filterMap List.min?)).toList := by
  simp only [rootFunctions]
  split
  · rfl
  · rename_i hsome
    obtain ⟨u, hu⟩ := List.exists_mem_of_ne_nil _ hsome
    exact absurd ⟨u, (CallGraph.mem_uncalled_toDigraph hcallers).mp hu⟩ h

/-- Otherwise they are the least functions of the groups that are not called from outside. -/
theorem mem_rootFunctions_of_called (h : ¬∃ u ∈ calls.functions, calls.Uncalled u) :
    f ∈ rootFunctions (calls.toDigraph order name) ↔
      f ∈ calls.functions ∧ calls.InSource f ∧ ∀ g, calls.Mutual f g → f ≤ g := by
  rw [rootFunctions_of_called hcallers h, ← IdSet.mem_def, IdSet.mem_ofList,
    Digraph.mem_least_sources fun _ _ => CallGraph.mem_keys_of_mem_successors,
    CallGraph.mem_keys_toDigraph, CallGraph.inSource_toDigraph hcallers]
  simp only [Digraph.Mutual, CallGraph.leads_toDigraph hcallers, CallGraph.Mutual]

/-- Then they lead to every function. -/
theorem exists_rootFunctions_leads (h : ¬∃ u ∈ calls.functions, calls.Uncalled u)
    (hf : f ∈ calls.functions) :
    ∃ e ∈ rootFunctions (calls.toDigraph order name), calls.Leads e f := by
  obtain ⟨e, he, hlead⟩ := Digraph.exists_least_leads
    (fun _ _ => CallGraph.mem_keys_of_mem_successors) (CallGraph.mem_keys_toDigraph.mpr hf)
  rw [rootFunctions_of_called hcallers h]
  exact ⟨e, IdSet.mem_ofList.mpr he, (CallGraph.leads_toDigraph hcallers).mp hlead⟩

/-- Every function is led to by a group that is not called from outside. -/
theorem exists_inSource_leads (hf : f ∈ calls.functions) :
    ∃ g, calls.InSource g ∧ calls.Leads g f := by
  have hclosed : ∀ x y, y ∈ (calls.toDigraph 0 fun _ => "").successors x →
      x ∈ (calls.toDigraph 0 fun _ => "").keys ∧ y ∈ (calls.toDigraph 0 fun _ => "").keys :=
    fun _ _ => CallGraph.mem_keys_of_mem_successors
  obtain ⟨g, hg, hlead⟩ := Digraph.exists_least_leads hclosed (CallGraph.mem_keys_toDigraph.mpr hf)
  have hsource := ((Digraph.mem_least_sources hclosed).mp hg).2.1
  exact ⟨g, (CallGraph.inSource_toDigraph hcallers).mp hsource,
    (CallGraph.leads_toDigraph hcallers).mp hlead⟩

end Graph

/-! ### 4. Loaded programs -/

section Loaded

variable {files : Files} {config : Config} {paths : List String} {yaml : Yaml.Library}
  {l : Loaded}

theorem Loaded.calls_of_load (h : (Loaded.load files config paths yaml).1 = .ok l) :
    (staticCallGraph l.program config).1 = .ok l.calls ∧ ∃ f, l.program.hasBody f = true := by
  simp only [Loaded.load] at h
  split at h
  · exact nomatch h
  · rename_i p _ _
    have hprepared := Loaded.prepared_of_prepare h
    refine ⟨hprepared.calls, ?_⟩
    simp only [Program.prepare] at h
    split at h
    · exact nomatch h
    · rename_i hdefined
      obtain ⟨f, hf⟩ := List.exists_mem_of_ne_nil p.defined (by simpa using hdefined)
      refine ⟨f, ?_⟩
      rw [hprepared.later.alike.hasBody f]
      exact Program.mem_defined.mp hf

/-- The call graph of a loaded program has the defined functions, and its calls are known. -/
theorem Loaded.functions_of_load (h : (Loaded.load files config paths yaml).1 = .ok l) :
    (∀ x ∈ l.calls.calls, x.1.function ∈ l.calls.callers) ∧
      ∀ f, f ∈ l.calls.functions ↔ l.program.hasBody f = true := by
  have hp := (Loaded.settled_of_load h).1.coherent
  have hcalls := (Loaded.calls_of_load h).1
  exact ⟨(calls_over_of_staticCallGraph hp hcalls).callers,
    fun f => mem_functions_staticCallGraph hp hcalls⟩

theorem matchesEntry_iff {name entry : String} : matchesEntry name entry = true ↔
    segments entry ≠ [] ∧ segments entry <:+ segments name := by
  simp [matchesEntry]

theorem pairwise_of_namedEntries {p : Program} {entries : List String} {ids : List Int}
    (h : (namedEntries p entries).1 = .ok ids) : ids.Pairwise (· < ·) := by
  simp only [namedEntries] at h
  split at h
  · exact nomatch h
  · cases h
    exact IdSet.sorted _

/-- Without names, the entries of a loaded program are the roots of its call graph. -/
theorem findEntries_of_load (h : (Loaded.load files config paths yaml).1 = .ok l) :
    (findEntries l.program l.calls []).1 =
      .ok (rootFunctions (l.calls.toDigraph l.program.size l.program.name)) := by
  obtain ⟨hcallers, hfunctions⟩ := Loaded.functions_of_load h
  obtain ⟨f, hf⟩ := (Loaded.calls_of_load h).2
  have hne : rootFunctions (l.calls.toDigraph l.program.size l.program.name) ≠ [] := by
    by_cases hsome : ∃ u ∈ l.calls.functions, l.calls.Uncalled u
    · obtain ⟨u, hu⟩ := hsome
      exact List.ne_nil_of_mem ((mem_rootFunctions_of_uncalled hcallers ⟨u, hu⟩).mpr hu)
    · obtain ⟨e, he, _⟩ := exists_rootFunctions_leads hcallers hsome ((hfunctions f).mpr hf)
      exact List.ne_nil_of_mem he
  -- the case of no root is excluded by `hne`
  simp only [findEntries, detectedEntries, List.isEmpty_nil, if_true]

theorem findEntries_of_ne_nil {p : Program} {calls : CallGraph} {named : List String}
    (h : named ≠ []) : findEntries p calls named = namedEntries p named := by
  simp [findEntries, h]

/-- The functions with a body whose names end with the segments of an entry that has some. -/
theorem named_iff_segments {p : Program} {named : List String} {id : Int} :
    p.Named named id ↔ p.hasBody id = true ∧ ∃ entry ∈ named,
      segments entry ≠ [] ∧ segments entry <:+ segments (p.name id) := by
  simp only [Program.Named, matchesEntry_iff]

theorem Finds.fails_iff {found : Except EntryError (List Int)} {P : Int → Prop}
    (h : Finds found P) :
    (∃ e, found = .error e) ↔ ¬∃ id, P id := by
  rw [← h.succeeds]
  cases found <;> simp

/-- **Entries are exact.**  The entries of a loaded program are found in increasing order, each
    once, and have bodies.  Entries that are named are the functions with a body whose names end
    with the segments of one that has segments, and finding them fails only if there is none.
    Otherwise finding them never fails: they are the functions with a body that no other function
    calls, or if every function is called by another one, the least functions of the groups of
    mutually recursive functions that are not called from outside. -/
theorem findEntries_exact (hload : (Loaded.load files config paths yaml).1 = .ok l)
    (named : List String) :
    (∀ ids, (findEntries l.program l.calls named).1 = .ok ids →
      ids.Pairwise (· < ·) ∧ ∀ id ∈ ids, l.program.hasBody id = true) ∧
    (named ≠ [] →
      ((∃ e, (findEntries l.program l.calls named).1 = .error e) ↔
        ¬∃ id, l.program.hasBody id = true ∧ ∃ entry ∈ named,
          segments entry ≠ [] ∧ segments entry <:+ segments (l.program.name id)) ∧
      ∀ ids, (findEntries l.program l.calls named).1 = .ok ids → ∀ id, id ∈ ids ↔
        l.program.hasBody id = true ∧ ∃ entry ∈ named,
          segments entry ≠ [] ∧ segments entry <:+ segments (l.program.name id)) ∧
    (named = [] → ∃ ids, (findEntries l.program l.calls named).1 = .ok ids ∧
      ((∃ u, l.program.hasBody u = true ∧ l.calls.Uncalled u) →
        ∀ id, id ∈ ids ↔ l.program.hasBody id = true ∧ l.calls.Uncalled id) ∧
      ((¬∃ u, l.program.hasBody u = true ∧ l.calls.Uncalled u) →
        ∀ id, id ∈ ids ↔ l.program.hasBody id = true ∧ l.calls.InSource id ∧
          ∀ g, l.calls.Mutual id g → id ≤ g)) := by
  obtain ⟨hcallers, hfunctions⟩ := Loaded.functions_of_load hload
  have hroots := findEntries_of_load hload
  refine ⟨fun ids hids => ?_, fun hne => ?_, ?_⟩
  · by_cases hnil : named = []
    · rw [hnil, hroots] at hids
      cases hids
      refine ⟨pairwise_rootFunctions _, fun id hid => (hfunctions id).mp ?_⟩
      by_cases hsome : ∃ u ∈ l.calls.functions, l.calls.Uncalled u
      · exact ((mem_rootFunctions_of_uncalled hcallers hsome).mp hid).1
      · exact ((mem_rootFunctions_of_called hcallers hsome).mp hid).1
    · rw [findEntries_of_ne_nil hnil] at hids
      refine ⟨pairwise_of_namedEntries hids, fun id hid => ?_⟩
      exact (((finds_namedEntries l.program named).mem ids hids id).mp hid).1
  · simp only [← named_iff_segments]
    rw [findEntries_of_ne_nil hne]
    have hfinds := finds_namedEntries l.program named
    exact ⟨hfinds.fails_iff, hfinds.mem⟩
  · rintro rfl
    simp only [← hfunctions]
    refine ⟨_, hroots, fun hsome id => ?_, fun hnone id => ?_⟩
    · exact mem_rootFunctions_of_uncalled hcallers hsome
    · exact mem_rootFunctions_of_called hcallers hnone

/-- A file with two functions that call each other. -/
def circleFiles : Files where
  entries := [(["p"], .file ("functions: [" ++
    "\x7bname: pong,blocks: [\x7bcall: \x7bcallee: ping\x7d\x7d]\x7d," ++
    "\x7bname: ping,blocks: [\x7bcall: \x7bcallee: pong\x7d\x7d]\x7d]"))]

/-- A function that does nothing but call another one. -/
def caller (name callee : String) : Source.Function :=
  { name, blocks := [{ call := some { callee } }] }

/-- A program of functions that have been lowered. -/
def loweredProgram (fs : List Source.Function) : Program where
  entries := (fs.mapIdx fun i f =>
    { source := f, body := (lowerFunction i f).toOption : Program.Entry }).toArray

/-- The program that the file loads as. -/
def circle : Loaded where
  program := loweredProgram [caller "pong" "ping", caller "ping" "pong"]
  calls := ⟨IdSet.ofList [0, 1], [(⟨0, 0⟩, 1), (⟨1, 0⟩, 0)]⟩

set_option maxRecDepth 100000 in
theorem load_circle : (Loaded.load circleFiles {} ["p"]).1 = .ok circle :=
  eq_ok_of_toOption (by decide +kernel)

theorem called_circle : ¬∃ u, circle.program.hasBody u = true ∧ circle.calls.Uncalled u := by
  rintro ⟨u, hbody, huncalled⟩
  have hdefined : circle.program.defined = [0, 1] := by decide +kernel
  have hu := Program.mem_defined.mpr hbody
  simp only [hdefined, List.mem_cons, List.not_mem_nil, or_false] at hu
  rcases hu with rfl | rfl
  · exact absurd (huncalled 1 ⟨⟨1, 0⟩, rfl, by simp [circle]⟩) (by decide)
  · exact absurd (huncalled 0 ⟨⟨0, 0⟩, rfl, by simp [circle]⟩) (by decide)

theorem findEntries_exact_circle : (Loaded.load circleFiles {} ["p"]).1 = .ok circle ∧
    ∃ ids, (findEntries circle.program circle.calls []).1 = .ok ids ∧ ids.Pairwise (· < ·) ∧
      ∀ id, id ∈ ids ↔ circle.program.hasBody id = true ∧ circle.calls.InSource id ∧
        ∀ g, circle.calls.Mutual id g → id ≤ g := by
  obtain ⟨hall, _, hdetected⟩ := findEntries_exact load_circle []
  obtain ⟨ids, hids, _, hleast⟩ := hdetected rfl
  exact ⟨load_circle, ids, hids, (hall ids hids).1, hleast called_circle⟩

/-- An entry without segments names no function, although every name ends with no segments. -/
theorem blank_entry_unmatched : (Loaded.load circleFiles {} ["p"]).1 = .ok circle ∧
    (findEntries circle.program circle.calls [""]).1 = .error (.unmatched [""]) ∧
    circle.program.hasBody 0 = true ∧
    segments "" <:+ segments (circle.program.name 0) := by
  have hblank : segments "" = [] := by decide +kernel
  have hmatches : entryMatches circle.program "" = [] := by
    simp [entryMatches, matchesEntry, hblank]
  refine ⟨load_circle, ?_, by decide +kernel, ?_⟩
  · simp [findEntries, namedEntries, hmatches, IdSet.ofList, IdSet.empty]
  · rw [hblank]
    exact List.nil_suffix

end Loaded

end DropFlow
