/-
  DropFlow/Proofs/Entries/Coverage.lean
  =====================================
  Which functions a check reaches when no entry is named.

  When every function is called by another one, all functions are reached.  Otherwise only
  those are that an uncalled function leads to: a function is left out if every group that
  leads to it and is not called from outside has two or more functions.
-/
import DropFlow.Proofs.Entries.Roots

namespace DropFlow

variable {files : Files} {config : Config} {paths : List String} {yaml : Yaml.Library}
  {l : Loaded}

theorem CallGraph.mem_functions_of_leads {calls : CallGraph}
    (hcallers : ∀ x ∈ calls.calls, x.1.function ∈ calls.callers) {f g : Int}
    (hf : f ∈ calls.functions) (hlead : calls.Leads g f) : g ∈ calls.functions := by
  rcases Relation.ReflTransGen.cases_head hlead with rfl | ⟨k, hcall, _⟩
  · exact hf
  · exact (mem_functions_of_calls hcallers hcall).1

/-- **What the entries lead to**, when none is named: every function, if each is called by another
    one, and otherwise the functions that an uncalled function leads to.  A function that is left
    out is led to by groups that are not called from outside, all of which have two or more
    functions. -/
theorem entries_lead_iff (hload : (Loaded.load files config paths yaml).1 = .ok l) :
    ∃ ids, (findEntries l.program l.calls []).1 = .ok ids ∧
      ∀ f, l.program.hasBody f = true →
        ((∃ e ∈ ids, l.calls.Leads e f) ↔
          (¬∃ u, l.program.hasBody u = true ∧ l.calls.Uncalled u) ∨
            ∃ u, l.calls.Uncalled u ∧ l.calls.Leads u f) ∧
        ((¬∃ e ∈ ids, l.calls.Leads e f) →
          (∃ g, l.calls.InSource g ∧ l.calls.Leads g f) ∧
            ∀ g, l.calls.InSource g → l.calls.Leads g f → ∃ h, h ≠ g ∧ l.calls.Mutual g h) := by
  obtain ⟨hcallers, hfunctions⟩ := Loaded.functions_of_load hload
  refine ⟨_, findEntries_of_load hload, fun f hf => ?_⟩
  simp only [← hfunctions] at hf ⊢
  have hreached : (∃ e ∈ rootFunctions (l.calls.toDigraph l.program.size l.program.name),
      l.calls.Leads e f) ↔ (¬∃ u ∈ l.calls.functions, l.calls.Uncalled u) ∨
        ∃ u, l.calls.Uncalled u ∧ l.calls.Leads u f := by
    by_cases hsome : ∃ u ∈ l.calls.functions, l.calls.Uncalled u
    · rw [or_iff_right (not_not.mpr hsome)]
      simp only [mem_rootFunctions_of_uncalled hcallers hsome]
      constructor
      · rintro ⟨e, ⟨_, huncalled⟩, hlead⟩
        exact ⟨e, huncalled, hlead⟩
      · rintro ⟨e, huncalled, hlead⟩
        exact ⟨e, ⟨CallGraph.mem_functions_of_leads hcallers hf hlead, huncalled⟩, hlead⟩
    · exact iff_of_true (exists_rootFunctions_leads hcallers hsome hf) (.inl hsome)
  refine ⟨hreached, fun hleft => ⟨exists_inSource_leads hcallers hf, fun g hsource hlead => ?_⟩⟩
  rw [hreached, not_or] at hleft
  -- a group of one function would be an uncalled function
  by_contra halone
  refine hleft.2 ⟨g, CallGraph.uncalled_iff.mpr ⟨hsource, fun h hmutual => ?_⟩, hlead⟩
  by_contra hne
  exact halone ⟨h, hne, hmutual⟩

/-- A file with a function that stands alone, and two functions that call each other. -/
def islandFiles : Files where
  entries := [(["p"], .file ("functions: [\x7bname: main,blocks: [\x7b\x7d]\x7d," ++
    "\x7bname: ping,blocks: [\x7bcall: \x7bcallee: pong\x7d\x7d]\x7d," ++
    "\x7bname: pong,blocks: [\x7bcall: \x7bcallee: ping\x7d\x7d]\x7d]"))]

/-- The program that the file loads as. -/
def island : Loaded where
  program := loweredProgram [{ name := "main", blocks := [{}] }, caller "ping" "pong",
    caller "pong" "ping"]
  calls := ⟨IdSet.ofList [0, 1, 2], [(⟨1, 0⟩, 2), (⟨2, 0⟩, 1)]⟩

set_option maxRecDepth 100000 in
theorem load_island : (Loaded.load islandFiles {} ["p"]).1 = .ok island :=
  eq_ok_of_toOption (by decide +kernel)

theorem uncalled_island {u : Int} :
    (u ∈ island.calls.functions ∧ island.calls.Uncalled u) ↔ u = 0 := by
  have hfunctions : island.calls.functions = [0, 1, 2] := by decide +kernel
  simp only [hfunctions, List.mem_cons, List.not_mem_nil, or_false]
  constructor
  · rintro ⟨rfl | rfl | rfl, huncalled⟩
    · rfl
    · exact absurd (huncalled 2 ⟨⟨2, 0⟩, rfl, by simp [island]⟩) (by decide)
    · exact absurd (huncalled 1 ⟨⟨1, 0⟩, rfl, by simp [island]⟩) (by decide)
  · rintro rfl
    refine ⟨.inl rfl, ?_⟩
    rintro g ⟨site, _, hcall⟩
    simp [island] at hcall

theorem findEntries_island : (findEntries island.program island.calls []).1 = .ok [0] := by
  have hcallers := (Loaded.functions_of_load load_island).1
  have hroots : ∀ u, u ∈ rootFunctions
      (island.calls.toDigraph island.program.size island.program.name) ↔ u = 0 := by
    intro u
    rw [mem_rootFunctions_of_uncalled hcallers ⟨0, uncalled_island.mpr rfl⟩, uncalled_island]
  have hset : (⟨_, pairwise_rootFunctions _⟩ : IdSet) = IdSet.singleton 0 :=
    IdSet.ext fun u => (hroots u).trans IdSet.mem_singleton.symm
  rw [findEntries_of_load load_island]
  exact congrArg (fun s : IdSet => Except.ok s.toList) hset

theorem not_leads_island : ¬∃ e ∈ [(0 : Int)], island.calls.Leads e 1 := by
  rintro ⟨e, he, hlead⟩
  rw [List.mem_singleton.mp he] at hlead
  rcases Relation.ReflTransGen.cases_head hlead with heq | ⟨k, ⟨site, hsite, hcall⟩, _⟩
  · exact absurd heq (by decide)
  · simp only [island, List.mem_cons, Prod.mk.injEq, List.not_mem_nil, or_false] at hcall
    rcases hcall with ⟨rfl, _⟩ | ⟨rfl, _⟩ <;> exact absurd hsite (by decide)

theorem entries_lead_iff_island : (Loaded.load islandFiles {} ["p"]).1 = .ok island ∧
    island.program.hasBody 1 = true ∧
    ∃ g h, h ≠ g ∧ island.calls.Mutual g h ∧ island.calls.InSource g ∧
      island.calls.Leads g 1 := by
  have hbody : island.program.hasBody 1 = true := by decide +kernel
  refine ⟨load_island, hbody, ?_⟩
  obtain ⟨ids, hids, hall⟩ := entries_lead_iff load_island
  have hsame : Except.ok ids = Except.ok [0] := hids.symm.trans findEntries_island
  cases hsame
  obtain ⟨⟨g, hsource, hlead⟩, hgroups⟩ := (hall 1 hbody).2 not_leads_island
  obtain ⟨h, hne, hmutual⟩ := hgroups g hsource hlead
  exact ⟨g, h, hne, hmutual, hsource, hlead⟩

/-- Two functions that call each other and that no other function calls are left out as soon as
    another function is uncalled. -/
theorem entries_overlook_island : (Loaded.load islandFiles {} ["p"]).1 = .ok island ∧
    (findEntries island.program island.calls []).1 = .ok [0] ∧
    island.program.hasBody 1 = true ∧ ¬∃ e ∈ [(0 : Int)], island.calls.Leads e 1 :=
  ⟨load_island, findEntries_island, by decide +kernel, not_leads_island⟩

end DropFlow
