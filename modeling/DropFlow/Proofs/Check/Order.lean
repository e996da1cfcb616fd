/-
  DropFlow/Proofs/Check/Order.lean
  ================================
  The order in which functions are added does not matter to a check.

  Two orders lead to programs that differ in the identifiers of their functions.  The
  entries of the one are the translated entries of the other, their analyses go in
  lockstep, and the suspicions of the translated graphs are the translated suspicions.
  A finding has no identifier any more: the entries have the same findings on both sides,
  if in another order, and the order of the findings does not matter to what is left of
  them.
-/
import DropFlow.Proofs.Check.Report
import DropFlow.Proofs.Entries
import DropFlow.Proofs.Flow.Lockstep

namespace DropFlow

open DropFlow.Flow

variable {ρ : Equiv.Perm Int} {p q : Program} {config loading : Config}

/-! ### 1. Findings -/

/-- A suspicion under translated identifiers. -/
def Suspicion.rename (ρ : Equiv.Perm Int) (u : Suspicion) : Suspicion :=
  { u with firstSite := u.firstSite.rename ρ, secondSite := u.secondSite.rename ρ }

@[simp] theorem Suspicion.isApart_rename (ρ : Equiv.Perm Int) (u : Suspicion) :
    (u.rename ρ).isApart = u.isApart := by
  simp [isApart, rename]

theorem Suspicion.finding_rename (ρ : Equiv.Perm Int) (g : Graph) (u : Suspicion) :
    (u.rename ρ).finding (g.rename ρ) = u.finding g := by
  simp [finding, rename]

theorem filter_isApart_rename (ρ : Equiv.Perm Int) (list : List Suspicion) :
    (list.map (·.rename ρ)).filter Suspicion.isApart =
      (list.filter Suspicion.isApart).map (·.rename ρ) := by
  rw [List.filter_map]
  simp only [Function.comp_def, Suspicion.isApart_rename]

theorem useSuspicions_rename (ρ : Equiv.Perm Int) (g : Graph) (cell : Int) (site : Site) :
    useSuspicions (g.rename ρ) cell (site.rename ρ) =
      (useSuspicions g cell site).map (·.rename ρ) := by
  unfold useSuspicions
  rw [← filter_isApart_rename]
  simp only [Graph.pointsTo_rename, Graph.dropsOf_rename, List.map_flatMap, List.map_map,
    Function.comp_def, Suspicion.rename]

theorem edgeSuspicions_rename (ρ : Equiv.Perm Int) (g : Graph) (e : Edge) :
    edgeSuspicions (g.rename ρ) (e.rename ρ) = (edgeSuspicions g e).map (·.rename ρ) := by
  simp only [edgeSuspicions, Edge.rename, useSuspicions_rename, List.map_append]
  congr 1
  · split <;> rfl
  · split <;> rfl

theorem allUses_rename (ρ : Equiv.Perm Int) (g : Graph) :
    allUses (g.rename ρ) = (allUses g).map (·.rename ρ) := by
  have hderef : (g.rename ρ).derefEdges = g.derefEdges.map (·.rename ρ) := by
    simp only [Graph.derefEdges, Graph.edges_rename, Array.toList_map, List.filter_map]
    rfl
  simp only [allUses, hderef, List.flatMap_map, List.map_flatMap, edgeSuspicions_rename]

theorem dropPairs_rename (ρ : Equiv.Perm Int) (g : Graph) (first second : Int) :
    dropPairs (g.rename ρ) first second = (dropPairs g first second).map (·.rename ρ) := by
  simp only [dropPairs, Graph.dropsOf_rename, List.flatMap_map, List.map_flatMap,
    ← filter_isApart_rename]
  rfl

theorem allDrops_rename (ρ : Equiv.Perm Int) (g : Graph) :
    allDrops (g.rename ρ) = (allDrops g).map (·.rename ρ) := by
  have hpairs : ∀ first, dropPairs (g.rename ρ) first =
      fun second => (dropPairs g first second).map (·.rename ρ) :=
    fun first => funext (dropPairs_rename ρ g first)
  simp only [allDrops, Graph.multiDrop_rename, Graph.pointsTo_rename, List.map_flatMap, hpairs]

/-- The findings of a graph and of the translated one are the same. -/
theorem Program.Renamed.confirms_iff (h : p.Renamed ρ q) {g : Graph} {suspicions : List Suspicion}
    {f : Finding} : Confirms q config (g.rename ρ) (suspicions.map (·.rename ρ)) f ↔
      Confirms p config g suspicions f := by
  unfold Confirms
  constructor
  · rintro ⟨_, hmem, hreach, hf⟩
    obtain ⟨u, hu, rfl⟩ := List.mem_map.mp hmem
    rw [Suspicion.finding_rename] at hf
    exact ⟨u, hu, h.reaches_iff.mp hreach, hf⟩
  · rintro ⟨u, hu, hreach, hf⟩
    refine ⟨u.rename ρ, List.mem_map_of_mem hu, h.reaches_iff.mpr hreach, ?_⟩
    rw [Suspicion.finding_rename]
    exact hf

/-! ### 2. The check -/

/-- What is left of the findings of entries does not depend on the identifiers. -/
theorem checkEntries_rename (h : p.Renamed ρ q) (hp : p.Settled) (hq : q.Settled)
    {entries entries' : List Int} (hentries : ∀ id, ρ id ∈ entries' ↔ id ∈ entries) {m : Merger}
    (hm : (checkEntries config p {} entries).1 = .ok m) :
    ∃ m', (checkEntries config q {} entries').1 = .ok m' ∧
      (∀ f, f ∈ m'.findings.uses ↔ f ∈ m.findings.uses) ∧
      ∀ f, f ∈ m'.findings.drops ↔ f ∈ m.findings.drops := by
  obtain ⟨hsucceeded, ⟨uses, huses, hmemUses⟩, drops, hdrops, hmemDrops⟩ :=
    gathers_of_checkEntries h.coherent hp entries hm
  have hlockstep : ∀ id ∈ entries, (analyze q config (ρ id)).2 = none ∧
      (analyze q config (ρ id)).1.graph = (analyze p config id).1.graph.rename ρ :=
    fun id hid => analyze_rename h (hsucceeded id hid)
  have hall : ∀ entry ∈ entries', (analyze q config entry).2 = none := by
    intro entry hentry
    rw [← ρ.apply_symm_apply entry] at hentry ⊢
    exact (hlockstep _ ((hentries _).mp hentry)).1
  obtain ⟨m', hm'⟩ := exists_checkEntries h.coherent' hq entries' {} hall
  obtain ⟨_, ⟨uses', huses', hmemUses'⟩, drops', hdrops', hmemDrops'⟩ :=
    gathers_of_checkEntries h.coherent' hq entries' hm'
  -- the entries correspond, and each has the same findings on both sides
  have hsame : ∀ {C C' : Int → Finding → Prop} {fs fs' : List Finding},
      (∀ f, f ∈ fs ↔ ∃ entry ∈ entries, C entry f) →
      (∀ f, f ∈ fs' ↔ ∃ entry ∈ entries', C' entry f) →
      (∀ id ∈ entries, ∀ f, C' (ρ id) f ↔ C id f) → ∀ f, f ∈ fs' ↔ f ∈ fs := by
    intro C C' fs fs' hfs hfs' hC f
    rw [hfs, hfs']
    constructor
    · rintro ⟨entry, hentry, hf⟩
      rw [← ρ.apply_symm_apply entry] at hentry hf
      have hid := (hentries _).mp hentry
      exact ⟨_, hid, (hC _ hid f).mp hf⟩
    · rintro ⟨id, hid, hf⟩
      exact ⟨ρ id, (hentries id).mpr hid, (hC id hid f).mpr hf⟩
  have hsameUses : ∀ f, f ∈ uses' ↔ f ∈ uses := by
    refine hsame hmemUses hmemUses' fun id hid f => ?_
    rw [(hlockstep id hid).2, allUses_rename]
    exact h.confirms_iff
  have hsameDrops : ∀ f, f ∈ drops' ↔ f ∈ drops := by
    refine hsame hmemDrops hmemDrops' fun id hid f => ?_
    rw [(hlockstep id hid).2, allDrops_rename]
    exact h.confirms_iff
  refine ⟨m', hm', fun f => ?_, fun f => ?_⟩
  · unfold Merger.findings
    rw [huses, huses']
    exact Groups.mem_sorted_foldl_add_congr hsameUses f
  · unfold Merger.findings
    rw [hdrops, hdrops']
    exact Groups.mem_sorted_foldl_add_congr hsameDrops f

/-- When the check of one program succeeds, the check of the other succeeds with the same
    findings. -/
theorem check_rename {l l' : Loaded} (h : l.program.Renamed ρ l'.program)
    (hl : Loaded.Prepared p loading l) (hl' : Loaded.Prepared q loading l')
    (hentries : config.options.entries ≠ [] ∨ ∃ id, l.program.Uncalled loading id)
    {r : Findings} (hr : (l.check config).1 = .ok r) :
    ∃ r', (l'.check config).1 = .ok r' ∧ (∀ f, f ∈ r'.uses ↔ f ∈ r.uses) ∧
      ∀ f, f ∈ r'.drops ↔ f ∈ r.drops := by
  obtain ⟨entries, m, hfound, hm, rfl⟩ := check_eq_ok_iff.mp hr
  have hfinds := finds_findEntries h.coherent hl.calls hentries
  have hfinds' := finds_findEntries h.coherent' hl'.calls
    (hentries.imp_right fun ⟨id, hid⟩ => ⟨ρ id, h.uncalled_iff.mpr hid⟩)
  obtain ⟨id, hid⟩ := hfinds.succeeds.mp ⟨entries, hfound⟩
  obtain ⟨entries', hfound'⟩ := hfinds'.succeeds.mpr ⟨ρ id, h.starts_iff.mpr hid⟩
  have hcorrespond : ∀ id, ρ id ∈ entries' ↔ id ∈ entries := by
    intro id
    rw [hfinds.mem entries hfound, hfinds'.mem entries' hfound', h.starts_iff]
  obtain ⟨m', hm', huses, hdrops⟩ := checkEntries_rename h hl.settled hl'.settled hcorrespond hm
  refine ⟨_, check_eq_ok_iff.mpr ⟨entries', m', hfound', hm', rfl⟩, fun f => ?_, fun f => ?_⟩
  · simp only [Findings.filter, List.mem_filter, huses, h.suppressed]
  · simp only [Findings.filter, List.mem_filter, hdrops, h.suppressed]

/-- **The order does not matter.**  Of two programs that are assembled from the same functions and
    the same suppressions, in whatever order, the check of the one ends with an error if and only
    if the check of the other does, and otherwise both have the same findings; for every
    configuration without a directory for reports that names entries, or names none when some
    function is not called by any other. -/
theorem run_order_irrelevant {fs fs' : List Source.Function} {lines lines' : List Suppression}
    (hp : Program.Assembled fs lines p) (hq : Program.Assembled fs' lines' q) (hfs : fs.Perm fs')
    (hlines : lines.Perm lines') {paths paths' : List String} {l l' : Loaded}
    (hl : (p.prepare loading paths).1 = .ok l) (hl' : (q.prepare loading paths').1 = .ok l')
    (config : Config) (hdirectory : config.options.reportsDir = "")
    (hentries : config.options.entries ≠ [] ∨ ∃ id, l.program.Uncalled loading id)
    (files files' : Files) (number number' : Nat) :
    ((l.run config files number).error = none ↔ (l'.run config files' number').error = none) ∧
      ((l.run config files number).error = none →
        ∃ r r', (l.run config files number).findings = some r ∧
          (l'.run config files' number').findings = some r' ∧
          (∀ f, f ∈ r.uses ↔ f ∈ r'.uses) ∧ ∀ f, f ∈ r.drops ↔ f ∈ r'.drops) := by
  have hprepared := Loaded.prepared_of_prepare hl
  have hprepared' := Loaded.prepared_of_prepare hl'
  obtain ⟨ρ, hassembled⟩ := Program.renamed_of_assembled hp hq hfs hlines
  have h : l.program.Renamed ρ l'.program := hassembled.later hprepared.later hprepared'.later
  have hentries' : config.options.entries ≠ [] ∨ ∃ id, l'.program.Uncalled loading id :=
    hentries.imp_right fun ⟨id, hid⟩ => ⟨ρ id, h.uncalled_iff.mpr hid⟩
  rw [error_run_of_reportsDir hdirectory, error_run_of_reportsDir hdirectory]
  refine ⟨⟨?_, ?_⟩, ?_⟩
  · rintro ⟨r, hr⟩
    obtain ⟨r', hr', _⟩ := check_rename h hprepared hprepared' hentries hr
    exact ⟨r', hr'⟩
  · rintro ⟨r', hr'⟩
    obtain ⟨r, hr, _⟩ := check_rename h.symm hprepared' hprepared hentries' hr'
    exact ⟨r, hr⟩
  · rintro ⟨r, hr⟩
    obtain ⟨r', hr', huses, hdrops⟩ := check_rename h hprepared hprepared' hentries hr
    refine ⟨r, r', ?_, ?_, fun f => (huses f).symm, fun f => (hdrops f).symm⟩
    · rw [findings_run, hr]
      rfl
    · rw [findings_run, hr']
      rfl

/-- A file with the careless function. -/
def carelessFile : Source.File where
  functions := [carelessFunction]

/-- A file that declares another function and silences a line. -/
def quietFile : Source.File where
  functions := [{ name := "g" }]
  suppressions := [{ file := "a", line := 7 }]

/-- The program of files that are added in order. -/
def addedInOrder (files : List Source.File) : Program :=
  files.foldl (fun p f => (p.addFile f).1) {}

/-- The program of both files, prepared, the careless function first. -/
def carelessFirst : Loaded where
  program :=
    { entries := #[⟨carelessFunction, (lowerFunction 0 carelessFunction).toOption⟩,
        { source := { name := "g" } }]
      suppressions := [{ file := "a", line := 7 }] }
  calls := CallGraph.register {} 0

/-- The program of both files, prepared, the careless function last. -/
def carelessLast : Loaded where
  program :=
    { entries := #[{ source := { name := "g" } },
        ⟨carelessFunction, (lowerFunction 1 carelessFunction).toOption⟩]
      suppressions := [{ file := "a", line := 7 }] }
  calls := CallGraph.register {} 1

theorem assembled_carelessFirst : Program.Assembled [carelessFunction, { name := "g" }]
    [{ file := "a", line := 7 }] (addedInOrder [carelessFile, quietFile]) := by
  have hfirst : Program.addFile {} carelessFile = (addedInOrder [carelessFile], none) := by
    simp [addedInOrder, Program.addFile, Program.addFunctions, Program.add, Program.idOf?,
      carelessFile, carelessFunction]
  have hlast : (addedInOrder [carelessFile]).addFile quietFile =
      (addedInOrder [carelessFile, quietFile], none) := by
    simp [addedInOrder, Program.addFile, Program.addFunctions, Program.add, Program.idOf?,
      carelessFile, carelessFunction, quietFile]
  exact (Program.Assembled.empty.addFile hfirst).addFile hlast

theorem assembled_carelessLast : Program.Assembled [{ name := "g" }, carelessFunction]
    [{ file := "a", line := 7 }] (addedInOrder [quietFile, carelessFile]) := by
  have hfirst : Program.addFile {} quietFile = (addedInOrder [quietFile], none) := by
    simp [addedInOrder, Program.addFile, Program.addFunctions, Program.add, Program.idOf?,
      quietFile]
  have hlast : (addedInOrder [quietFile]).addFile carelessFile =
      (addedInOrder [quietFile, carelessFile], none) := by
    simp [addedInOrder, Program.addFile, Program.addFunctions, Program.add, Program.idOf?,
      carelessFile, carelessFunction, quietFile]
  exact (Program.Assembled.empty.addFile hfirst).addFile hlast

theorem prepare_carelessFirst :
    ((addedInOrder [carelessFile, quietFile]).prepare {} []).1 = .ok carelessFirst :=
  eq_ok_of_toOption (by decide +kernel)

theorem prepare_carelessLast :
    ((addedInOrder [quietFile, carelessFile]).prepare {} []).1 = .ok carelessLast :=
  eq_ok_of_toOption (by decide +kernel)

theorem coherent_carelessFirst : carelessFirst.program.Coherent :=
  (Loaded.prepared_of_prepare prepare_carelessFirst).later.coherent
    assembled_carelessFirst.built.coherent

theorem run_carelessFirst : (carelessFirst.run {} {} 0).error = none := by
  have hentries : (findEntries carelessFirst.program carelessFirst.calls []).1 = .ok [0] :=
    eq_ok_of_toOption (by decide +kernel)
  refine error_of_run coherent_carelessFirst
    (Loaded.prepared_of_prepare prepare_carelessFirst).settled hentries ?_ rfl
  intro entry hentry
  rw [List.mem_singleton.mp hentry]
  decide +kernel

theorem uncalled_carelessFirst : carelessFirst.program.Uncalled {} 0 :=
  (mem_uncalled_iff coherent_carelessFirst
    (Loaded.prepared_of_prepare prepare_carelessFirst).calls 2 carelessFirst.program.name).mp
    (by decide +kernel)

/-- The files in two orders, with different identifiers. -/
theorem run_order_irrelevant_careless :
    carelessFirst.program.idOf? "f" = some 0 ∧ carelessLast.program.idOf? "f" = some 1 ∧
    (carelessLast.run {} {} 0).error = none ∧
    ∃ r r', (carelessFirst.run {} {} 0).findings = some r ∧
      (carelessLast.run {} {} 0).findings = some r' ∧ (∀ f, f ∈ r.uses ↔ f ∈ r'.uses) ∧
      ∀ f, f ∈ r.drops ↔ f ∈ r'.drops := by
  obtain ⟨hfails, hfindings⟩ := run_order_irrelevant assembled_carelessFirst assembled_carelessLast
    (List.Perm.swap _ _ _) (List.Perm.refl _) prepare_carelessFirst prepare_carelessLast {} rfl
    (.inr ⟨0, uncalled_carelessFirst⟩) {} {} 0 0
  exact ⟨by decide +kernel, by decide +kernel, hfails.mp run_carelessFirst,
    hfindings run_carelessFirst⟩

end DropFlow
