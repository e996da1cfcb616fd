/-
  DropFlow/Proofs/Check/Report.lean
  =================================
  The report of a check is exact.

  `UseAfterDrop` and `DropAfterDrop` say of a flow graph whose objects have been
  propagated which pairs of locations are to be reported, in terms of its edges, its
  sets of objects, its drop sites and the execution of the program.  The check of one
  entry has the findings of its graph (`checkEntry_spec`), which are findings of these
  pairs, and merging the entries and leaving out what is suppressed neither loses nor
  invents a pair.
-/
import DropFlow.Proofs.Finding.Detection
import DropFlow.Proofs.Finding.Merging
import DropFlow.Proofs.Flow.Links
import DropFlow.Proofs.Program.Loading

namespace DropFlow

open DropFlow.Flow

/-! ### 1. What is to be reported -/

/-- A use at one location may come after a drop at another one: an edge uses a cell that may point
    to an object, and its block can be executed after a drop of the object in another block. -/
def UseAfterDrop (p : Program) (config : Config) (g : Graph) (dropped used : Location) : Prop :=
  ∃ e ∈ g.edges.toList, e.site.location = used ∧ ∃ n, e.Uses n ∧ ∃ o ∈ g.pointsTo n,
    ∃ d ∈ g.dropsOf o, d.location = dropped ∧ d.blockRef ≠ e.site.blockRef ∧
      p.Reaches config d.blockRef e.site.blockRef

/-- A drop at one location may come after a drop at another one: of two objects one may hold the
    other, and their drops are in two blocks the second of which can be executed after the first. -/
def DropAfterDrop (p : Program) (config : Config) (g : Graph) (first second : Location) : Prop :=
  ∃ o₁ o₂, o₁ ≠ o₂ ∧ (o₂ ∈ g.pointsTo o₁ ∨ o₁ ∈ g.pointsTo o₂) ∧
    ∃ d₁ ∈ g.dropsOf o₁, d₁.location = first ∧ ∃ d₂ ∈ g.dropsOf o₂, d₂.location = second ∧
      d₁.blockRef ≠ d₂.blockRef ∧ p.Reaches config d₁.blockRef d₂.blockRef

/-- A finding for one of some suspicions, whose second block can be executed after the first. -/
def Confirms (p : Program) (config : Config) (g : Graph) (suspicions : List Suspicion)
    (f : Finding) : Prop :=
  ∃ u ∈ suspicions, p.Reaches config u.firstSite.blockRef u.secondSite.blockRef ∧ u.finding g = f

/-! ### 2. One entry -/

section Entry

variable {p : Program} {config : Config} {entry : Int} {s : State} {g : Graph}

theorem exists_confirms_allUses_iff {pair : Location × Location} :
    (∃ f, Confirms p config g (allUses g) f ∧ f.locations = pair) ↔
      UseAfterDrop p config g pair.1 pair.2 := by
  constructor
  · rintro ⟨_, ⟨u, hu, hreach, rfl⟩, rfl⟩
    obtain ⟨⟨e, he, hsite, huse⟩, hobject, hdrop, hapart⟩ := mem_allUses.mp hu
    rw [Suspicion.isApart_iff, ← hsite] at hapart
    rw [← hsite] at hreach
    exact ⟨e, he, congrArg Site.location hsite, u.second, huse, u.first, hobject, u.firstSite,
      hdrop, rfl, hapart, hreach⟩
  · rintro ⟨e, he, hused, n, huse, o, ho, d, hd, hdropped, hapart, hreach⟩
    refine ⟨_, ⟨⟨o, d, n, e.site⟩, mem_allUses.mpr ?_, hreach, rfl⟩, Prod.ext hdropped hused⟩
    exact ⟨⟨e, he, rfl, huse⟩, ho, hd, Suspicion.isApart_iff.mpr hapart⟩

theorem exists_confirms_allDrops_iff {limit : Nat} (hclosed : g.Closed limit)
    (hmarks : g.MarksExact) {pair : Location × Location} :
    (∃ f, Confirms p config g (allDrops g) f ∧ f.locations = pair) ↔
      DropAfterDrop p config g pair.1 pair.2 := by
  constructor
  · rintro ⟨_, ⟨u, hu, hreach, rfl⟩, rfl⟩
    obtain ⟨hne, hheld, hfirst, hsecond, hapart⟩ := (mem_allDrops hclosed hmarks).mp hu
    rw [Suspicion.isApart_iff] at hapart
    exact ⟨u.first, u.second, hne, hheld, u.firstSite, hfirst, rfl, u.secondSite, hsecond, rfl,
      hapart, hreach⟩
  · rintro ⟨o₁, o₂, hne, hheld, d₁, hd₁, hfirst, d₂, hd₂, hsecond, hapart, hreach⟩
    refine ⟨_, ⟨⟨o₁, d₁, o₂, d₂⟩, (mem_allDrops hclosed hmarks).mpr ?_, hreach, rfl⟩,
      Prod.ext hfirst hsecond⟩
    exact ⟨hne, hheld, hd₁, hd₂, Suspicion.isApart_iff.mpr hapart⟩

/-- The findings for the suspicions that the recorded calls confirm, if each of them starts at a
    drop. -/
theorem mem_map_finding_iff (h : Analyzed p config entry s) {suspicions confirmed : List Suspicion}
    (hdrop : ∀ u ∈ suspicions, u.firstSite ∈ s.graph.dropsOf u.first)
    (hmem : ∀ u, u ∈ confirmed ↔ u ∈ suspicions ∧
      s.calls.Reaches p u.firstSite.blockRef u.secondSite.blockRef) {f : Finding} :
    f ∈ confirmed.map (·.finding s.graph) ↔ Confirms p config s.graph suspicions f := by
  have hreach : ∀ u ∈ suspicions, s.calls.Reaches p u.firstSite.blockRef u.secondSite.blockRef ↔
      p.Reaches config u.firstSite.blockRef u.secondSite.blockRef :=
    fun u hu => h.reaches_iff (h.exists_reached_of_mem_dropsOf (hdrop u hu))
  rw [List.mem_map]
  constructor
  · rintro ⟨u, hu, rfl⟩
    obtain ⟨hin, hreaches⟩ := (hmem u).mp hu
    exact ⟨u, hin, (hreach u hin).mp hreaches, rfl⟩
  · rintro ⟨u, hin, hreaches, rfl⟩
    exact ⟨u, (hmem u).mpr ⟨hin, (hreach u hin).mpr hreaches⟩, rfl⟩

/-- What the check of an entry contributes: the graph of its analysis, and the findings of this
    graph. -/
structure Contributes (p : Program) (config : Config) (entry : Int) (r : EntryResult) : Prop where
  program : r.program = p
  succeeded : (analyze p config entry).2 = none
  uses : ∀ f, f ∈ r.detected.uses.map (·.finding r.graph) ↔
    Confirms p config (analyze p config entry).1.graph (allUses (analyze p config entry).1.graph) f
  drops : ∀ f, f ∈ r.detected.drops.map (·.finding r.graph) ↔
    Confirms p config (analyze p config entry).1.graph (allDrops (analyze p config entry).1.graph) f

/-- **The check of an entry** fails only if the analysis of the entry does, and otherwise has
    exactly the findings of its graph. -/
theorem checkEntry_spec (hp : p.Coherent) (hsettled : p.Settled)
    (h : (analyze p config entry).2 = none) :
    ∃ r, (checkEntry p config entry).1 = .ok r ∧ Contributes p config entry r := by
  have hanalyze : analyze p config entry = ((analyze p config entry).1, none) := Prod.ext rfl h
  have hanalyzed := analyzed_of_analyze hp hanalyze
  have hprogram := hsettled.eq_of_later hanalyzed.later
  obtain ⟨hknows, d, hd, huses, hdrops⟩ := detect_spec hp hanalyzed.bounded
    (Oracle.knows_make p (analyze p config entry).1.calls Traversals.exact_own)
    (analyze p config entry).1.graph
  refine ⟨⟨(detect (analyze p config entry).1.graph
    (Oracle.make p (analyze p config entry).1.calls)).1.program,
    (analyze p config entry).1.graph, d⟩, ?_, ?_⟩
  · unfold checkEntry analyzeEntry
    rw [hanalyze]
    dsimp only
    rw [hprogram]
    rcases hres : detect (analyze p config entry).1.graph
      (Oracle.make p (analyze p config entry).1.calls) with ⟨o, answer⟩
    rw [hres] at hd
    dsimp only at hd
    subst hd
    rfl
  · refine ⟨hsettled.eq_of_later hknows.later, h, fun f => ?_, fun f => ?_⟩
    · exact mem_map_finding_iff hanalyzed (fun u hu => (mem_allUses.mp hu).2.2.1) huses
    · refine mem_map_finding_iff hanalyzed (fun u hu => ?_) hdrops
      exact ((mem_allDrops hanalyzed.closed hanalyzed.marksExact).mp hu).2.2.1

theorem analyze_of_checkEntry {r : EntryResult} (h : (checkEntry p config entry).1 = .ok r) :
    (analyze p config entry).2 = none := by
  unfold checkEntry analyzeEntry at h
  rcases hres : analyze p config entry with ⟨s, failure⟩
  rw [hres] at h
  cases failure with
  | none => rfl
  | some e => exact nomatch h

end Entry

/-! ### 3. All entries -/

/-- What a merger has after the findings of entries were added to another one. -/
structure Gathers (p : Program) (config : Config) (entries : List Int) (m m' : Merger) : Prop where
  succeeded : ∀ entry ∈ entries, (analyze p config entry).2 = none
  uses : ∃ fs : List Finding, m'.uses = fs.foldl Groups.add m.uses ∧
    ∀ f, f ∈ fs ↔ ∃ entry ∈ entries, Confirms p config (analyze p config entry).1.graph
      (allUses (analyze p config entry).1.graph) f
  drops : ∃ fs : List Finding, m'.drops = fs.foldl Groups.add m.drops ∧
    ∀ f, f ∈ fs ↔ ∃ entry ∈ entries, Confirms p config (analyze p config entry).1.graph
      (allDrops (analyze p config entry).1.graph) f

/-- Merging the findings of entries gathers the findings of all of them. -/
theorem gathers_of_checkEntries {p : Program} (hp : p.Coherent) (hsettled : p.Settled)
    {config : Config} (entries : List Int) : ∀ {m m' : Merger},
      (checkEntries config p m entries).1 = .ok m' → Gathers p config entries m m' := by
  induction entries with
  | nil =>
    intro m m' h
    cases h
    refine ⟨fun entry hentry => (nomatch hentry), ⟨[], rfl, ?_⟩, [], rfl, ?_⟩
    · simp
    · simp
  | cons entry rest ih =>
    intro m m' h
    rw [checkEntries] at h
    split at h
    · exact nomatch h
    · rename_i r notices hcheck
      have hfirst : (checkEntry p config entry).1 = .ok r := congrArg Prod.fst hcheck
      obtain ⟨r', hr', hcontributes⟩ :=
        checkEntry_spec hp hsettled (analyze_of_checkEntry hfirst)
      rw [hfirst] at hr'
      cases hr'
      -- the program is settled, so that the next entry meets the same one
      dsimp only at h
      rw [hcontributes.program] at h
      obtain ⟨hsucceeded, ⟨uses, huses, hmemUses⟩, drops, hdrops, hmemDrops⟩ := ih h
      have hsame : m.addDetected r.graph r.detected =
          ⟨(r.detected.uses.map (·.finding r.graph)).foldl Groups.add m.uses,
            (r.detected.drops.map (·.finding r.graph)).foldl Groups.add m.drops⟩ :=
        Merger.addAll_eq m _ _
      refine ⟨?_, ⟨r.detected.uses.map (·.finding r.graph) ++ uses, ?_, fun f => ?_⟩,
        r.detected.drops.map (·.finding r.graph) ++ drops, ?_, fun f => ?_⟩
      · intro e he
        rcases List.mem_cons.mp he with rfl | he
        · exact hcontributes.succeeded
        · exact hsucceeded e he
      · rw [huses, hsame, List.foldl_append]
      · rw [List.mem_append, hcontributes.uses, hmemUses]
        simp only [List.mem_cons, exists_eq_or_imp]
      · rw [hdrops, hsame, List.foldl_append]
      · rw [List.mem_append, hcontributes.drops, hmemDrops]
        simp only [List.mem_cons, exists_eq_or_imp]

/-- The pairs that a merger has after the findings of entries were added to another one. -/
structure Collects (p : Program) (config : Config) (entries : List Int) (m m' : Merger) :
    Prop where
  fair : m'.Fair
  succeeded : ∀ entry ∈ entries, (analyze p config entry).2 = none
  uses : ∀ pair, pair ∈ m'.uses.pairs ↔ pair ∈ m.uses.pairs ∨ ∃ entry ∈ entries,
    UseAfterDrop p config (analyze p config entry).1.graph pair.1 pair.2
  drops : ∀ pair, pair ∈ m'.drops.pairs ↔ pair ∈ m.drops.pairs ∨ ∃ entry ∈ entries,
    DropAfterDrop p config (analyze p config entry).1.graph pair.1 pair.2

/-- The pairs of the findings of entries are the pairs of the findings of each. -/
theorem exists_locations_iff {fs : List Finding} {entries : List Int} {C : Int → Finding → Prop}
    (h : ∀ f, f ∈ fs ↔ ∃ entry ∈ entries, C entry f) {pair : Location × Location} :
    (∃ f ∈ fs, f.locations = pair) ↔ ∃ entry ∈ entries, ∃ f, C entry f ∧ f.locations = pair := by
  simp only [h]
  constructor
  · rintro ⟨f, ⟨entry, hentry, hf⟩, hpair⟩
    exact ⟨entry, hentry, f, hf, hpair⟩
  · rintro ⟨entry, hentry, f, hf, hpair⟩
    exact ⟨f, ⟨entry, hentry, hf⟩, hpair⟩

/-- Merging the findings of entries collects the pairs of all of them. -/
theorem collects_of_checkEntries {p : Program} (hp : p.Coherent) (hsettled : p.Settled)
    {config : Config} (entries : List Int) {m m' : Merger} (hm : m.Fair)
    (h : (checkEntries config p m entries).1 = .ok m') : Collects p config entries m m' := by
  obtain ⟨hsucceeded, ⟨uses, huses, hmemUses⟩, drops, hdrops, hmemDrops⟩ :=
    gathers_of_checkEntries hp hsettled entries h
  refine ⟨⟨huses ▸ hm.uses.foldl_add uses, hdrops ▸ hm.drops.foldl_add drops⟩, hsucceeded,
    fun pair => ?_, fun pair => ?_⟩
  · rw [huses, Groups.mem_pairs_foldl_add, exists_locations_iff hmemUses]
    simp only [exists_confirms_allUses_iff]
  · rw [hdrops, Groups.mem_pairs_foldl_add, exists_locations_iff hmemDrops]
    refine or_congr_right (exists_congr fun entry => and_congr_right fun hentry => ?_)
    have hanalyzed := analyzed_of_analyze hp (Prod.ext rfl (hsucceeded entry hentry))
    exact exists_confirms_allDrops_iff hanalyzed.closed hanalyzed.marksExact

/-- When every entry can be analyzed, the findings of all of them are merged. -/
theorem exists_checkEntries {p : Program} (hp : p.Coherent) (hsettled : p.Settled)
    {config : Config} (entries : List Int) : ∀ (m : Merger),
      (∀ entry ∈ entries, (analyze p config entry).2 = none) →
      ∃ m', (checkEntries config p m entries).1 = .ok m' := by
  induction entries with
  | nil => exact fun m _ => ⟨m, rfl⟩
  | cons entry rest ih =>
    intro m h
    obtain ⟨r, hr, hcontributes⟩ := checkEntry_spec hp hsettled (h entry List.mem_cons_self)
    obtain ⟨m', hm'⟩ := ih (m.addDetected r.graph r.detected)
      fun e he => h e (List.mem_cons_of_mem _ he)
    refine ⟨m', ?_⟩
    rw [checkEntries]
    split
    · rename_i e notices hcheck
      rw [hcheck] at hr
      exact nomatch hr
    · rename_i r' notices hcheck
      rw [hcheck] at hr
      cases hr
      dsimp only
      rw [hcontributes.program]
      exact hm'

/-! ### 4. The report -/

/-- The result of a run does not depend on whether its report can be written. -/
theorem findings_run (l : Loaded) (config : Config) (files : Files) (number : Nat) :
    (l.run config files number).findings = (l.check config).1.toOption := by
  unfold Loaded.run
  split
  · rename_i e notices herror
    rw [herror]
    rfl
  · rename_i r notices hr
    rw [hr]
    split
    · rfl
    · split <;> rfl

/-- The result of a check: the merged findings of all entries that are not suppressed. -/
theorem check_eq_ok_iff {l : Loaded} {config : Config} {r : Findings} :
    (l.check config).1 = .ok r ↔ ∃ entries m,
      (findEntries l.program l.calls config.options.entries).1 = .ok entries ∧
      (checkEntries config l.program {} entries).1 = .ok m ∧
      r = m.findings.filter l.program.isSuppressed := by
  unfold Loaded.check
  rcases findEntries l.program l.calls config.options.entries with ⟨found, notices⟩
  cases found with
  | error e =>
    constructor
    · intro h
      exact nomatch h
    · rintro ⟨_, _, h, _⟩
      exact nomatch h
  | ok entries =>
    dsimp only
    rcases hchecked : checkEntries config l.program {} entries with ⟨merged, more⟩
    cases merged with
    | error e =>
      constructor
      · intro h
        exact nomatch h
      · rintro ⟨_, m, h, hm, _⟩
        cases h
        rw [hchecked] at hm
        exact nomatch hm
    | ok m =>
      constructor
      · intro h
        cases h
        exact ⟨entries, m, rfl, by rw [hchecked], rfl⟩
      · rintro ⟨_, m', h, hm, rfl⟩
        cases h
        rw [hchecked] at hm
        cases hm
        rfl

theorem error_run_of_reportsDir {config : Config} (hdirectory : config.options.reportsDir = "")
    (l : Loaded) (files : Files) (number : Nat) :
    (l.run config files number).error = none ↔ ∃ r, (l.check config).1 = .ok r := by
  unfold Loaded.run
  split
  · rename_i e notices herror
    rw [herror]
    constructor
    · intro h
      exact nomatch h
    · rintro ⟨r, h⟩
      exact nomatch h
  · rename_i r notices hr
    rw [hr, if_pos hdirectory]
    exact ⟨fun _ => ⟨r, rfl⟩, fun _ => rfl⟩

/-- A check without an error has a result. -/
theorem findings_of_run {l : Loaded} {config : Config} {files : Files} {number : Nat}
    (h : (l.run config files number).error = none) :
    ∃ entries m, (findEntries l.program l.calls config.options.entries).1 = .ok entries ∧
      (checkEntries config l.program {} entries).1 = .ok m ∧
      (l.run config files number).findings = some (m.findings.filter l.program.isSuppressed) := by
  have hcheck : ∃ r, (l.check config).1 = .ok r := by
    unfold Loaded.run at h
    split at h
    · exact nomatch h
    · rename_i r notices hr
      exact ⟨r, congrArg Prod.fst hr⟩
  obtain ⟨r, hr⟩ := hcheck
  obtain ⟨entries, m, hentries, hm, rfl⟩ := check_eq_ok_iff.mp hr
  exact ⟨entries, m, hentries, hm, by rw [findings_run, hr]; rfl⟩

/-- A check without a report file ends without an error when every entry can be analyzed. -/
theorem error_of_run {l : Loaded} (hp : l.program.Coherent) (hsettled : l.program.Settled)
    {config : Config} {files : Files} {number : Nat} {entries : List Int}
    (hentries : (findEntries l.program l.calls config.options.entries).1 = .ok entries)
    (h : ∀ entry ∈ entries, (analyze l.program config entry).2 = none)
    (hdirectory : config.options.reportsDir = "") :
    (l.run config files number).error = none := by
  obtain ⟨m, hm⟩ := exists_checkEntries hp hsettled entries {} h
  exact (error_run_of_reportsDir hdirectory l files number).mpr
    ⟨_, check_eq_ok_iff.mpr ⟨entries, m, hentries, hm, rfl⟩⟩

/-- **The report of a check is exact.**  For every program loaded with any library and every
    configuration whose check ends without an error, a pair of locations is reported as a use after
    a drop, or as a drop after a drop, if and only if neither is suppressed and the propagated graph
    of some entry has such a pair. -/
theorem run_reports_iff {source files : Files} {loading config : Config} {paths : List String}
    {yaml : Yaml.Library} {l : Loaded} {number : Nat}
    (hload : (Loaded.load source loading paths yaml).1 = .ok l)
    (hrun : (l.run config files number).error = none) :
    ∃ entries r, (findEntries l.program l.calls config.options.entries).1 = .ok entries ∧
      (l.run config files number).findings = some r ∧
      (∀ entry ∈ entries, (analyze l.program config entry).2 = none) ∧
      (∀ dropped used, (∃ f ∈ r.uses, f.first = dropped ∧ f.second = used) ↔
        l.program.isSuppressed dropped = false ∧ l.program.isSuppressed used = false ∧
          ∃ entry ∈ entries, UseAfterDrop l.program config
            (analyze l.program config entry).1.graph dropped used) ∧
      ∀ first second, (∃ f ∈ r.drops, f.first = first ∧ f.second = second) ↔
        l.program.isSuppressed first = false ∧ l.program.isSuppressed second = false ∧
          ∃ entry ∈ entries, DropAfterDrop l.program config
            (analyze l.program config entry).1.graph first second := by
  obtain ⟨hbuilt, hsettled⟩ := Loaded.settled_of_load hload
  obtain ⟨entries, m, hentries, hm, hfindings⟩ := findings_of_run hrun
  have hcollects := collects_of_checkEntries hbuilt.coherent hsettled entries Merger.fair_empty hm
  refine ⟨entries, _, hentries, hfindings, hcollects.succeeded, fun dropped used => ?_,
    fun first second => ?_⟩
  · have hpairs := hcollects.uses (dropped, used)
    rw [or_iff_right (fun hno => nomatch hno)] at hpairs
    rw [← hpairs]
    exact hcollects.fair.uses.exists_mem_filter_iff _ dropped used
  · have hpairs := hcollects.drops (first, second)
    rw [or_iff_right (fun hno => nomatch hno)] at hpairs
    rw [← hpairs]
    exact hcollects.fair.drops.exists_mem_filter_iff _ first second

/-- A file with a function that drops an object and then uses it in the next block. -/
def carelessFiles : Files where
  entries := [(["p"], .file ("functions: [\x7bname: f,blocks: [" ++
    "\x7bid: 0,successors: [1],drop: \x7bplace: &p \x7blocal: 1,projection: [deref]\x7d\x7d\x7d," ++
    "\x7bid: 1,statements: [\x7brvalue: \x7bkind: copy,place: *p\x7d," ++
    "loc: \x7bline: 1\x7d\x7d]\x7d]\x7d]"))]

/-- The function of the file. -/
def carelessFunction : Source.Function where
  name := "f"
  blocks := [
    { id := 0, successors := [1], drop := some { place := ⟨1, [.deref]⟩ } },
    { id := 1, statements := [{
        rvalue := { kind := "copy", place := some ⟨1, [.deref]⟩ }, location := { line := 1 } }] }]

/-- The program that the file loads as. -/
def careless : Loaded where
  program := { entries := #[⟨carelessFunction, (lowerFunction 0 carelessFunction).toOption⟩] }
  calls := CallGraph.register {} 0

set_option maxRecDepth 100000 in
theorem load_careless : (Loaded.load carelessFiles {} ["p"]).1 = .ok careless :=
  eq_ok_of_toOption (by decide +kernel)

theorem findEntries_careless : (findEntries careless.program careless.calls []).1 = .ok [0] :=
  eq_ok_of_toOption (by decide +kernel)

theorem analyze_careless : (analyze careless.program {} 0).2 = none := by decide +kernel

theorem run_careless : (careless.run {} {} 0).error = none := by
  obtain ⟨hbuilt, hsettled⟩ := Loaded.settled_of_load load_careless
  refine error_of_run hbuilt.coherent hsettled findEntries_careless ?_ rfl
  intro entry hentry
  rw [List.mem_singleton.mp hentry]
  exact analyze_careless

theorem useAfterDrop_careless : UseAfterDrop careless.program {}
    (analyze careless.program {} 0).1.graph {} { line := 1 } := by
  have hp := (Loaded.settled_of_load load_careless).1.coherent
  have hanalyze : analyze careless.program {} 0 = ((analyze careless.program {} 0).1, none) :=
    Prod.ext rfl analyze_careless
  have hevolves := evolves_of_analyze hanalyze
  have hedges : (analyze careless.program {} 0).1.graph.edges.toList =
      [⟨0, 1, ⟨0, 1, { line := 1 }⟩, true, false⟩] := by
    rw [hevolves.edges]
    decide +kernel
  have hdrops : (analyze careless.program {} 0).1.graph.dropsOf 0 = [⟨0, 0, {}⟩] := by
    rw [hevolves.dropsOf]
    decide +kernel
  refine ⟨_, hedges ▸ List.mem_cons_self, rfl, 0, Or.inl ⟨rfl, rfl⟩, 0, ?_, ⟨0, 0, {}⟩,
    hdrops ▸ List.mem_cons_self, rfl, by decide, ?_⟩
  · refine (analyzed_of_analyze hp hanalyze).closed.seeds 0 ?_
    rw [hdrops]
    exact List.cons_ne_nil _ _
  · have hsuccessor : (1 : Int) ∈ careless.program.successors 0 0 := by decide +kernel
    obtain ⟨body, hbody, b, hb, hid, hs⟩ := Program.mem_successors_iff.mp hsuccessor
    refine Relation.ReflTransGen.single ?_
    have hstep : Program.Step careless.program {} ⟨0, b.id⟩ ⟨0, 1⟩ := .next hbody hb hs
    rw [hid] at hstep
    exact hstep

theorem run_reports_iff_careless : (Loaded.load carelessFiles {} ["p"]).1 = .ok careless ∧
    (careless.run {} {} 0).error = none ∧
    ∃ r, (careless.run {} {} 0).findings = some r ∧
      ∃ f ∈ r.uses, f.first = {} ∧ f.second = { line := 1 } := by
  refine ⟨load_careless, run_careless, ?_⟩
  obtain ⟨entries, r, hentries, hr, _, huses, _⟩ := run_reports_iff load_careless run_careless
  have hsame : Except.ok entries = Except.ok [0] := hentries.symm.trans findEntries_careless
  cases hsame
  exact ⟨r, hr, (huses _ _).mpr ⟨rfl, rfl, 0, List.mem_cons_self, useAfterDrop_careless⟩⟩

end DropFlow
