/-
  DropFlow/Proofs/Check/Depth.lean
  ================================
  A greater depth limit loses nothing.

  The limit enters the propagation alone: the expansion, the resolution of calls and the
  entries are the same under every limit.  What the greater limit ends with is closed
  under the rules of the smaller one as well, and so it contains what the smaller one
  ends with.  The cells that the two runs create on demand may have different numbers;
  the objects are expanded cells, and have the same.
-/
import DropFlow.Proofs.Check.Report

namespace DropFlow

open DropFlow.Flow

/-! ### 1. What the limit does not enter -/

/-- A configuration with another depth limit. -/
def Config.withDepth (c : Config) (depth : Int) : Config :=
  { c with options := { c.options with maxDepth := depth } }

theorem Config.depthLimit_withDepth (c : Config) {depth : Int} (h : 0 < depth) :
    (c.withDepth depth).depthLimit = depth.toNat := by
  have hno : ¬ depth ≤ 0 := by omega
  simp [depthLimit, withDepth, hno]

theorem Config.depthLimit_withDepth_le (c : Config) {d d' : Int} (hd : 0 < d) (hle : d ≤ d') :
    (c.withDepth d).depthLimit ≤ (c.withDepth d').depthLimit := by
  rw [c.depthLimit_withDepth hd, c.depthLimit_withDepth (by omega)]
  omega

section SameUnderEveryLimit

variable (p : Program) (config : Config) (d : Int)

theorem Program.step_withDepth {x y : BlockRef} :
    p.Step (config.withDepth d) x y ↔ p.Step config x y := by
  constructor
  · intro h
    cases h with
    | next hbody hb ht => exact .next hbody hb ht
    | enter hbody hb ht hcallee => exact .enter hbody hb ht hcallee
  · intro h
    cases h with
    | next hbody hb ht => exact .next hbody hb ht
    | enter hbody hb ht hcallee => exact .enter hbody hb ht hcallee

theorem Program.reaches_withDepth {x y : BlockRef} :
    p.Reaches (config.withDepth d) x y ↔ p.Reaches config x y := by
  have hstep : p.Step (config.withDepth d) = p.Step config := by
    funext x y
    exact propext (step_withDepth p config d)
  unfold Program.Reaches
  rw [hstep]

theorem State.expand_withDepth (fuel : Nat) : ∀ s : State,
    s.expand (config.withDepth d) fuel = s.expand config fuel := by
  induction fuel with
  | zero => exact fun _ => rfl
  | succ fuel ih =>
    intro s
    have hone : ∀ (t : State) (a : Activation),
        t.expandOne (config.withDepth d) a = t.expandOne config a := fun _ _ => rfl
    rw [State.expand, State.expand]
    simp only [hone, ih]

theorem expandFrom_withDepth (entry : Int) :
    expandFrom p (config.withDepth d) entry = expandFrom p config entry :=
  State.expand_withDepth config d _ _

theorem analyze_withDepth (entry : Int) :
    (analyze p (config.withDepth d) entry).2 = none ↔ (analyze p config entry).2 = none := by
  rw [analyze_eq_none_iff, analyze_eq_none_iff, expandFrom_withDepth]

end SameUnderEveryLimit

/-! ### 2. One entry -/

/-- The cells of a graph, as what every cell may hold. -/
def Flow.Graph.asObjects (g : Graph) : Family where
  cells := fun _ => True
  holds := fun _ o => ∃ c, g.cell? o = some c

theorem Flow.Graph.closed_asObjects (g : Graph) (limit : Nat) : g.asObjects.Closed limit g where
  expanded := fun _ _ _ => trivial
  seeds := fun _ c hc _ => ⟨c, hc⟩
  flows := fun _ _ _ _ _ _ _ ho => ho
  parts := fun _ _ _ _ _ _ _ ho => ho
  sameParts := fun _ _ _ _ _ _ _ _ _ _ _ ho => ⟨trivial, ho⟩

section TwoLimits

variable {p : Program} {config : Config} {entry : Int} {d d' : Int}

/-- The analyses under two limits are two runs on the same expanded graph. -/
theorem runs_under_two_limits (hd : 0 < d) (hle : d ≤ d')
    (h : (analyze p (config.withDepth d) entry).2 = none) :
    ∃ w r r', w.Seeded ∧ r.limit ≤ r'.limit ∧
      Runs r w ⟨(analyze p (config.withDepth d) entry).1.graph, []⟩ ∧
      Runs r' w ⟨(analyze p (config.withDepth d') entry).1.graph, []⟩ := by
  have h' : (analyze p (config.withDepth d') entry).2 = none := by
    rw [analyze_withDepth] at h ⊢
    exact h
  obtain ⟨s₀, hexpand, hrun⟩ := runs_of_analyze h
  obtain ⟨s₀', hexpand', hrun'⟩ := runs_of_analyze h'
  have hseeded := seeded_expandFrom hexpand
  rw [expandFrom_withDepth] at hexpand hexpand'
  rw [hexpand] at hexpand'
  cases hexpand'
  exact ⟨_, _, _, hseeded, config.depthLimit_withDepth_le hd hle, hrun, hrun'⟩

variable {w : Stage} {r r' : Rules} {g g' : Graph}

/-- What a cell holds, and what is marked, was expanded. -/
theorem exists_expanded_of_runs (hw : w.Seeded) (hrun : Runs r w ⟨g, []⟩) {o : Int}
    (ho : (∃ i, o ∈ g.pointsTo i) ∨ o ∈ g.multiDrop) : ∃ c, w.graph.cell? o = some c := by
  rcases ho with ⟨i, ho⟩ | ho
  · obtain ⟨c, hc, ho⟩ := Graph.exists_cell_of_mem_pointsTo ho
    exact ((w.graph.closed_asObjects r.limit).contains_of_runs hw hrun i c hc).2 o ho
  · obtain ⟨c, hc, hobject, _⟩ := (hrun.marksExact hw.placed hw.marksExact o).mp ho
    exact (hrun.evolves hw.placed).dropped o c hc hobject

/-- An expanded cell has one number in the outcomes of all runs. -/
theorem find?_of_expanded (hw : w.Seeded) (hrun : Runs r w ⟨g, []⟩) {o : Int} {c : Cell}
    (hc : w.graph.cell? o = some c) : g.find? c.activation c.place = some o :=
  (hrun.evolves hw.placed).find? (Graph.find?_eq_some_iff.mpr ⟨c, hc, rfl⟩)

theorem UseAfterDrop.of_le (hw : w.Seeded) (hle : r.limit ≤ r'.limit) (hrun : Runs r w ⟨g, []⟩)
    (hrun' : Runs r' w ⟨g', []⟩) {dropped used : Location}
    (h : UseAfterDrop p config g dropped used) : UseAfterDrop p config g' dropped used := by
  obtain ⟨e, he, hused, n, huse, o, ho, s, hs, hrest⟩ := h
  have hevolves := hrun.evolves hw.placed
  have hevolves' := hrun'.evolves hw.placed
  have he₀ : e ∈ w.graph.edges.toList := hevolves.edges ▸ he
  -- the ends of an edge are expanded cells
  have hn : ∃ c₀, w.graph.cell? n = some c₀ := by
    obtain ⟨hsource, htarget⟩ := hw.anchored e he₀
    rcases huse with ⟨rfl, _⟩ | ⟨rfl, _⟩
    · exact hsource
    · exact htarget
  obtain ⟨c₀, hc₀⟩ := hn
  refine ⟨e, hevolves'.edges ▸ he₀, hused, n, huse, o, ?_, s, ?_, hrest⟩
  · exact hrun.mem_pointsTo_of_le hw hle hrun' hc₀ ho
  · rw [hevolves'.dropsOf, ← hevolves.dropsOf]
    exact hs

theorem DropAfterDrop.of_le (hw : w.Seeded) (hle : r.limit ≤ r'.limit) (hrun : Runs r w ⟨g, []⟩)
    (hrun' : Runs r' w ⟨g', []⟩) {first second : Location}
    (h : DropAfterDrop p config g first second) : DropAfterDrop p config g' first second := by
  obtain ⟨o₁, o₂, hne, hheld, s₁, hs₁, hfirst, s₂, hs₂, hsecond, hrest⟩ := h
  have hdrops : ∀ o, g.dropsOf o = w.graph.dropsOf o := (hrun.evolves hw.placed).dropsOf
  have hdrops' : ∀ o, g'.dropsOf o = w.graph.dropsOf o := (hrun'.evolves hw.placed).dropsOf
  rw [hdrops] at hs₁ hs₂
  obtain ⟨c₁, hc₁, _⟩ := Graph.exists_cell_of_mem_dropsOf hs₁
  obtain ⟨c₂, hc₂, _⟩ := Graph.exists_cell_of_mem_dropsOf hs₂
  rw [← hdrops'] at hs₁ hs₂
  refine ⟨o₁, o₂, hne, ?_, s₁, hs₁, hfirst, s₂, hs₂, hsecond, hrest⟩
  rcases hheld with hheld | hheld
  · exact .inl (hrun.mem_pointsTo_of_le hw hle hrun' hc₁ hheld)
  · exact .inr (hrun.mem_pointsTo_of_le hw hle hrun' hc₂ hheld)

theorem useAfterDrop_withDepth (d : Int) {dropped used : Location} :
    UseAfterDrop p (config.withDepth d) g dropped used ↔ UseAfterDrop p config g dropped used := by
  simp only [UseAfterDrop, Program.reaches_withDepth]

theorem dropAfterDrop_withDepth (d : Int) {first second : Location} :
    DropAfterDrop p (config.withDepth d) g first second ↔
      DropAfterDrop p config g first second := by
  simp only [DropAfterDrop, Program.reaches_withDepth]

theorem useAfterDrop_deeper (hd : 0 < d) (hle : d ≤ d')
    (hsucceeded : (analyze p (config.withDepth d) entry).2 = none) {dropped used : Location}
    (h : UseAfterDrop p (config.withDepth d) (analyze p (config.withDepth d) entry).1.graph
      dropped used) :
    UseAfterDrop p (config.withDepth d') (analyze p (config.withDepth d') entry).1.graph
      dropped used := by
  obtain ⟨w, r, r', hw, hlimit, hrun, hrun'⟩ := runs_under_two_limits hd hle hsucceeded
  rw [useAfterDrop_withDepth] at h ⊢
  exact h.of_le hw hlimit hrun hrun'

theorem dropAfterDrop_deeper (hd : 0 < d) (hle : d ≤ d')
    (hsucceeded : (analyze p (config.withDepth d) entry).2 = none) {first second : Location}
    (h : DropAfterDrop p (config.withDepth d) (analyze p (config.withDepth d) entry).1.graph
      first second) :
    DropAfterDrop p (config.withDepth d') (analyze p (config.withDepth d') entry).1.graph
      first second := by
  obtain ⟨w, r, r', hw, hlimit, hrun, hrun'⟩ := runs_under_two_limits hd hle hsucceeded
  rw [dropAfterDrop_withDepth] at h ⊢
  exact h.of_le hw hlimit hrun hrun'

end TwoLimits

/-! ### 3. The whole check -/

/-- Whether a file can be written does not depend on what is written. -/
theorem Files.write_eq_error_iff {fs : Files} {path text : String} (text' : String)
    {e : FileError} : fs.write path text = .error e ↔ fs.write path text' = .error e := by
  unfold Files.write
  split
  · exact Iff.rfl
  · split
    · exact Iff.rfl
    · constructor
      · intro h
        exact nomatch h
      · intro h
        exact nomatch h

theorem error_run_eq_none_iff {l : Loaded} {config : Config} {r : Findings}
    (hr : (l.check config).1 = .ok r) (files : Files) (number : Nat) :
    (l.run config files number).error = none ↔ config.options.reportsDir = "" ∨
      ∀ e, files.write (reportPath config.options.reportsDir number) "" ≠ .error e := by
  unfold Loaded.run
  split
  · rename_i e notices herror
    rw [herror] at hr
    exact nomatch hr
  · rename_i r' notices hr'
    rw [hr'] at hr
    cases hr
    by_cases hdirectory : config.options.reportsDir = ""
    · simp [hdirectory]
    · rw [if_neg hdirectory]
      simp only [writeReport, hdirectory, false_or, ne_eq]
      cases hwrite : files.write (reportPath config.options.reportsDir number) r.json with
      | error e =>
        have hempty := (Files.write_eq_error_iff "").mp hwrite
        simp [hempty]
      | ok files' =>
        refine ⟨fun _ e hempty => ?_, fun _ => rfl⟩
        rw [(Files.write_eq_error_iff r.json).mp hempty] at hwrite
        exact nomatch hwrite

/-- The pairs that a check has under the smaller limit are pairs under the greater one. -/
theorem check_withDepth {l : Loaded} (hp : l.program.Coherent) (hsettled : l.program.Settled)
    {config : Config} {d d' : Int} (hd : 0 < d) (hle : d ≤ d') {r : Findings}
    (hr : (l.check (config.withDepth d)).1 = .ok r) :
    ∃ r', (l.check (config.withDepth d')).1 = .ok r' ∧
      (∀ f ∈ r.uses, ∃ f' ∈ r'.uses, f'.first = f.first ∧ f'.second = f.second) ∧
      ∀ f ∈ r.drops, ∃ f' ∈ r'.drops, f'.first = f.first ∧ f'.second = f.second := by
  obtain ⟨entries, m, hentries, hm, rfl⟩ := check_eq_ok_iff.mp hr
  have hcollects := collects_of_checkEntries hp hsettled entries Merger.fair_empty hm
  have hsucceeded : ∀ entry ∈ entries,
      (analyze l.program (config.withDepth d') entry).2 = none := by
    intro entry hentry
    have hanalyze := hcollects.succeeded entry hentry
    rw [analyze_withDepth] at hanalyze ⊢
    exact hanalyze
  obtain ⟨m', hm'⟩ := exists_checkEntries hp hsettled entries {} hsucceeded
  have hcollects' := collects_of_checkEntries hp hsettled entries Merger.fair_empty hm'
  refine ⟨_, check_eq_ok_iff.mpr ⟨entries, m', hentries, hm', rfl⟩, fun f hf => ?_, fun f hf => ?_⟩
  · obtain ⟨hfirst, hsecond, hpair⟩ :=
      (hcollects.fair.uses.exists_mem_filter_iff _ f.first f.second).mp ⟨f, hf, rfl, rfl⟩
    refine (hcollects'.fair.uses.exists_mem_filter_iff _ _ _).mpr ⟨hfirst, hsecond, ?_⟩
    obtain hno | ⟨entry, hentry, huse⟩ := (hcollects.uses _).mp hpair
    · exact nomatch hno
    · have hsucceeded := hcollects.succeeded entry hentry
      refine (hcollects'.uses _).mpr (.inr ⟨entry, hentry, ?_⟩)
      exact useAfterDrop_deeper hd hle hsucceeded huse
  · obtain ⟨hfirst, hsecond, hpair⟩ :=
      (hcollects.fair.drops.exists_mem_filter_iff _ f.first f.second).mp ⟨f, hf, rfl, rfl⟩
    refine (hcollects'.fair.drops.exists_mem_filter_iff _ _ _).mpr ⟨hfirst, hsecond, ?_⟩
    obtain hno | ⟨entry, hentry, hdrop⟩ := (hcollects.drops _).mp hpair
    · exact nomatch hno
    · have hsucceeded := hcollects.succeeded entry hentry
      refine (hcollects'.drops _).mpr (.inr ⟨entry, hentry, ?_⟩)
      exact dropAfterDrop_deeper hd hle hsucceeded hdrop

/-- **A greater depth limit loses nothing.**  Of every program and every entry, the analysis
    succeeds under the greater limit if it does under the smaller one, with all cells, all objects
    in them and all marks; and every pair of locations that a check reports under the smaller limit
    is reported under the greater one. -/
theorem deeper_loses_nothing (config : Config) {d d' : Int} (hd : 0 < d) (hle : d ≤ d') :
    (∀ p entry, (analyze p (config.withDepth d) entry).2 = none →
      (analyze p (config.withDepth d') entry).2 = none ∧
      (∀ a q i, (analyze p (config.withDepth d) entry).1.graph.find? a q = some i →
        ∃ j, (analyze p (config.withDepth d') entry).1.graph.find? a q = some j ∧
          ∀ o ∈ (analyze p (config.withDepth d) entry).1.graph.pointsTo i,
            o ∈ (analyze p (config.withDepth d') entry).1.graph.pointsTo j) ∧
      (∀ o ∈ (analyze p (config.withDepth d) entry).1.graph.multiDrop,
        o ∈ (analyze p (config.withDepth d') entry).1.graph.multiDrop) ∧
      -- the number of an object stands for one cell under both limits
      ∀ o, (∃ i, o ∈ (analyze p (config.withDepth d) entry).1.graph.pointsTo i) ∨
          o ∈ (analyze p (config.withDepth d) entry).1.graph.multiDrop →
        ∃ a q, (analyze p (config.withDepth d) entry).1.graph.find? a q = some o ∧
          (analyze p (config.withDepth d') entry).1.graph.find? a q = some o) ∧
    ∀ (p : Program) (loading : Config) (paths : List String) (l : Loaded) (files : Files)
      (number : Nat) (r : Findings), p.Built → (p.prepare loading paths).1 = .ok l →
      (l.run (config.withDepth d) files number).findings = some r →
      ∃ r', (l.run (config.withDepth d') files number).findings = some r' ∧
        ((l.run (config.withDepth d') files number).error = none ↔
          (l.run (config.withDepth d) files number).error = none) ∧
        (∀ f ∈ r.uses, ∃ f' ∈ r'.uses, f'.first = f.first ∧ f'.second = f.second) ∧
        ∀ f ∈ r.drops, ∃ f' ∈ r'.drops, f'.first = f.first ∧ f'.second = f.second := by
  constructor
  · intro p entry h
    obtain ⟨w, r, r', hw, hlimit, hrun, hrun'⟩ := runs_under_two_limits hd hle h
    refine ⟨?_, fun a q i => hrun.find?_of_le hw hlimit hrun',
      fun o => hrun.mem_multiDrop_of_le hw hlimit hrun', fun o ho => ?_⟩
    · rw [analyze_withDepth] at h ⊢
      exact h
    · obtain ⟨c, hc⟩ := exists_expanded_of_runs hw hrun ho
      exact ⟨c.activation, c.place, find?_of_expanded hw hrun hc, find?_of_expanded hw hrun' hc⟩
  · intro p loading paths l files number r hp hload hr
    have hprepared := Loaded.prepared_of_prepare hload
    have hcheck : (l.check (config.withDepth d)).1 = .ok r := by
      rw [findings_run] at hr
      exact eq_ok_of_toOption hr
    obtain ⟨r', hr', huses, hdrops⟩ :=
      check_withDepth (hp.later hprepared.later).coherent hprepared.settled hd hle hcheck
    refine ⟨r', by rw [findings_run, hr']; rfl, ?_, huses, hdrops⟩
    rw [error_run_eq_none_iff hcheck, error_run_eq_none_iff hr']
    exact Iff.rfl

/-- The program of the careless function before it is prepared. -/
def carelessProgram : Program := { entries := #[{ source := carelessFunction }] }

theorem built_carelessProgram : carelessProgram.Built :=
  Program.built_of_names [carelessFunction] (by decide) (by decide)

theorem prepare_carelessProgram : (carelessProgram.prepare {} []).1 = .ok careless :=
  eq_ok_of_toOption (by decide +kernel)

theorem findings_careless : ∃ r, (careless.run {} {} 0).findings = some r ∧
    ∃ f ∈ r.uses, f.first = {} ∧ f.second = { line := 1 } := by
  obtain ⟨hbuilt, hsettled⟩ := Loaded.settled_of_load load_careless
  obtain ⟨entries, m, hentries, hm, hr⟩ := findings_of_run run_careless
  have hsame : Except.ok entries = Except.ok [0] := hentries.symm.trans findEntries_careless
  cases hsame
  have hcollects := collects_of_checkEntries hbuilt.coherent hsettled [0] Merger.fair_empty hm
  refine ⟨_, hr, (hcollects.fair.uses.exists_mem_filter_iff _ _ _).mpr ⟨rfl, rfl, ?_⟩⟩
  exact (hcollects.uses _).mpr (.inr ⟨0, List.mem_cons_self, useAfterDrop_careless⟩)

theorem deeper_loses_nothing_careless :
    carelessProgram.Built ∧ (carelessProgram.prepare {} []).1 = .ok careless ∧
    ∃ r, (careless.run (Config.withDepth {} 7) {} 0).findings = some r ∧
      ∃ f ∈ r.uses, f.first = {} ∧ f.second = { line := 1 } := by
  refine ⟨built_carelessProgram, prepare_carelessProgram, ?_⟩
  obtain ⟨r, hr, f, hf, hfirst, hsecond⟩ := findings_careless
  obtain ⟨r', hr', _, huses, _⟩ := (deeper_loses_nothing {} (by decide : (0 : Int) < 6)
    (by decide : (6 : Int) ≤ 7)).2 carelessProgram {} [] careless {} 0 r built_carelessProgram
    prepare_carelessProgram hr
  obtain ⟨f', hf', hfirst', hsecond'⟩ := huses f hf
  exact ⟨r', hr', f', hf', hfirst'.trans hfirst, hsecond'.trans hsecond⟩

end DropFlow
