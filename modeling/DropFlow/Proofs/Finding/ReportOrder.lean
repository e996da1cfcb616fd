/-
  DropFlow/Proofs/Finding/ReportOrder.lean
  ========================================
  When a report is determined by what was added.

  The groups of merged findings may be visited in any order, and any sort may arrange them
  (`Groups.Arranged`).  Findings are compared by a key, field by field, whose last field is
  both names in one string (`Finding.less_iff`).  The key tells two findings apart unless
  both have the character that divides the names in a name, so the report is the same
  for every order of the additions, the groups and the sort exactly if no two merged
  findings share their key.
-/
import DropFlow.Proofs.Finding.Additions
import Mathlib.Data.List.Sort
import Mathlib.Data.Prod.Lex
import Mathlib.Data.String.Basic
import Mathlib.Logic.Equiv.Basic

namespace DropFlow

/-! ### 1. Keys -/

theorem ite_ne_lt_iff {α : Type*} [LinearOrder α] (a b : α) (r : Bool) :
    (if a ≠ b then decide (a < b) else r) = true ↔ a < b ∨ a = b ∧ r = true := by
  by_cases h : a = b
  · simp [h]
  · simp [h]

namespace Location

/-- The fields of a location, in the order in which they are compared. -/
def key (l : Location) : String ×ₗ ℤ ×ₗ ℤ ×ₗ ℤ ×ₗ ℤ :=
  toLex (l.file, toLex (l.line, toLex (l.column, toLex (l.endLine, l.endColumn))))

theorem key_injective : Function.Injective key := by
  rintro ⟨file, line, column, endLine, endColumn⟩ ⟨file', line', column', endLine', endColumn'⟩ h
  simpa only [key, toLex_inj, Prod.mk.injEq, Location.mk.injEq] using h

theorem less_iff (a b : Location) : a.less b = true ↔ a.key < b.key := by
  simp only [less, key, Prod.Lex.toLex_lt_toLex, ite_ne_lt_iff, decide_eq_true_eq]

end Location

namespace Finding

/-- What the order of a report compares. -/
def key (f : Finding) : (String ×ₗ ℤ ×ₗ ℤ ×ₗ ℤ ×ₗ ℤ) ×ₗ (String ×ₗ ℤ ×ₗ ℤ ×ₗ ℤ ×ₗ ℤ) ×ₗ String :=
  toLex (f.first.key, toLex (f.second.key, f.names))

theorem less_iff (a b : Finding) : a.less b = true ↔ a.key < b.key := by
  simp only [less, key, Prod.Lex.toLex_lt_toLex]
  by_cases hfirst : a.first = b.first
  · by_cases hsecond : a.second = b.second
    · simp only [hfirst, hsecond, ne_eq, not_true_eq_false, if_false, decide_eq_true_eq,
        lt_irrefl, false_or, true_and]
    · have hkey : a.second.key ≠ b.second.key := fun h => hsecond (Location.key_injective h)
      simp only [hfirst, hsecond, hkey, ne_eq, not_true_eq_false, not_false_eq_true, if_true,
        if_false, lt_irrefl, false_or, true_and, false_and, or_false, Location.less_iff]
  · have hkey : a.first.key ≠ b.first.key := fun h => hfirst (Location.key_injective h)
    simp only [hfirst, hkey, ne_eq, not_false_eq_true, if_true, false_and, or_false,
      Location.less_iff]

theorem less_eq_false_iff (a b : Finding) : a.less b = false ↔ b.key ≤ a.key := by
  rw [← Bool.not_eq_true, less_iff, not_lt]

theorem key_eq_iff (a b : Finding) :
    a.key = b.key ↔ a.locations = b.locations ∧ a.names = b.names := by
  simp only [key, locations, toLex_inj, Prod.mk.injEq, Location.key_injective.eq_iff, and_assoc]

/-- Neither finding comes before the other. -/
theorem incomparable_iff (a b : Finding) :
    a.less b = false ∧ b.less a = false ↔ a.locations = b.locations ∧ a.names = b.names := by
  rw [less_eq_false_iff, less_eq_false_iff, ← key_eq_iff]
  exact ⟨fun h => le_antisymm h.2 h.1, fun h => ⟨h.ge, h.le⟩⟩

/-- No name of the finding has the character that divides the names. -/
def IsDivided (f : Finding) : Prop :=
  '\x00' ∉ f.firstName.toList ∧ '\x00' ∉ f.secondName.toList

theorem IsDivided.eq_of_key_eq {a b : Finding} (ha : a.IsDivided) (h : a.key = b.key) : a = b := by
  obtain ⟨hlocations, hnames⟩ := (key_eq_iff a b).mp h
  obtain ⟨hfirst, hsecond⟩ := Prod.mk.inj hlocations
  have hchars := congrArg String.toList hnames
  simp only [names, String.toList_append, List.append_assoc] at hchars
  obtain ⟨hfirstName, -, hsecondName⟩ := (List.append_cons_inj_of_notMem ha.1 ha.2).mp hchars
  cases a
  cases b
  simp_all [String.toList_inj]

end Finding

/-! ### 2. Reports -/

/-- A report of the groups: their findings, visited in some order and arranged by some sort. -/
def Groups.Arranged (g : Groups) (report : List Finding) : Prop :=
  ∃ visited : List ((Location × Location) × List Finding), visited.Perm g.entries ∧
    report.Perm (visited.flatMap (·.2)) ∧ report.Pairwise fun a b => b.less a = false

/-- The order of a report tells any two of the findings apart. -/
def Comparable (fs : List Finding) : Prop :=
  ∀ a ∈ fs, ∀ b ∈ fs, a ≠ b → a.less b = true ∨ b.less a = true

theorem comparable_iff {fs : List Finding} :
    Comparable fs ↔ ∀ a ∈ fs, ∀ b ∈ fs, a.key = b.key → a = b := by
  simp only [Comparable, Finding.less_iff, ← ne_iff_lt_or_gt, not_imp_not]

theorem Groups.arranged_sorted (g : Groups) : g.Arranged g.sorted := by
  refine ⟨g.entries, .refl _, List.mergeSort_perm _ _, ?_⟩
  have htrans : ∀ a b c : Finding, (!b.less a) = true → (!c.less b) = true →
      (!c.less a) = true := by
    simp only [Bool.not_eq_true', Finding.less_eq_false_iff]
    exact fun a b c hab hbc => hab.trans hbc
  have htotal : ∀ a b : Finding, (!b.less a || !a.less b) = true := by
    simp only [Bool.or_eq_true, Bool.not_eq_true', Finding.less_eq_false_iff]
    exact fun a b => le_total a.key b.key
  refine (List.pairwise_mergeSort htrans htotal _).imp fun h => ?_
  simpa using h

theorem Groups.Arranged.perm_sorted {g : Groups} {report : List Finding} (h : g.Arranged report) :
    report.Perm g.sorted := by
  obtain ⟨visited, hvisited, hreport, -⟩ := h
  exact hreport.trans ((hvisited.flatMap_right _).trans (List.mergeSort_perm _ _).symm)

/-- Only one arrangement is sorted if the findings can be told apart. -/
theorem Comparable.eq_of_perm {l l' : List Finding} (h : Comparable l) (hperm : l'.Perm l)
    (hl' : l'.Pairwise fun a b => b.less a = false) (hl : l.Pairwise fun a b => b.less a = false) :
    l' = l := by
  refine List.Perm.eq_of_pairwise (fun a b ha hb hab hba => ?_) hl' hl hperm
  rw [Finding.less_eq_false_iff] at hab hba
  exact comparable_iff.mp h a (hperm.mem_iff.mp ha) b hb (le_antisymm hab hba)

theorem map_swap_perm {l : List Finding} (hnodup : l.Nodup) {a b : Finding} (ha : a ∈ l)
    (hb : b ∈ l) : (l.map (Equiv.swap a b)).Perm l := by
  rw [List.perm_ext_iff_of_nodup (hnodup.map (Equiv.injective _)) hnodup]
  intro f
  rw [List.mem_map_of_involutive (Equiv.swap_apply_self a b), Equiv.swap_apply_def]
  split_ifs with hfa hfb
  · simp only [hfa, ha, hb]
  · simp only [hfb, ha, hb]
  · rfl

/-- Two findings that cannot be told apart may change places. -/
theorem Groups.exists_arranged_ne {g : Groups} (hnodup : g.sorted.Nodup)
    (h : ¬Comparable g.sorted) : ∃ report, g.Arranged report ∧ report ≠ g.sorted := by
  simp only [comparable_iff, not_forall] at h
  obtain ⟨a, ha, b, hb, hkey, hne⟩ := h
  obtain ⟨visited, hvisited, hperm, hpairwise⟩ := g.arranged_sorted
  have hswap : ∀ f, (Equiv.swap a b f).key = f.key := by
    intro f
    rw [Equiv.swap_apply_def]
    split_ifs with hfa hfb
    · rw [hfa, hkey]
    · rw [hfb, hkey]
    · rfl
  refine ⟨g.sorted.map (Equiv.swap a b),
    ⟨visited, hvisited, (map_swap_perm hnodup ha hb).trans hperm, ?_⟩, fun hsame => hne ?_⟩
  · rw [List.pairwise_map]
    refine hpairwise.imp fun h => ?_
    rw [Finding.less_eq_false_iff] at h ⊢
    rwa [hswap, hswap]
  · have hfixed := List.map_eq_map_iff.mp (hsame.trans (List.map_id _).symm) a ha
    rw [Equiv.swap_apply_left] at hfixed
    exact hfixed.symm

/-- Findings that can be told apart after merging have one report, in whatever order they were
    added. -/
theorem Comparable.report_eq {fs fs' report : List Finding}
    (h : Comparable (fs.foldl Groups.add {}).sorted) (hperm : fs'.Perm fs)
    (hreport : (fs'.foldl Groups.add {}).Arranged report) :
    report = (fs.foldl Groups.add {}).sorted := by
  have hsorted : (fs'.foldl Groups.add {}).sorted.Perm (fs.foldl Groups.add {}).sorted := by
    rw [List.perm_ext_iff_of_nodup (Groups.exact_foldl_add fs').nodup_sorted
      (Groups.exact_foldl_add fs).nodup_sorted]
    exact Groups.mem_sorted_foldl_add_congr fun f => hperm.mem_iff
  have hmerged := hreport.perm_sorted.trans hsorted
  obtain ⟨_, _, _, hpairwise⟩ := hreport
  obtain ⟨_, _, _, hpairwise'⟩ := (fs.foldl Groups.add {}).arranged_sorted
  exact h.eq_of_perm hmerged hpairwise hpairwise'

theorem comparable_of_report_eq {fs : List Finding}
    (h : ∀ report, (fs.foldl Groups.add {}).Arranged report →
      report = (fs.foldl Groups.add {}).sorted) : Comparable (fs.foldl Groups.add {}).sorted := by
  by_contra hne
  obtain ⟨report, harranged, hreport⟩ :=
    Groups.exists_arranged_ne (Groups.exact_foldl_add fs).nodup_sorted hne
  exact hreport (h report harranged)

theorem comparable_of_isDivided {fs : List Finding} (h : ∀ f ∈ fs, f.IsDivided) :
    Comparable (fs.foldl Groups.add {}).sorted := by
  rw [comparable_iff]
  intro a ha b _ hkey
  rw [Groups.mem_sorted_foldl_add] at ha
  exact (h a ha.1).eq_of_key_eq hkey

/-- **When the report is determined.**  The order of a report is a strict order in which two
    findings are incomparable exactly if their locations and their divided names are the same.  So
    every order of the additions, every order of the groups and every sort give the same two lists
    exactly if no two findings that are left are incomparable, and this is the case if no name has
    the character that divides the names. -/
theorem reports_determined_iff (adds : List Merger.Addition) :
    ((∀ a : Finding, a.less a = false) ∧
      (∀ a b c : Finding, a.less b = true → b.less c = true → a.less c = true) ∧
      ∀ a b : Finding, a.less b = false ∧ b.less a = false ↔
        a.locations = b.locations ∧ a.names = b.names) ∧
    ((∀ more : List Merger.Addition, more.Perm adds →
        (∀ report, (Merger.after more).uses.Arranged report →
          report = (Merger.after adds).findings.uses) ∧
        ∀ report, (Merger.after more).drops.Arranged report →
          report = (Merger.after adds).findings.drops) ↔
      Comparable (Merger.after adds).findings.uses ∧
        Comparable (Merger.after adds).findings.drops) ∧
    ((∀ f ∈ Merger.usesOf adds ++ Merger.dropsOf adds, f.IsDivided) →
      Comparable (Merger.after adds).findings.uses ∧
        Comparable (Merger.after adds).findings.drops) := by
  simp only [Merger.after_eq, Merger.findings]
  refine ⟨⟨fun a => ?_, fun a b c => ?_, Finding.incomparable_iff⟩, ⟨fun h => ?_, ?_⟩, fun h => ?_⟩
  · rw [Finding.less_eq_false_iff]
  · simp only [Finding.less_iff]
    exact lt_trans
  · obtain ⟨huses, hdrops⟩ := h adds (.refl adds)
    exact ⟨comparable_of_report_eq huses, comparable_of_report_eq hdrops⟩
  · rintro ⟨huses, hdrops⟩ more hmore
    exact ⟨fun report hreport => huses.report_eq (hmore.flatMap_right _) hreport,
      fun report hreport => hdrops.report_eq (hmore.flatMap_right _) hreport⟩
  · exact ⟨comparable_of_isDivided fun f hf => h f (List.mem_append_left _ hf),
      comparable_of_isDivided fun f hf => h f (List.mem_append_right _ hf)⟩

/-- Two incomparable findings stay in the order of their addition. -/
theorem sorted_of_incomparable {f g : Finding} (hne : f ≠ g) (hf : f.isNamed = true)
    (hg : g.isNamed = true) (h : g.locations = f.locations ∧ g.names = f.names) :
    ([f, g].foldl Groups.add {}).sorted = [f, g] := by
  have hentries : ([f, g].foldl Groups.add {}).entries = [(f.locations, [f, g])] := by
    simp [Groups.add, Groups.group, Groups.put, mergeInto, h.1, hf, hg, hne.symm]
  rw [Groups.sorted, hentries]
  refine List.mergeSort_of_pairwise ?_
  simp [((Finding.incomparable_iff g f).mpr h).1]

/-- Two findings whose divided names are the same, one with the dividing character in the first
    name and one in the second. -/
def lookalikes : Finding × Finding :=
  let first : Location := { file := "a.rs", line := 1 }
  let second : Location := { file := "a.rs", line := 2 }
  (⟨first, "a\x00b", second, "c"⟩, ⟨first, "a", second, "b\x00c"⟩)

/-- Names with the dividing character are reported in the order of their addition. -/
theorem reports_lookalikes_differ :
    [Merger.Addition.use lookalikes.1, .use lookalikes.2].Perm
      [.use lookalikes.2, .use lookalikes.1] ∧
    (Merger.after [.use lookalikes.1, .use lookalikes.2]).findings.uses =
      [lookalikes.1, lookalikes.2] ∧
    (Merger.after [.use lookalikes.2, .use lookalikes.1]).findings.uses =
      [lookalikes.2, lookalikes.1] ∧
    lookalikes.1 ≠ lookalikes.2 := by
  have hne : lookalikes.1 ≠ lookalikes.2 := by decide
  have hnames : lookalikes.1.names = lookalikes.2.names := by decide
  refine ⟨.swap _ _ _, ?_, ?_, hne⟩
  · exact sorted_of_incomparable hne (by decide) (by decide) ⟨rfl, hnames.symm⟩
  · exact sorted_of_incomparable hne.symm (by decide) (by decide) ⟨rfl, hnames⟩

end DropFlow
