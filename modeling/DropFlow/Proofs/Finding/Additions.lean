/-
  DropFlow/Proofs/Finding/Additions.lean
  ======================================
  Merging after any sequence of additions.

  Findings are added one at a time, of either kind, or all those detected in a graph at
  once.  The two kinds never meet: each has the findings of its kind merged in their order
  (`Merger.after_eq`).  What is left of a kind has no finding twice, and for each pair of
  locations all findings with a name, or the one without names if none has a name
  (`Merges`); so neither the order of the additions nor their repetition matters.
-/
import DropFlow.Finding.Detection
import DropFlow.Proofs.Finding.Merging

namespace DropFlow

/-! ### 1. Additions -/

/-- What can be added to merged findings. -/
inductive Merger.Addition where
  | use (f : Finding)
  | drop (f : Finding)
  | detected (g : Flow.Graph) (d : Detected)

namespace Merger

/-- Merges an addition. -/
def accept (m : Merger) : Addition → Merger
  | .use f => m.addUse f
  | .drop f => m.addDrop f
  | .detected g d => m.addDetected g d

/-- What has been merged after additions, from the beginning. -/
def after (adds : List Addition) : Merger := adds.foldl accept {}

/-- The uses of an addition. -/
def Addition.uses : Addition → List Finding
  | .use f => [f]
  | .drop _ => []
  | .detected g d => d.uses.map (·.finding g)

/-- The drops of an addition. -/
def Addition.drops : Addition → List Finding
  | .use _ => []
  | .drop f => [f]
  | .detected g d => d.drops.map (·.finding g)

/-- All uses of additions. -/
def usesOf (adds : List Addition) : List Finding := adds.flatMap Addition.uses

/-- All drops of additions. -/
def dropsOf (adds : List Addition) : List Finding := adds.flatMap Addition.drops

theorem accept_eq (m : Merger) (a : Addition) :
    m.accept a = ⟨a.uses.foldl Groups.add m.uses, a.drops.foldl Groups.add m.drops⟩ := by
  cases a with
  | use f => rfl
  | drop f => rfl
  | detected g d => exact m.addAll_eq _ _

/-- The two kinds do not meet. -/
theorem after_eq (adds : List Addition) :
    after adds = ⟨(usesOf adds).foldl Groups.add {}, (dropsOf adds).foldl Groups.add {}⟩ := by
  have hfold : ∀ m : Merger, adds.foldl accept m =
      ⟨(usesOf adds).foldl Groups.add m.uses, (dropsOf adds).foldl Groups.add m.drops⟩ := by
    induction adds with
    | nil => exact fun m => rfl
    | cons a rest ih =>
      intro m
      simp only [usesOf, dropsOf] at ih
      simp only [usesOf, dropsOf, List.foldl_cons, List.flatMap_cons, List.foldl_append, ih,
        accept_eq]
  exact hfold {}

end Merger

/-! ### 2. What is left -/

theorem Groups.Exact.nodup_sorted {fs : List Finding} {g : Groups} (h : Exact fs g) :
    g.sorted.Nodup := by
  have hgroup : ∀ x ∈ g.entries, GroupExact fs x.1 x.2 := by
    intro x hx
    have hsame : g.group x.1 = x.2 := by simp [group, lookup_of_mem h.distinct hx]
    rw [← hsame]
    exact h.groups x.1
  rw [sorted, (List.mergeSort_perm _ _).nodup_iff, List.nodup_flatMap]
  refine ⟨fun x hx => (hgroup x hx).nodup, ?_⟩
  have hdistinct : g.entries.Pairwise fun x y => x.1 ≠ y.1 := List.pairwise_map.mp h.distinct
  refine hdistinct.imp_of_mem fun hx hy hne f hfx hfy => hne ?_
  -- the pair of a finding is that of its group
  rw [← ((hgroup _ hx).mem f |>.mp hfx).1]
  exact ((hgroup _ hy).mem f |>.mp hfy).1

/-- What is left of findings after merging: nothing twice, for each pair of locations all findings
    with a name if there is one, and otherwise the one without names, and nothing for a pair
    without findings. -/
structure Merges (added left : List Finding) : Prop where
  nodup : left.Nodup
  named : ∀ pair, (∃ f ∈ added, f.locations = pair ∧ f.isNamed = true) →
    ∀ f, f ∈ left ∧ f.locations = pair ↔ f ∈ added ∧ f.locations = pair ∧ f.isNamed = true
  nameless : ∀ pair, (∃ f ∈ added, f.locations = pair) →
    (∀ f ∈ added, f.locations = pair → f.isNamed = false) →
    ∀ f, f ∈ left ∧ f.locations = pair ↔ f = { first := pair.1, second := pair.2 }
  other : ∀ pair, (¬∃ f ∈ added, f.locations = pair) → ∀ f ∈ left, f.locations ≠ pair

theorem Finding.eq_nameless {f : Finding} (h : f.isNamed = false) :
    f = { first := f.first, second := f.second } := by
  have hblank : isNamed { first := f.first, second := f.second } = false := by simp [isNamed]
  exact eq_of_isNamed_eq_false hblank h rfl

theorem merges_foldl_add (fs : List Finding) : Merges fs (fs.foldl Groups.add {}).sorted where
  nodup := (Groups.exact_foldl_add fs).nodup_sorted
  named := by
    rintro pair ⟨g, hg, hpair, hnamed⟩ f
    rw [Groups.mem_sorted_foldl_add, Finding.Kept]
    constructor
    · rintro ⟨⟨hf, hkept⟩, rfl⟩
      refine ⟨hf, rfl, hkept.resolve_right fun hall => ?_⟩
      simp [hall g hg hpair] at hnamed
    · rintro ⟨hf, hlocations, hf'⟩
      exact ⟨⟨hf, .inl hf'⟩, hlocations⟩
  nameless := by
    rintro pair ⟨g, hg, rfl⟩ hall f
    have hnameless := hall g hg rfl
    rw [Groups.mem_sorted_foldl_add, Finding.Kept]
    constructor
    · rintro ⟨⟨hf, _⟩, hpair⟩
      rw [Finding.eq_of_isNamed_eq_false hnameless (hall f hf hpair) hpair]
      exact Finding.eq_nameless hnameless
    · intro hf
      have hsame : f = g := hf.trans (Finding.eq_nameless hnameless).symm
      rw [hsame]
      exact ⟨⟨hg, .inr hall⟩, rfl⟩
  other := by
    intro pair hnone f hf hpair
    rw [Groups.mem_sorted_foldl_add] at hf
    exact hnone ⟨f, hf.1, hpair⟩

/-- **Merging keeps the right findings**, whatever is added in whatever order: of each kind, what
    `Merges` says.  So the same additions in another order, or more often, leave the same findings,
    and those of one kind do not depend on the additions of the other. -/
theorem after_merges (adds : List Merger.Addition) :
    Merges (Merger.usesOf adds) (Merger.after adds).findings.uses ∧
    Merges (Merger.dropsOf adds) (Merger.after adds).findings.drops ∧
    (∀ more : List Merger.Addition, (∀ a, a ∈ more ↔ a ∈ adds) →
      (∀ f, f ∈ (Merger.after more).findings.uses ↔ f ∈ (Merger.after adds).findings.uses) ∧
      ∀ f, f ∈ (Merger.after more).findings.drops ↔ f ∈ (Merger.after adds).findings.drops) ∧
    ∀ more : List Merger.Addition,
      (Merger.usesOf more = Merger.usesOf adds →
        (Merger.after more).findings.uses = (Merger.after adds).findings.uses) ∧
      (Merger.dropsOf more = Merger.dropsOf adds →
        (Merger.after more).findings.drops = (Merger.after adds).findings.drops) := by
  simp only [Merger.after_eq, Merger.findings]
  refine ⟨merges_foldl_add _, merges_foldl_add _, fun more hmore => ⟨?_, ?_⟩, fun more => ⟨?_, ?_⟩⟩
  · refine Groups.mem_sorted_foldl_add_congr fun f => ?_
    simp only [Merger.usesOf, List.mem_flatMap, hmore]
  · refine Groups.mem_sorted_foldl_add_congr fun f => ?_
    simp only [Merger.dropsOf, List.mem_flatMap, hmore]
  · intro huses
    rw [huses]
  · intro hdrops
    rw [hdrops]

end DropFlow
