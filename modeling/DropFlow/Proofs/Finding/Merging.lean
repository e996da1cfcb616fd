/-
  DropFlow/Proofs/Finding/Merging.lean
  ====================================
  Merging keeps the pairs of locations.

  Merging may evict a finding or leave one out, but only for another finding of the same
  pair of locations.  Every group is kept under the pair of its findings and is not
  empty (`Groups.Fair`), so that the pairs of the merged findings are the pairs of the
  findings that were merged.

  Which findings are left does not depend on the order: all with a name, and those of a
  pair of locations for which there is no name (`Finding.Kept`).
-/
import DropFlow.Finding
import Mathlib.Data.List.Nodup
import Mathlib.Data.List.Induction

namespace DropFlow

/-! ### 1. One group -/

theorem mergeInto_ne_nil (group : List Finding) (f : Finding) : mergeInto group f ≠ [] := by
  unfold mergeInto
  split
  · exact List.cons_ne_nil _ _
  · rename_i hne
    split
    · simpa using hne
    · split
      · split <;> exact List.cons_ne_nil _ _
      · exact List.append_ne_nil_of_right_ne_nil _ (List.cons_ne_nil _ _)

theorem mem_of_mem_mergeInto {group : List Finding} {f x : Finding} (h : x ∈ mergeInto group f) :
    x ∈ group ∨ x = f := by
  unfold mergeInto at h
  split at h
  · exact Or.inr (List.mem_singleton.mp h)
  · split at h
    · exact Or.inl h
    · split at h
      · split at h
        · rcases List.mem_cons.mp h with h | h
          · exact Or.inl (List.mem_singleton.mpr h)
          · exact Or.inr (List.mem_singleton.mp h)
        · exact Or.inr (List.mem_singleton.mp h)
      · rcases List.mem_append.mp h with h | h
        · exact Or.inl h
        · exact Or.inr (List.mem_singleton.mp h)

/-! ### 2. All groups -/

namespace Groups

/-- No group is empty, and each is kept under the pair of its findings. -/
def Fair (g : Groups) : Prop :=
  ∀ x ∈ g.entries, x.2 ≠ [] ∧ ∀ f ∈ x.2, f.locations = x.1

theorem mem_map_fst_put {pair x : Location × Location} {fs : List Finding}
    (entries : List ((Location × Location) × List Finding)) :
    x ∈ (put pair fs entries).map (·.1) ↔ x = pair ∨ x ∈ entries.map (·.1) := by
  induction entries with
  | nil => simp [put]
  | cons head rest ih =>
    obtain ⟨p, old⟩ := head
    rw [put]
    split
    · rename_i heq
      subst heq
      rw [List.map_cons, List.map_cons, List.mem_cons]
      constructor
      · rintro (h | h)
        · exact Or.inl h
        · exact Or.inr (Or.inr h)
      · rintro (h | h | h)
        · exact Or.inl h
        · exact Or.inl h
        · exact Or.inr h
    · rw [List.map_cons, List.map_cons, List.mem_cons, List.mem_cons, ih]
      exact or_left_comm

theorem mem_put {pair : Location × Location} {fs : List Finding}
    {entries : List ((Location × Location) × List Finding)}
    {x : (Location × Location) × List Finding} (h : x ∈ put pair fs entries) :
    x = (pair, fs) ∨ x ∈ entries := by
  induction entries with
  | nil => exact Or.inl (List.mem_singleton.mp h)
  | cons head rest ih =>
    obtain ⟨p, old⟩ := head
    rw [put] at h
    split at h
    · rename_i heq
      rcases List.mem_cons.mp h with h | h
      · exact Or.inl (heq ▸ h)
      · exact Or.inr (List.mem_cons_of_mem _ h)
    · rcases List.mem_cons.mp h with h | h
      · exact Or.inr (h ▸ List.mem_cons_self ..)
      · rcases ih h with h | h
        · exact Or.inl h
        · exact Or.inr (List.mem_cons_of_mem _ h)

theorem Fair.locations_of_mem_group {g : Groups} (h : g.Fair) {pair : Location × Location}
    {f : Finding} (hf : f ∈ g.group pair) : f.locations = pair := by
  unfold group at hf
  cases hl : g.entries.lookup pair with
  | none =>
    rw [hl] at hf
    exact nomatch hf
  | some fs =>
    rw [hl] at hf
    obtain ⟨before, after, hsplit, _⟩ := List.lookup_eq_some_iff.mp hl
    have hm : (pair, fs) ∈ g.entries := by
      rw [hsplit]
      exact List.mem_append_right _ (List.mem_cons_self ..)
    exact (h (pair, fs) hm).2 f hf

theorem Fair.add {g : Groups} (h : g.Fair) (f : Finding) : (g.add f).Fair := by
  intro x hx
  rcases mem_put hx with rfl | hx
  · refine ⟨mergeInto_ne_nil _ f, fun f' hf' => ?_⟩
    rcases mem_of_mem_mergeInto hf' with hf' | rfl
    · exact h.locations_of_mem_group hf'
    · rfl
  · exact h x hx

/-- The pairs of locations that have a group. -/
def pairs (g : Groups) : List (Location × Location) := g.entries.map (·.1)

theorem mem_pairs_foldl_add {fs : List Finding} {pair : Location × Location} : ∀ {g : Groups},
    pair ∈ (fs.foldl add g).pairs ↔ pair ∈ g.pairs ∨ ∃ f ∈ fs, f.locations = pair := by
  induction fs with
  | nil => simp
  | cons f rest ih =>
    intro g
    have hadd : pair ∈ (g.add f).pairs ↔ pair = f.locations ∨ pair ∈ g.pairs :=
      mem_map_fst_put g.entries
    rw [List.foldl_cons, ih, hadd]
    constructor
    · rintro ((h | h) | ⟨f', hf', h⟩)
      · exact Or.inr ⟨f, List.mem_cons_self .., h.symm⟩
      · exact Or.inl h
      · exact Or.inr ⟨f', List.mem_cons_of_mem _ hf', h⟩
    · rintro (h | ⟨f', hf', h⟩)
      · exact Or.inl (Or.inr h)
      · rcases List.mem_cons.mp hf' with rfl | hf'
        · exact Or.inl (Or.inl h.symm)
        · exact Or.inr ⟨f', hf', h⟩

theorem Fair.foldl_add {g : Groups} (h : g.Fair) (fs : List Finding) :
    (fs.foldl Groups.add g).Fair := by
  induction fs generalizing g with
  | nil => exact h
  | cons f rest ih => exact ih (h.add f)

/-- The pairs of the findings that are left are those of the groups. -/
theorem Fair.exists_mem_sorted_iff {g : Groups} (h : g.Fair) {pair : Location × Location} :
    (∃ f ∈ g.sorted, f.locations = pair) ↔ pair ∈ g.pairs := by
  unfold sorted
  simp only [List.mem_mergeSort, List.mem_flatMap]
  constructor
  · rintro ⟨f, ⟨x, hx, hf⟩, rfl⟩
    rw [(h x hx).2 f hf]
    exact List.mem_map.mpr ⟨x, hx, rfl⟩
  · intro hm
    obtain ⟨x, hx, rfl⟩ := List.mem_map.mp hm
    obtain ⟨hne, hall⟩ := h x hx
    obtain ⟨f, hf⟩ := List.exists_mem_of_ne_nil _ hne
    exact ⟨f, ⟨x, hx, hf⟩, hall f hf⟩

end Groups

/-! ### 3. Both kinds -/

namespace Merger

/-- Both kinds of groups are fair. -/
structure Fair (m : Merger) : Prop where
  uses : m.uses.Fair
  drops : m.drops.Fair

theorem fair_empty : Fair {} := ⟨fun _ hx => (nomatch hx), fun _ hx => nomatch hx⟩

theorem foldl_addUse (m : Merger) (fs : List Finding) :
    fs.foldl addUse m = { m with uses := fs.foldl Groups.add m.uses } := by
  induction fs generalizing m with
  | nil => rfl
  | cons f rest ih => exact ih (m.addUse f)

theorem foldl_addDrop (m : Merger) (fs : List Finding) :
    fs.foldl addDrop m = { m with drops := fs.foldl Groups.add m.drops } := by
  induction fs generalizing m with
  | nil => rfl
  | cons f rest ih => exact ih (m.addDrop f)

theorem addAll_eq (m : Merger) (uses drops : List Finding) :
    m.addAll uses drops = ⟨uses.foldl Groups.add m.uses, drops.foldl Groups.add m.drops⟩ := by
  unfold addAll
  rw [foldl_addUse, foldl_addDrop]

end Merger

/-- **The pairs that are reported** are those of the groups, without the suppressed ones. -/
theorem Groups.Fair.exists_mem_filter_iff {g : Groups} (h : g.Fair) (suppressed : Location → Bool)
    (first second : Location) :
    (∃ f ∈ g.sorted.filter (fun f => !suppressed f.first && !suppressed f.second),
      f.first = first ∧ f.second = second) ↔
      suppressed first = false ∧ suppressed second = false ∧ (first, second) ∈ g.pairs := by
  rw [← h.exists_mem_sorted_iff]
  simp only [List.mem_filter, Bool.and_eq_true, Bool.not_eq_true', Finding.locations,
    Prod.mk.injEq]
  constructor
  · rintro ⟨f, ⟨hf, hfirst, hsecond⟩, rfl, rfl⟩
    exact ⟨hfirst, hsecond, f, hf, rfl, rfl⟩
  · rintro ⟨hfirst, hsecond, f, hf, rfl, rfl⟩
    exact ⟨f, ⟨hf, hfirst, hsecond⟩, rfl, rfl⟩

/-! ### 4. The findings that are left -/

/-- A finding that is kept of some: one with a name, or one of a pair of locations for which there
    is no name at all. -/
def Finding.Kept (fs : List Finding) (f : Finding) : Prop :=
  f ∈ fs ∧ (f.isNamed = true ∨ ∀ f' ∈ fs, f'.locations = f.locations → f'.isNamed = false)

theorem Finding.eq_of_isNamed_eq_false {f f' : Finding} (h : f.isNamed = false)
    (h' : f'.isNamed = false) (hpair : f'.locations = f.locations) : f' = f := by
  obtain ⟨first, name, second, name'⟩ := f
  obtain ⟨first₁, name₁, second₁, name₁'⟩ := f'
  simp_all [isNamed, locations]

theorem Finding.kept_append_of_ne {fs : List Finding} {f f' : Finding}
    (h : f'.locations ≠ f.locations) : f'.Kept (fs ++ [f]) ↔ f'.Kept fs := by
  have hne : f' ≠ f := by
    rintro rfl
    exact h rfl
  simp only [Kept, List.mem_append, List.mem_singleton, hne, or_false]
  constructor
  · rintro ⟨hf', hnamed | hall⟩
    · exact ⟨hf', .inl hnamed⟩
    · exact ⟨hf', .inr fun x hx => hall x (.inl hx)⟩
  · rintro ⟨hf', hnamed | hall⟩
    · exact ⟨hf', .inl hnamed⟩
    · refine ⟨hf', .inr fun x hx hpair => ?_⟩
      rcases hx with hx | rfl
      · exact hall x hx hpair
      · exact absurd hpair.symm h

/-- A group that has what is kept of some findings for one pair of locations, each once. -/
structure GroupExact (fs : List Finding) (pair : Location × Location) (group : List Finding) :
    Prop where
  nodup : group.Nodup
  mem : ∀ f, f ∈ group ↔ f.locations = pair ∧ f.Kept fs

namespace GroupExact

variable {fs group : List Finding} {f : Finding}

/-- A finding without a name is alone in its group. -/
theorem eq_singleton {pair : Location × Location} (h : GroupExact fs pair group)
    (hf : f ∈ group) (hnamed : f.isNamed = false) : group = [f] := by
  obtain ⟨rfl, _, hkept⟩ := (h.mem f).mp hf
  have hall := hkept.resolve_left (by simp [hnamed])
  have hsame : ∀ x ∈ group, x = f := by
    intro x hx
    obtain ⟨hpair, hmem, _⟩ := (h.mem x).mp hx
    exact Finding.eq_of_isNamed_eq_false hnamed (hall x hmem hpair) hpair
  refine List.perm_singleton.mp ((List.perm_ext_iff_of_nodup h.nodup (by simp)).mpr fun x => ?_)
  rw [List.mem_singleton]
  constructor
  · exact hsame x
  · rintro rfl
    exact hf

theorem mem_of_isNamed {pair : Location × Location} (h : GroupExact fs pair group)
    (hnamed : f.isNamed = true) : f ∈ group ↔ f.locations = pair ∧ f ∈ fs := by
  rw [h.mem f, Finding.Kept]
  simp [hnamed]

/-- The first finding of a pair of locations. -/
theorem mergeInto_nil (h : GroupExact fs f.locations []) :
    GroupExact (fs ++ [f]) f.locations [f] := by
  have hnone : ∀ x ∈ fs, x.locations ≠ f.locations := by
    intro x hx hpair
    have hunnamed : ∀ y ∈ fs, y.locations = x.locations → y.isNamed = false := by
      intro y hy hsame
      rw [← Bool.not_eq_true]
      intro hnamed
      exact nomatch (h.mem y).mpr ⟨hsame.trans hpair, hy, .inl hnamed⟩
    exact nomatch (h.mem x).mpr ⟨hpair, hx, .inr hunnamed⟩
  refine ⟨by simp, fun x => ?_⟩
  rw [List.mem_singleton, Finding.Kept, List.mem_append, List.mem_singleton]
  constructor
  · rintro rfl
    refine ⟨rfl, .inr rfl, ?_⟩
    cases hnamed : x.isNamed with
    | true => exact .inl rfl
    | false =>
      refine .inr fun y hy hpair => ?_
      rcases List.mem_append.mp hy with hy | hy
      · exact absurd hpair (hnone y hy)
      · rw [List.mem_singleton.mp hy]
        exact hnamed
  · rintro ⟨hpair, hx | hx, _⟩
    · exact absurd hpair (hnone x hx)
    · exact hx

/-- A finding that is passed over: it has no name, or it is there. -/
theorem mergeInto_skip (h : GroupExact fs f.locations group) (hne : group ≠ [])
    (hskip : f.isNamed = false ∨ f ∈ group) : GroupExact (fs ++ [f]) f.locations group := by
  -- the finding is among those before unless nothing has a name, and then all are equal
  refine ⟨h.nodup, fun x => ?_⟩
  rw [h.mem x]
  refine and_congr_right fun hpair => ?_
  rcases hskip with hnamed | hin
  · constructor
    · rintro ⟨hx, hkept⟩
      refine ⟨List.mem_append_left _ hx, hkept.imp_right fun hall y hy hsame => ?_⟩
      rcases List.mem_append.mp hy with hy | hy
      · exact hall y hy hsame
      · rw [List.mem_singleton.mp hy]
        exact hnamed
    · rintro ⟨hx, hkept⟩
      refine ⟨?_, hkept.imp_right fun hall y hy => hall y (List.mem_append_left _ hy)⟩
      rcases List.mem_append.mp hx with hx | hx
      · exact hx
      · rw [List.mem_singleton.mp hx] at hkept ⊢
        obtain ⟨y, hy⟩ := List.exists_mem_of_ne_nil _ hne
        obtain ⟨hsame, hmem, _⟩ := (h.mem y).mp hy
        have hall := hkept.resolve_left (by simp [hnamed])
        have hunnamed := hall y (List.mem_append_left _ hmem) hsame
        rw [← Finding.eq_of_isNamed_eq_false hnamed hunnamed hsame]
        exact hmem
  · have hf : f ∈ fs := ((h.mem f).mp hin).2.1
    have hmem : ∀ y, y ∈ fs ++ [f] ↔ y ∈ fs := by
      intro y
      rw [List.mem_append, List.mem_singleton]
      constructor
      · rintro (hy | rfl)
        · exact hy
        · exact hf
      · exact .inl
    simp only [Finding.Kept, hmem]

/-- A new finding with a name leaves only findings with a name. -/
theorem mergeInto_named (h : GroupExact fs f.locations group) (hnamed : f.isNamed = true)
    (hnew : f ∉ group) :
    GroupExact (fs ++ [f]) f.locations (group.filter Finding.isNamed ++ [f]) := by
  constructor
  · rw [List.nodup_append]
    refine ⟨h.nodup.filter _, by simp, ?_⟩
    rintro x hx y hy rfl
    rw [List.mem_singleton.mp hy] at hx
    exact hnew (List.mem_of_mem_filter hx)
  · intro x
    rw [List.mem_append, List.mem_filter, List.mem_singleton, Finding.Kept, List.mem_append,
      List.mem_singleton]
    constructor
    · rintro (⟨hx, hx'⟩ | rfl)
      · obtain ⟨hpair, hmem⟩ := (h.mem_of_isNamed hx').mp hx
        exact ⟨hpair, .inl hmem, .inl hx'⟩
      · exact ⟨rfl, .inr rfl, .inl hnamed⟩
    · rintro ⟨hpair, hx | hx, hkept⟩
      · have hx' : x.isNamed = true := by
          rcases hkept with hx' | hall
          · exact hx'
          · have hno := hall f (by simp) hpair.symm
            rw [hnamed] at hno
            exact nomatch hno
        exact .inl ⟨(h.mem_of_isNamed hx').mpr ⟨hpair, hx⟩, hx'⟩
      · exact .inr hx

theorem mergeInto (h : GroupExact fs f.locations group) :
    GroupExact (fs ++ [f]) f.locations (DropFlow.mergeInto group f) := by
  unfold DropFlow.mergeInto
  split
  · rename_i hempty
    rw [List.isEmpty_iff.mp hempty] at h
    exact h.mergeInto_nil
  · rename_i hne
    split
    · rename_i hskip
      exact h.mergeInto_skip (by simpa using hne) (by simpa using hskip)
    · rename_i hskip
      obtain ⟨hnamed, hnew⟩ : f.isNamed = true ∧ f ∉ group := by simpa using hskip
      have hmerged := h.mergeInto_named hnamed hnew
      split
      · rename_i only
        cases honly : only.isNamed with
        | true => simpa [honly] using hmerged
        | false => simpa [honly] using hmerged
      · rename_i hlong
        have hall : group.filter Finding.isNamed = group := by
          rw [List.filter_eq_self]
          intro x hx
          rw [← Bool.not_eq_false]
          intro hx'
          exact hlong x (h.eq_singleton hx hx')
        rw [hall] at hmerged
        exact hmerged

theorem append_of_ne {pair : Location × Location} (h : GroupExact fs pair group)
    (hne : pair ≠ f.locations) : GroupExact (fs ++ [f]) pair group := by
  refine ⟨h.nodup, fun x => ?_⟩
  rw [h.mem x]
  refine and_congr_right fun hpair => ?_
  rw [Finding.kept_append_of_ne (by rw [hpair]; exact hne)]

end GroupExact

namespace Groups

theorem lookup_put (pair pair' : Location × Location) (fs : List Finding)
    (entries : List ((Location × Location) × List Finding)) :
    (put pair fs entries).lookup pair' =
      if pair' = pair then some fs else entries.lookup pair' := by
  induction entries with
  | nil =>
    by_cases hpair : pair' = pair
    · simp [put, hpair]
    · simp [put, hpair, List.lookup_cons, beq_false_of_ne hpair]
  | cons head rest ih =>
    obtain ⟨p, old⟩ := head
    rw [put]
    by_cases hp : p = pair
    · subst hp
      by_cases hpair : pair' = p
      · simp [hpair]
      · simp [hpair, List.lookup_cons, beq_false_of_ne hpair]
    · rw [if_neg hp, List.lookup_cons, List.lookup_cons, ih]
      by_cases hpair : pair' = pair
      · subst hpair
        simp [beq_false_of_ne (Ne.symm hp)]
      · simp [hpair]

theorem group_add (g : Groups) (f : Finding) (pair : Location × Location) :
    (g.add f).group pair =
      if pair = f.locations then mergeInto (g.group pair) f else g.group pair := by
  unfold add group
  rw [lookup_put]
  by_cases hpair : pair = f.locations
  · subst hpair
    simp
  · simp [hpair]

theorem nodup_map_fst_put {pair : Location × Location} {fs : List Finding}
    {entries : List ((Location × Location) × List Finding)} (h : (entries.map (·.1)).Nodup) :
    ((put pair fs entries).map (·.1)).Nodup := by
  induction entries with
  | nil => simp [put]
  | cons head rest ih =>
    obtain ⟨p, old⟩ := head
    rw [List.map_cons, List.nodup_cons] at h
    rw [put]
    split
    · exact List.nodup_cons.mpr h
    · rename_i hp
      refine List.nodup_cons.mpr ⟨?_, ih h.2⟩
      rw [mem_map_fst_put]
      rintro (hp' | hin)
      · exact hp hp'
      · exact h.1 hin

/-- Groups that have what is kept of some findings, by their pairs. -/
structure Exact (fs : List Finding) (g : Groups) : Prop where
  distinct : g.pairs.Nodup
  groups : ∀ pair, GroupExact fs pair (g.group pair)

theorem Exact.add {fs : List Finding} {g : Groups} (h : Exact fs g) (f : Finding) :
    Exact (fs ++ [f]) (g.add f) := by
  refine ⟨nodup_map_fst_put h.distinct, fun pair => ?_⟩
  rw [group_add]
  by_cases hpair : pair = f.locations
  · rw [if_pos hpair, hpair]
    exact (h.groups _).mergeInto
  · rw [if_neg hpair]
    exact (h.groups pair).append_of_ne hpair

theorem exact_foldl_add (fs : List Finding) : Exact fs (fs.foldl Groups.add {}) := by
  induction fs using List.reverseRecOn with
  | nil => exact ⟨List.nodup_nil, fun pair => ⟨List.nodup_nil, by simp [group, Finding.Kept]⟩⟩
  | append_singleton fs f ih =>
    rw [List.foldl_append]
    exact ih.add f

theorem lookup_of_mem {entries : List ((Location × Location) × List Finding)}
    (h : (entries.map (·.1)).Nodup) {x : (Location × Location) × List Finding} (hx : x ∈ entries) :
    entries.lookup x.1 = some x.2 := by
  induction entries with
  | nil => exact nomatch hx
  | cons head rest ih =>
    rw [List.map_cons, List.nodup_cons] at h
    rw [List.lookup_cons]
    rcases List.mem_cons.mp hx with rfl | hx
    · simp
    · have hne : x.1 ≠ head.1 := by
        intro heq
        exact h.1 (List.mem_map.mpr ⟨x, hx, heq⟩)
      rw [beq_false_of_ne hne]
      exact ih h.2 hx

theorem Exact.mem_sorted {fs : List Finding} {g : Groups} (h : Exact fs g) {f : Finding} :
    f ∈ g.sorted ↔ f ∈ g.group f.locations := by
  unfold sorted
  rw [List.mem_mergeSort, List.mem_flatMap]
  constructor
  · rintro ⟨x, hx, hf⟩
    have hgroup : g.group x.1 = x.2 := by
      simp [group, lookup_of_mem h.distinct hx]
    rw [← hgroup] at hf
    rw [((h.groups x.1).mem f).mp hf |>.1]
    exact hf
  · intro hf
    unfold group at hf
    cases hl : g.entries.lookup f.locations with
    | none =>
      rw [hl] at hf
      exact nomatch hf
    | some group =>
      rw [hl] at hf
      obtain ⟨before, after, hsplit, _⟩ := List.lookup_eq_some_iff.mp hl
      exact ⟨(f.locations, group), by simp [hsplit], hf⟩

/-- **Merging keeps** the findings with a name, and those for which no name is known. -/
theorem mem_sorted_foldl_add {fs : List Finding} {f : Finding} :
    f ∈ (fs.foldl Groups.add {}).sorted ↔ f.Kept fs := by
  have hexact := exact_foldl_add fs
  rw [hexact.mem_sorted, (hexact.groups f.locations).mem f]
  simp

/-- Neither the order of the findings nor their repetition matters. -/
theorem mem_sorted_foldl_add_congr {fs fs' : List Finding} (h : ∀ f, f ∈ fs ↔ f ∈ fs')
    (f : Finding) :
    f ∈ (fs.foldl Groups.add {}).sorted ↔ f ∈ (fs'.foldl Groups.add {}).sorted := by
  simp only [mem_sorted_foldl_add, Finding.Kept, h]

end Groups

end DropFlow
