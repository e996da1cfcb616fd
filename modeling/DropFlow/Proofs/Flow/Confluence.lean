/-
  DropFlow/Proofs/Flow/Confluence.lean
  ====================================
  The order of the work does not matter, and nothing is added without need.

  A family of cells and objects is closed when it contains the expanded cells and obeys
  the rules of the propagation.  No run leaves a closed family (`Family.Bounds`), and the
  outcome of a run that leaves no work is a closed family itself.  So the outcome is the
  least closed family, whatever the order was: two runs end with the same cells, the
  same objects and the same marks.
-/
import DropFlow.Proofs.Flow.Fixpoint

namespace DropFlow.Flow

/-! ### 1. Families -/

/-- A family of cells, by address, and of the objects that each of them holds. -/
structure Family where
  cells : Activation × Place → Prop
  holds : Activation × Place → Int → Prop

/-- The cells of a graph and what they hold. -/
def Graph.family (g : Graph) : Family where
  cells := fun address => ∃ id, g.find? address.1 address.2 = some id
  holds := fun address o => ∃ id, g.find? address.1 address.2 = some id ∧ o ∈ g.pointsTo id

namespace Family

/-- A family that contains the cells of an expanded graph and is closed under the rules. -/
structure Closed (F : Family) (limit : Nat) (g : Graph) : Prop where
  expanded : ∀ id c, g.cell? id = some c → F.cells c.address
  seeds : ∀ id c, g.cell? id = some c → c.isObject = true → F.holds c.address id
  flows : ∀ e ∈ g.edges.toList, ∀ s t, g.cell? e.source = some s → g.cell? e.target = some t →
    ∀ o, F.holds s.address o → F.holds t.address o
  parts : ∀ a p q, F.cells (a, p) → F.cells (a, q) → p.StrictPrefix q →
    ∀ o, F.holds (a, p) o → F.holds (a, q) o
  sameParts : ∀ e ∈ g.edges.toList, ∀ s t, g.cell? e.source = some s →
    g.cell? e.target = some t → ∀ q, F.cells (s.activation, q) →
    s.place.StrictPrefix q → (t.place.append (s.place.stepsTo q)).depth ≤ limit →
    ∀ o, F.holds (s.activation, q) o →
      F.cells (t.activation, t.place.append (s.place.stepsTo q)) ∧
        F.holds (t.activation, t.place.append (s.place.stepsTo q)) o

/-- The cells of a graph and their objects belong to a family. -/
def Contains (F : Family) (g : Graph) : Prop :=
  ∀ id c, g.cell? id = some c → F.cells c.address ∧ ∀ o ∈ c.objects, F.holds c.address o

/-- The cells of a stage, their objects and the work belong to a family. -/
structure Bounds (F : Family) (w : Stage) : Prop where
  graph : F.Contains w.graph
  work : ∀ item ∈ w.pending, ∀ c, w.graph.cell? item.cell = some c →
    ∀ o ∈ item.objects, F.holds c.address o

variable {F : Family} {limit : Nat} {g₀ : Graph}

theorem Closed.of_owes (hF : F.Closed limit g₀) (hanchored : g₀.Anchored) {g : Graph}
    (hevolves : g₀.Evolves g) (hg : F.Contains g) {address : Activation × Place} {o : Int}
    (howes : Owes limit g address o) : F.cells address ∧ F.holds address o := by
  -- the ends of an edge are expanded cells
  have hends : ∀ {e : Edge} {s t : Cell}, e ∈ g.edges.toList → g.cell? e.source = some s →
      g.cell? e.target = some t → e ∈ g₀.edges.toList ∧ ∃ s₀ t₀, g₀.cell? e.source = some s₀ ∧
        g₀.cell? e.target = some t₀ ∧ s₀.Alike s ∧ t₀.Alike t := by
    intro e s t he hs ht
    rw [hevolves.edges] at he
    obtain ⟨⟨s₀, hs₀⟩, t₀, ht₀⟩ := hanchored e he
    obtain ⟨s', hs', hsalike, _⟩ := hevolves.old _ s₀ hs₀
    obtain ⟨t', ht', htalike, _⟩ := hevolves.old _ t₀ ht₀
    rw [hs'] at hs
    rw [ht'] at ht
    cases hs
    cases ht
    exact ⟨he, s₀, t₀, hs₀, ht₀, hsalike, htalike⟩
  cases howes with
  | @seed id c hc hobject =>
    refine ⟨(hg o c hc).1, ?_⟩
    obtain ⟨c₀, hc₀⟩ := hevolves.dropped o c hc hobject
    obtain ⟨c', hc', halike, _⟩ := hevolves.old o c₀ hc₀
    rw [hc'] at hc
    cases hc
    rw [halike.address]
    refine hF.seeds o c₀ hc₀ ?_
    rw [Cell.isObject_iff] at hobject ⊢
    exact halike.drops ▸ hobject
  | @flow e s t _ he hs ht ho =>
    refine ⟨(hg _ t ht).1, ?_⟩
    obtain ⟨he₀, s₀, t₀, hs₀, ht₀, hsalike, htalike⟩ := hends he hs ht
    rw [htalike.address]
    refine hF.flows e he₀ s₀ t₀ hs₀ ht₀ o ?_
    rw [← hsalike.address]
    exact (hg _ s hs).2 o ho
  | @part i j c d _ hc hd hact hcov ho =>
    refine ⟨(hg _ d hd).1, ?_⟩
    have hcell : F.cells (d.activation, c.place) := hact ▸ (hg _ c hc).1
    have hholds : F.holds (d.activation, c.place) o := hact ▸ (hg _ c hc).2 o ho
    exact hF.parts d.activation c.place d.place hcell (hg _ d hd).1 hcov o hholds
  | @same e s t j c _ he hs ht hc hact hcov ho hdepth =>
    obtain ⟨he₀, s₀, t₀, hs₀, ht₀, hsalike, htalike⟩ := hends he hs ht
    have hact₀ : s₀.activation = c.activation := hsalike.activation.symm.trans hact
    have hcell : F.cells (s₀.activation, c.place) := hact₀ ▸ (hg _ c hc).1
    have hholds : F.holds (s₀.activation, c.place) o := hact₀ ▸ (hg _ c hc).2 o ho
    rw [hsalike.place] at hcov
    rw [htalike.place, hsalike.place] at hdepth
    rw [htalike.activation, htalike.place, hsalike.place]
    exact hF.sameParts e he₀ s₀ t₀ hs₀ ht₀ c.place hcell hcov hdepth o hholds

theorem Closed.bounds_of_seeded {w : Stage} (hF : F.Closed limit w.graph) (hw : w.Seeded) :
    F.Bounds w where
  graph := fun id c hc => by
    refine ⟨hF.expanded id c hc, fun o ho => ?_⟩
    rw [hw.hollow id c hc] at ho
    exact absurd ho (IdSet.not_mem_empty o)
  work := fun item hitem c hc o ho => by
    obtain ⟨d, hd, hobject, hself⟩ := hw.work item hitem
    rw [hd] at hc
    cases hc
    rw [hself, IdSet.mem_singleton] at ho
    rw [ho]
    exact hF.seeds _ c hd hobject

theorem Contains.absorb {g : Graph} (hg : F.Contains g) {id : Int} {delta : IdSet} {c : Cell}
    (hc : g.cell? id = some c) (hdelta : ∀ o ∈ delta, F.holds c.address o) :
    F.Contains (Flow.absorb g id delta) := by
  intro j d hd
  obtain ⟨d₀, hd₀, halike, hobjects⟩ := exists_cell_of_absorb hd
  rw [halike.address]
  refine ⟨(hg j d₀ hd₀).1, fun o ho => ?_⟩
  rcases (hobjects o).mp ho with ho | ⟨rfl, ho⟩
  · exact (hg j d₀ hd₀).2 o ho
  · rw [hc] at hd₀
    cases hd₀
    exact hdelta o ho

theorem Bounds.next {r : Rules} {w w' : Stage} (hF : F.Closed r.limit g₀)
    (hanchored : g₀.Anchored) (hevolves : g₀.Evolves w.graph) (hw : w.Placed) (h : F.Bounds w)
    (hnext : w.Next r w') : F.Bounds w' := by
  have hstep := hnext.evolves hw
  obtain ⟨item, rest, c, hperm, hc, hcases⟩ := hnext.cases hw
  have hitem : item ∈ w.pending := hperm.mem_iff.mpr (List.mem_cons_self ..)
  -- the work that was there has its cells, with the same addresses
  have hwork : ∀ i ∈ rest, ∀ d, w'.graph.cell? i.cell = some d →
      ∀ o ∈ i.objects, F.holds d.address o := by
    intro i hi d hd o ho
    have hold : i ∈ w.pending := hperm.mem_iff.mpr (List.mem_cons_of_mem _ hi)
    obtain ⟨d₀, hd₀⟩ := hw.work i hold
    obtain ⟨d', hd', halike, _⟩ := hstep.old _ d₀ hd₀
    rw [hd'] at hd
    cases hd
    rw [halike.address]
    exact h.work i hold d₀ hd₀ o ho
  rcases hcases with ⟨_, hsame, hpending⟩ | ⟨work, hadv, hpending⟩
  · refine ⟨?_, ?_⟩
    · rw [hsame]
      exact h.graph
    · intro i hi
      exact hwork i (hpending.mem_iff.mp hi)
  · have habsorb : F.Contains (Flow.absorb w.graph item.cell
        (w.graph.missing item.cell item.objects)) := by
      refine h.graph.absorb hc fun o ho => ?_
      rw [Graph.missing, IdSet.mem_diff] at ho
      exact h.work item hitem c hc o ho.1
    have hgraph : F.Contains w'.graph := by
      intro j d hd
      cases hold : (Flow.absorb w.graph item.cell
          (w.graph.missing item.cell item.objects)).cell? j with
      | some d' =>
        rw [hadv.ext.old j d' hold] at hd
        cases hd
        exact habsorb j d hold
      | none =>
        obtain ⟨o, howes⟩ := hadv.new j d hd hold
        refine ⟨(hF.of_owes hanchored (hevolves.trans (evolves_absorb _ _ _)) habsorb howes).1, ?_⟩
        intro o' ho'
        rw [hadv.ext.old_of_nonempty hd (Or.inl ⟨o', ho'⟩)] at hold
        cases hold
    refine ⟨hgraph, fun i hi d hd o ho => ?_⟩
    rcases List.mem_append.mp (hpending.mem_iff.mp hi) with hi | hi
    · exact hwork i hi d hd o ho
    · obtain ⟨d', hd', howes⟩ := hadv.sound i hi
      rw [hd'] at hd
      cases hd
      exact (hF.of_owes hanchored (hevolves.trans hstep) hgraph (howes o ho)).2

/-- No run leaves a closed family. -/
theorem Closed.contains_of_runs {r : Rules} {w w' : Stage} (hw : w.Seeded)
    (hF : F.Closed r.limit w.graph) (hrun : Runs r w w') : F.Contains w'.graph := by
  have hboth : w.graph.Evolves w'.graph ∧ F.Bounds w' := by
    refine hrun.induction (P := fun v => w.graph.Evolves v.graph ∧ F.Bounds v) hw.placed
      ⟨Graph.Evolves.refl _, hF.bounds_of_seeded hw⟩ fun v v' hv hnext h => ?_
    exact ⟨h.1.trans (hnext.evolves hv), h.2.next hF hw.anchored h.1 hv hnext⟩
  exact hboth.2.graph

end Family

/-! ### 2. The outcome as a family -/

theorem Graph.family_holds_iff {g : Graph} {id o : Int} {c : Cell} (hc : g.cell? id = some c) :
    g.family.holds c.address o ↔ o ∈ c.objects := by
  have hfind : g.find? c.address.1 c.address.2 = some id :=
    Graph.find?_eq_some_iff.mpr ⟨c, hc, rfl⟩
  rw [← Graph.pointsTo_of_cell? hc]
  constructor
  · rintro ⟨j, hj, ho⟩
    rw [hfind] at hj
    cases hj
    exact ho
  · intro ho
    exact ⟨id, hfind, ho⟩

/-- A later graph with closed sets is a closed family. -/
theorem Graph.Closed.family {limit : Nat} {g₀ g : Graph} (hclosed : g.Closed limit)
    (hevolves : g₀.Evolves g) : g.family.Closed limit g₀ where
  expanded := fun id c hc => by
    obtain ⟨c', hc', halike, _⟩ := hevolves.old id c hc
    exact ⟨id, Graph.find?_eq_some_iff.mpr ⟨c', hc', halike.address⟩⟩
  seeds := fun id c hc hobject => by
    obtain ⟨c', hc', halike, _⟩ := hevolves.old id c hc
    refine ⟨id, Graph.find?_eq_some_iff.mpr ⟨c', hc', halike.address⟩, hclosed.seeds id ?_⟩
    obtain ⟨d, hd⟩ := Cell.isObject_iff.mp hobject
    rw [Graph.dropsOf_of_cell? hc', halike.drops]
    exact List.ne_nil_of_mem hd
  flows := fun e he s t hs ht o ho => by
    obtain ⟨s', hs', hsalike, _⟩ := hevolves.old _ s hs
    obtain ⟨t', ht', htalike, _⟩ := hevolves.old _ t ht
    rw [← hsalike.address, Graph.family_holds_iff hs', ← Graph.pointsTo_of_cell? hs'] at ho
    rw [← htalike.address, Graph.family_holds_iff ht', ← Graph.pointsTo_of_cell? ht']
    exact hclosed.flows e (by rw [hevolves.edges]; exact he) o ho
  parts := fun a p q _ hq hcov o ho => by
    obtain ⟨i, hi, ho⟩ := ho
    obtain ⟨j, hj⟩ := hq
    obtain ⟨c, hc, hca⟩ := Graph.find?_eq_some_iff.mp hi
    obtain ⟨d, hd, hda⟩ := Graph.find?_eq_some_iff.mp hj
    obtain ⟨hcact, hcplace⟩ := Prod.mk.inj hca
    obtain ⟨hdact, hdplace⟩ := Prod.mk.inj hda
    refine ⟨j, hj, ?_⟩
    rw [Graph.pointsTo_of_cell? hc] at ho
    rw [Graph.pointsTo_of_cell? hd]
    refine hclosed.parts i j c d hc hd (hcact.trans hdact.symm) ?_ o ho
    rw [hcplace, hdplace]
    exact hcov
  sameParts := fun e he s t hs ht q _ hcov hdepth o ho => by
    obtain ⟨n, hn, ho⟩ := ho
    obtain ⟨c, hc, hca⟩ := Graph.find?_eq_some_iff.mp hn
    have hcact : c.activation = s.activation := congrArg Prod.fst hca
    have hcplace : c.place = q := congrArg Prod.snd hca
    obtain ⟨s', hs', hsalike, _⟩ := hevolves.old _ s hs
    obtain ⟨t', ht', htalike, _⟩ := hevolves.old _ t ht
    rw [Graph.pointsTo_of_cell? hc] at ho
    rw [← hcplace, ← hsalike.place] at hcov
    rw [← hcplace, ← hsalike.place, ← htalike.place] at hdepth
    have hact : s'.activation = c.activation := hsalike.activation.trans hcact.symm
    obtain ⟨id, d, hfind, hd, hsub⟩ := hclosed.sameParts e (by rw [hevolves.edges]; exact he)
      n s' t' c hs' ht' hc hact hcov ⟨o, ho⟩ hdepth
    rw [htalike.activation, htalike.place, hsalike.place, hcplace] at hfind
    refine ⟨⟨id, hfind⟩, id, hfind, ?_⟩
    rw [Graph.pointsTo_of_cell? hd]
    exact hsub o ho

theorem Runs.family_closed {r : Rules} {w : Stage} {g : Graph} (hw : w.Seeded)
    (hrun : Runs r w ⟨g, []⟩) : g.family.Closed r.limit w.graph :=
  (hrun.closed hw).family (hrun.evolves hw.placed)

/-! ### 3. Any two orders -/

theorem Family.Closed.mono {F : Family} {limit limit' : Nat} {g : Graph} (h : F.Closed limit' g)
    (hle : limit ≤ limit') : F.Closed limit g :=
  { h with
    sameParts := fun e he s t hs ht q hq hcov hdepth =>
      h.sameParts e he s t hs ht q hq hcov (Nat.le_trans hdepth hle) }

section TwoRuns

variable {r r' : Rules} {w : Stage} {g₁ g₂ : Graph}

/-- A run with a greater limit has the cells of any other run, and they hold at least as much. -/
theorem Runs.find?_of_le (hw : w.Seeded) (hle : r.limit ≤ r'.limit) (hrun₁ : Runs r w ⟨g₁, []⟩)
    (hrun₂ : Runs r' w ⟨g₂, []⟩) {a : Activation} {p : Place} {i : Int}
    (hi : g₁.find? a p = some i) :
    ∃ j, g₂.find? a p = some j ∧ ∀ o ∈ g₁.pointsTo i, o ∈ g₂.pointsTo j := by
  have hcontains := ((hrun₂.family_closed hw).mono hle).contains_of_runs hw hrun₁
  obtain ⟨c, hc, haddr⟩ := Graph.find?_eq_some_iff.mp hi
  obtain ⟨⟨j, hj⟩, hholds⟩ := hcontains i c hc
  rw [haddr] at hj
  refine ⟨j, hj, fun o ho => ?_⟩
  rw [Graph.pointsTo_of_cell? hc] at ho
  obtain ⟨k, hk, ho⟩ := hholds o ho
  rw [haddr, hj] at hk
  cases hk
  exact ho

/-- An expanded cell has the same number in both outcomes. -/
theorem Runs.mem_pointsTo_of_le (hw : w.Seeded) (hle : r.limit ≤ r'.limit)
    (hrun₁ : Runs r w ⟨g₁, []⟩) (hrun₂ : Runs r' w ⟨g₂, []⟩) {id o : Int} {c₀ : Cell}
    (hc₀ : w.graph.cell? id = some c₀) (ho : o ∈ g₁.pointsTo id) : o ∈ g₂.pointsTo id := by
  have hfind : w.graph.find? c₀.activation c₀.place = some id :=
    Graph.find?_eq_some_iff.mpr ⟨c₀, hc₀, rfl⟩
  obtain ⟨j, hj, hsub⟩ := hrun₁.find?_of_le hw hle hrun₂ ((hrun₁.evolves hw.placed).find? hfind)
  rw [(hrun₂.evolves hw.placed).find? hfind] at hj
  cases hj
  exact hsub o ho

theorem Stage.Seeded.marksExact (hw : w.Seeded) : w.graph.MarksExact := by
  intro id
  constructor
  · intro hm
    rw [hw.unmarked] at hm
    exact absurd hm (IdSet.not_mem_empty id)
  · rintro ⟨c, hc, _, hsize⟩
    rw [hw.hollow id c hc] at hsize
    exact absurd hsize (Nat.not_lt_zero _)

theorem Runs.mem_multiDrop_of_le (hw : w.Seeded) (hle : r.limit ≤ r'.limit)
    (hrun₁ : Runs r w ⟨g₁, []⟩) (hrun₂ : Runs r' w ⟨g₂, []⟩) {id : Int}
    (hm : id ∈ g₁.multiDrop) : id ∈ g₂.multiDrop := by
  obtain ⟨c, hc, hobject, hsize⟩ := (hrun₁.marksExact hw.placed hw.marksExact id).mp hm
  -- an object is an expanded cell
  obtain ⟨c₀, hc₀⟩ := (hrun₁.evolves hw.placed).dropped id c hc hobject
  obtain ⟨c₁, hc₁, halike₁, _⟩ := (hrun₁.evolves hw.placed).old id c₀ hc₀
  obtain ⟨c₂, hc₂, halike₂, _⟩ := (hrun₂.evolves hw.placed).old id c₀ hc₀
  rw [hc] at hc₁
  cases hc₁
  have hsub : ∀ o ∈ c.objects, o ∈ c₂.objects := by
    intro o ho
    rw [← Graph.pointsTo_of_cell? hc] at ho
    rw [← Graph.pointsTo_of_cell? hc₂]
    exact hrun₁.mem_pointsTo_of_le hw hle hrun₂ hc₀ ho
  refine (hrun₂.marksExact hw.placed hw.marksExact id).mpr ⟨c₂, hc₂, ?_, ?_⟩
  · rw [Cell.isObject_iff] at hobject ⊢
    rw [halike₂.drops, ← halike₁.drops]
    exact hobject
  · exact Nat.lt_of_lt_of_le hsize (length_le_of_nodup_of_forall_mem (nodup_toList _) hsub)

theorem Runs.find?_of_runs (hw : w.Seeded) (hrun₁ : Runs r w ⟨g₁, []⟩)
    (hrun₂ : Runs r w ⟨g₂, []⟩) {a : Activation} {p : Place} {i : Int}
    (hi : g₁.find? a p = some i) :
    ∃ j, g₂.find? a p = some j ∧ ∀ o ∈ g₁.pointsTo i, o ∈ g₂.pointsTo j :=
  hrun₁.find?_of_le hw (Nat.le_refl _) hrun₂ hi

theorem Runs.pointsTo_eq (hw : w.Seeded) (hrun₁ : Runs r w ⟨g₁, []⟩) (hrun₂ : Runs r w ⟨g₂, []⟩)
    {a : Activation} {p : Place} {i j : Int} (hi : g₁.find? a p = some i)
    (hj : g₂.find? a p = some j) : g₁.pointsTo i = g₂.pointsTo j := by
  obtain ⟨j', hj', hsub⟩ := hrun₁.find?_of_runs hw hrun₂ hi
  obtain ⟨i', hi', hsup⟩ := hrun₂.find?_of_runs hw hrun₁ hj
  rw [hj] at hj'
  rw [hi] at hi'
  cases hj'
  cases hi'
  exact IdSet.ext fun o => ⟨hsub o, hsup o⟩

theorem Runs.mem_multiDrop_of_runs (hw : w.Seeded) (hrun₁ : Runs r w ⟨g₁, []⟩)
    (hrun₂ : Runs r w ⟨g₂, []⟩) {id : Int} (hm : id ∈ g₁.multiDrop) : id ∈ g₂.multiDrop :=
  hrun₁.mem_multiDrop_of_le hw (Nat.le_refl _) hrun₂ hm

end TwoRuns

/-- **Confluence and precision.**  Two runs that take the work of an expanded graph in any order
    until none is left end with the same cells, the same objects in each of them and the same
    marks; and the outcome is the least family that is closed under the rules. -/
theorem runs_confluent {p : Program} {config : Config} {entry : Int} {s : State} {g₁ g₂ : Graph}
    (hexpand : expandFrom p config entry = (s, none))
    (hrun₁ : Runs (rules s.program config) ⟨s.graph, s.pending⟩ ⟨g₁, []⟩)
    (hrun₂ : Runs (rules s.program config) ⟨s.graph, s.pending⟩ ⟨g₂, []⟩) :
    (∀ a q, (∃ i, g₁.find? a q = some i) ↔ ∃ j, g₂.find? a q = some j) ∧
      (∀ a q i j, g₁.find? a q = some i → g₂.find? a q = some j →
        g₁.pointsTo i = g₂.pointsTo j) ∧
      g₁.multiDrop = g₂.multiDrop ∧
      g₁.family.Closed config.depthLimit s.graph ∧
      ∀ F : Family, F.Closed config.depthLimit s.graph → F.Contains g₁ := by
  have hw := seeded_expandFrom hexpand
  refine ⟨fun a q => ⟨?_, ?_⟩, ?_, ?_, hrun₁.family_closed hw, ?_⟩
  · rintro ⟨i, hi⟩
    obtain ⟨j, hj, _⟩ := hrun₁.find?_of_runs hw hrun₂ hi
    exact ⟨j, hj⟩
  · rintro ⟨j, hj⟩
    obtain ⟨i, hi, _⟩ := hrun₂.find?_of_runs hw hrun₁ hj
    exact ⟨i, hi⟩
  · intro a q i j hi hj
    exact hrun₁.pointsTo_eq hw hrun₂ hi hj
  · exact IdSet.ext fun id => ⟨hrun₁.mem_multiDrop_of_runs hw hrun₂,
      hrun₂.mem_multiDrop_of_runs hw hrun₁⟩
  · intro F hF
    exact hF.contains_of_runs hw hrun₁

/-- Oldest work first and newest work first, on a graph with two seeds. -/
theorem runs_confluent_handover :
    handoverState.pending.length = 2 ∧
      (∀ a q i j, (handoverGraph handoverState.pending).find? a q = some i →
        (handoverGraph handoverState.pending.reverse).find? a q = some j →
        (handoverGraph handoverState.pending).pointsTo i =
          (handoverGraph handoverState.pending.reverse).pointsTo j) ∧
      (handoverGraph handoverState.pending).multiDrop =
        (handoverGraph handoverState.pending.reverse).multiDrop := by
  have hreverse := Runs.of_perm (List.reverse_perm handoverState.pending).symm
    (runs_solve (rules handoverState.program {}) handoverState.graph _)
  have hboth := runs_confluent expandFrom_handover (runs_solve _ _ _) hreverse
  exact ⟨by decide +kernel, hboth.2.1, hboth.2.2.1⟩

end DropFlow.Flow
