/-
  DropFlow/Proofs/Flow/Termination.lean
  =====================================
  The analysis ends, in whatever order its work is taken.

  `State.Expands` is the expansion without a bound on its rounds.  It comes to its end by
  itself, because the activations that can be reached are finitely many; the bound of
  `expandFrom` only makes this visible to the recursion.

  The propagation has no bound at all.  Between the bounds that hold at its start, every
  step leaves less room for objects, or as much room and less work, whichever item it
  takes; so that there is no endless run (`wellFounded_next`).  The cells that are created
  on the way lie in slots of the expanded graph and are made of its steps (`Projects`).
-/
import DropFlow.Proofs.Flow.Activations
import DropFlow.Proofs.Flow.Confluence

namespace DropFlow.Flow

/-! ### 1. The expansion -/

/-- The expansion without a bound: it goes on until everything reached is expanded, or until an
    activation cannot be. -/
inductive State.Expands (config : Config) : State → State × Option AnalysisError → Prop
  | done {s : State} : s.reached[s.expanded]? = none → Expands config s (s, none)
  | abort {s s' : State} {a : Activation} {e : AnalysisError} :
      s.reached[s.expanded]? = some a →
      expandOne config { s with expanded := s.expanded + 1 } a = (s', some e) →
      Expands config s (s', some e)
  | next {s s' : State} {a : Activation} {r : State × Option AnalysisError} :
      s.reached[s.expanded]? = some a →
      expandOne config { s with expanded := s.expanded + 1 } a = (s', none) →
      Expands config s' r → Expands config s r

theorem State.expands_of_expand {config : Config} (fuel : Nat) :
    ∀ {s s' : State} {failure : Option AnalysisError}, s.expand config fuel = (s', failure) →
      (failure = none → s'.expanded = s'.reached.length) → s.Expands config (s', failure) := by
  induction fuel with
  | zero =>
    intro s s' failure h hend
    cases h
    exact .done (by simp [hend rfl])
  | succ fuel ih =>
    intro s s' failure h hend
    rw [State.expand] at h
    split at h
    · rename_i hnone
      cases h
      exact .done hnone
    · rename_i a ha
      split at h
      · rename_i s₁ hs₁
        exact .next ha hs₁ (ih h hend)
      · rename_i s₁ e hs₁
        cases h
        exact .abort ha hs₁

/-- **The expansion ends by itself.** -/
theorem expands_expandFrom {p : Program} (hp : p.Coherent) (config : Config) (entry : Int) :
    (State.start p entry).Expands config (expandFrom p config entry) := by
  rcases hres : expandFrom p config entry with ⟨s, failure⟩
  apply State.expands_of_expand _ hres
  intro hnone
  subst hnone
  exact expanded_eq_length hp hres

/-! ### 2. The propagation -/

/-- A step, whichever item it takes, keeps within the bounds and gets closer to the end. -/
theorem Within.next {r : Rules} {b : Bounds} {w w' : Stage} (h : Within r b w.graph w.pending)
    (hnext : w.Next r w') : Within r b w'.graph w'.pending ∧
      Prod.Lex (· < ·) (· < ·) (room b w'.graph, w'.pending.length)
        (room b w.graph, w.pending.length) := by
  obtain ⟨item, rest, hperm, hgraph, hpending⟩ := hnext
  have htaken : Within r b w.graph (item :: rest) :=
    h.withPending fun i hi => h.pending i (hperm.mem_iff.mpr hi)
  rw [hgraph, hpending.length_eq, hperm.length_eq]
  constructor
  · apply htaken.propagate.withPending
    intro i hi
    exact htaken.propagate.pending i (hpending.mem_iff.mp hi)
  · rcases room_lex_propagate htaken with hlt | ⟨heq, hlt⟩
    · exact Prod.Lex.left _ _ hlt
    · rw [heq]
      exact Prod.Lex.right _ hlt

theorem acc_next_of_within {r : Rules} {b : Bounds} (w : Stage)
    (h : Within r b w.graph w.pending) : Acc (fun w' w : Stage => w.Next r w') w :=
  Acc.intro w fun w' hnext => acc_next_of_within w' (h.next hnext).1
termination_by (room b w.graph, w.pending.length)
decreasing_by exact (h.next hnext).2

/-- **No run of the propagation is endless**, in whatever order it takes the work. -/
theorem wellFounded_next (r : Rules) : WellFounded fun w' w : Stage => w.Next r w' :=
  ⟨fun w => acc_next_of_within w (within_start r w.graph w.pending)⟩

/-! ### 3. The cells that are created -/

/-- An address that a graph may come to have: it lies in a slot of the graph, its steps occur in
    the graph, and it is not too deep. -/
structure Graph.Projects (g : Graph) (limit : Nat) (address : Activation × Place) : Prop where
  slot : ∃ id c, g.cell? id = some c ∧ c.activation = address.1 ∧ c.place.slot = address.2.slot
  steps : ∀ step ∈ address.2.steps, ∃ id c, g.cell? id = some c ∧ step ∈ c.place.steps
  depth : address.2.depth ≤ limit

/-- The addresses of a graph and those that it may come to have, whatever they hold. -/
def Graph.projected (g : Graph) (limit : Nat) : Family where
  cells := fun address =>
    (∃ id c, g.cell? id = some c ∧ c.address = address) ∨ g.Projects limit address
  holds := fun _ _ => True

theorem Graph.closed_projected (g : Graph) (limit : Nat) :
    (g.projected limit).Closed limit g where
  expanded := fun id c hc => Or.inl ⟨id, c, hc, rfl⟩
  seeds := fun _ _ _ _ => trivial
  flows := fun _ _ _ _ _ _ _ _ => trivial
  parts := fun _ _ _ _ _ _ _ _ => trivial
  sameParts := fun e _ s t _ ht q hq _ hdepth _ _ => by
    refine ⟨Or.inr ⟨⟨e.target, t, ht, rfl, rfl⟩, ?_, hdepth⟩, trivial⟩
    intro step hstep
    rcases List.mem_append.mp hstep with hstep | hstep
    · exact ⟨e.target, t, ht, hstep⟩
    · have hmem : step ∈ q.steps := List.mem_of_mem_drop hstep
      rcases hq with ⟨id, c, hc, haddr⟩ | hq
      · have hplace : c.place = q := congrArg Prod.snd haddr
        exact ⟨id, c, hc, hplace ▸ hmem⟩
      · exact hq.steps step hmem

/-- A cell that a run creates is made of what the expanded graph has. -/
theorem Runs.projects {r : Rules} {w w' : Stage} (hw : w.Seeded) (hrun : Runs r w w') {id : Int}
    {c : Cell} (hc : w'.graph.cell? id = some c) (hnew : w.graph.cell? id = none) :
    w.graph.Projects r.limit c.address := by
  have hcontains := (w.graph.closed_projected r.limit).contains_of_runs hw hrun
  rcases (hcontains id c hc).1 with ⟨j, d, hd, haddr⟩ | hprojects
  · -- an address of the expanded graph keeps its number, which is not a new one
    obtain ⟨d', hd', halike, _⟩ := (hrun.evolves hw.placed).old j d hd
    have hid : j = id := Graph.eq_of_address_eq hd' hc (halike.address.trans haddr)
    rw [hid, hnew] at hd
    exact nomatch hd
  · exact hprojects

theorem depthLimit_eq (config : Config) : (config.depthLimit : Int) =
    if config.options.maxDepth ≤ 0 then defaultMaxDepth else config.options.maxDepth := by
  have hdefault : (0 : Int) < defaultMaxDepth := by decide
  unfold Config.depthLimit
  split <;> omega

/-- **The analysis ends.**  For every program that can be built, every configuration and every
    entry, the expansion ends by itself; there is no endless run of the propagation, in whatever
    order the work is taken; and a cell that is created on the way lies in a slot of the expanded
    graph, has steps of the expanded graph only, and keeps within the depth limit, for which the
    default stands in when none is set. -/
theorem analysis_terminates {p : Program} (hp : p.Built) (config : Config) (entry : Int) :
    (State.start p entry).Expands config (expandFrom p config entry) ∧
      (∀ r : Rules, WellFounded fun w' w : Stage => w.Next r w') ∧
      (config.depthLimit : Int) =
        (if config.options.maxDepth ≤ 0 then defaultMaxDepth else config.options.maxDepth) ∧
      ∀ s, expandFrom p config entry = (s, none) →
        ∀ w, Runs (rules s.program config) ⟨s.graph, s.pending⟩ w →
          ∀ id c, w.graph.cell? id = some c → s.graph.cell? id = none →
            s.graph.Projects config.depthLimit c.address := by
  refine ⟨expands_expandFrom hp.coherent config entry, wellFounded_next,
    depthLimit_eq config, ?_⟩
  intro s hexpand w hrun id c hc hnew
  exact hrun.projects (seeded_expandFrom hexpand) hc hnew

theorem built_handover : handoverProgram.Built :=
  Program.built_of_names [handover] (by decide) (by decide)

/-- The first item of work creates the same part of the target. -/
theorem analysis_terminates_handover :
    handoverProgram.Built ∧ expandFrom handoverProgram {} 0 = (handoverState, none) ∧
      ∃ w c, Runs (rules handoverState.program {}) ⟨handoverState.graph, handoverState.pending⟩ w ∧
        w.graph.cell? 3 = some c ∧ handoverState.graph.cell? 3 = none ∧
        c.address = (⟨0, .entry⟩, ⟨2, [.field 0]⟩) ∧
        handoverState.graph.Projects 6 c.address := by
  obtain ⟨_, _, _, hcreated⟩ := analysis_terminates built_handover {} 0
  let step := propagate (rules handoverState.program {}) handoverState.graph ⟨2, .singleton 2⟩
  have hrun : Runs (rules handoverState.program {}) ⟨handoverState.graph, handoverState.pending⟩
      ⟨step.graph, [⟨1, .singleton 1⟩] ++ step.work⟩ :=
    Relation.ReflTransGen.single
      ⟨⟨2, .singleton 2⟩, [⟨1, .singleton 1⟩], by decide +kernel, rfl, List.Perm.refl _⟩
  have hcell : ∃ c, step.graph.cell? 3 = some c ∧ c.address = (⟨0, .entry⟩, ⟨2, [.field 0]⟩) :=
    ⟨{ activation := ⟨0, .entry⟩, place := ⟨2, [.field 0]⟩ }, by decide +kernel, rfl⟩
  obtain ⟨c, hc, haddr⟩ := hcell
  have hnew : handoverState.graph.cell? 3 = none := by decide +kernel
  exact ⟨built_handover, expandFrom_handover, _, c, hrun, hc, hnew, haddr,
    hcreated handoverState expandFrom_handover _ hrun 3 c hc hnew⟩

end DropFlow.Flow
