/-
  DropFlow/Proofs/Flow/Lockstep.lean
  ==================================
  Analyses of two programs that differ in the identifiers of their functions.

  The effects of an activation match those of the translated activation one by one
  (`Effect.Matches`); only what they announce may differ.  So the two expansions go in
  lockstep: whenever an effect can be carried out in the one, the other can carry out its
  match, and the states correspond again (`State.Renamed`).  When the one analysis
  succeeds, the other succeeds with the translated graph (`analyze_rename`).
-/
import DropFlow.Proofs.Flow.Renaming
import DropFlow.Proofs.Flow.Termination
import Mathlib.Data.List.Forall2

namespace DropFlow.Flow

variable {ρ : Equiv.Perm Int} {p q : Program} {config : Config}

/-! ### 1. Matching effects -/

/-- A reference to a cell under translated identifiers. -/
def CellRef.rename (ρ : Equiv.Perm Int) (c : CellRef) : CellRef :=
  { c with activation := c.activation.rename ρ }

/-- Effects that do the same up to a translation of the identifiers, whatever they announce. -/
inductive Effect.Matches (ρ : Equiv.Perm Int) : Effect → Effect → Prop
  | note (n n' : Notice) : Matches ρ (.note n) (.note n')
  | load (f : Int) : Matches ρ (.load f) (.load (ρ f))
  | touch (c : CellRef) : Matches ρ (.touch c) (.touch (c.rename ρ))
  | link (source target : CellRef) (site : Site) (passing : Graph.Passing)
      (news news' : Option Notice) : Matches ρ (.link source target site passing news)
        (.link (source.rename ρ) (target.rename ρ) (site.rename ρ) passing news')
  | drop (c : CellRef) (site : Site) : Matches ρ (.drop c site) (.drop (c.rename ρ) (site.rename ρ))
  | call (site : BlockRef) (callee : Int) :
      Matches ρ (.call site callee) (.call (site.rename ρ) (ρ callee))
  | abort (e e' : AnalysisError) : Matches ρ (.abort e) (.abort e')

/-- Lists of effects that match one by one. -/
abbrev Effect.AllMatch (ρ : Equiv.Perm Int) : List Effect → List Effect → Prop :=
  List.Forall₂ (Effect.Matches ρ)

theorem Effect.allMatch_flatMap {α : Type} {F G : α → List Effect} {list : List α}
    (h : ∀ x, AllMatch ρ (F x) (G x)) : AllMatch ρ (list.flatMap F) (list.flatMap G) := by
  induction list with
  | nil => exact .nil
  | cons x rest ih => exact List.rel_append (h x) ih

section Effects

variable (a callee : Activation) (f g : Body) (i j : Int)

theorem assignmentEffects_match (b : Block) (s : Assignment) :
    Effect.AllMatch ρ (assignmentEffects a f b s)
      (assignmentEffects (a.rename ρ) (f.renumber i) b s) := by
  unfold assignmentEffects
  dsimp only
  split
  · exact .cons (.note _ _) .nil
  · exact .cons (.link _ _ _ _ _ _) .nil

theorem argumentEffects_match (site : Site) (arguments : List Argument) : ∀ index : Nat,
    Effect.AllMatch ρ (argumentEffects a callee f g site index arguments)
      (argumentEffects (a.rename ρ) (callee.rename ρ) (f.renumber i) (g.renumber j)
        (site.rename ρ) index arguments) := by
  induction arguments with
  | nil => exact fun _ => .nil
  | cons arg rest ih =>
    intro index
    have hslot : (g.renumber j).slot? (index + 1 : Int) = g.slot? (index + 1 : Int) := rfl
    rw [argumentEffects, argumentEffects]
    refine List.rel_append ?_ (ih (index + 1))
    rw [hslot]
    split
    · exact .nil
    · split
      · exact .cons (.note _ _) .nil
      · exact .cons (.link _ _ _ _ _ _) .nil

theorem resultEffects_match (c : Call) (site : Site) :
    Effect.AllMatch ρ (resultEffects a callee f g c site)
      (resultEffects (a.rename ρ) (callee.rename ρ) (f.renumber i) (g.renumber j) c
        (site.rename ρ)) := by
  have hvalue : valueDestination (f.renumber i) c = valueDestination f c := rfl
  unfold resultEffects
  rw [hvalue]
  split
  · exact .cons (.abort _ _) .nil
  · exact .nil
  · exact .cons (.link _ _ _ _ _ _) .nil

theorem externalEffects_match (block : Int) (c : Call) :
    Effect.AllMatch ρ (externalEffects a f block c)
      (externalEffects (a.rename ρ) (f.renumber i) block c) := by
  have hvalue : valueDestination (f.renumber i) c = valueDestination f c := rfl
  unfold externalEffects
  rw [hvalue]
  dsimp only
  split
  · exact .cons (.abort _ _) .nil
  · exact .nil
  · refine .cons (.touch _) ?_
    rw [List.forall₂_map_left_iff, List.forall₂_map_right_iff, List.forall₂_same]
    exact fun arg _ => .link _ _ _ _ _ _

theorem targetEffects_match (h : p.Renamed ρ q) (block : Int) (c : Call) (target : Int) :
    Effect.AllMatch ρ (targetEffects p a f block c target)
      (targetEffects q (a.rename ρ) (f.renumber i) block c (ρ target)) := by
  unfold targetEffects
  refine .cons (.call _ _) (.cons (.load _) ?_)
  cases hp : p.body target with
  | ok g =>
    rw [h.body hp]
    exact List.rel_append (argumentEffects_match ..) (resultEffects_match ..)
  | error e =>
    -- the load in front of it ends both analyses
    obtain ⟨e', hq⟩ := h.exists_error hp
    rw [hq]
    exact .nil

theorem callEffects_match (h : p.Renamed ρ q) (block : Int) (c : Call) :
    Effect.AllMatch ρ (callEffects p config a f block c)
      (callEffects q config (a.rename ρ) (f.renumber i) block c) := by
  unfold callEffects
  rw [h.resolve]
  rcases resolve p config c.callee c.candidates with ⟨targets, kind⟩
  refine .cons (.note _ _) ?_
  cases kind with
  | resolved =>
    dsimp only
    rw [List.flatMap_map]
    exact Effect.allMatch_flatMap fun target => targetEffects_match a f i h block c target
  | external => exact externalEffects_match ..
  | passthrough => exact .nil
  | ignored => exact .nil

/-- **The effects of an activation match those of the translated one.** -/
theorem bodyEffects_match (h : p.Renamed ρ q) : Effect.AllMatch ρ (bodyEffects p config a f)
    (bodyEffects q config (a.rename ρ) (f.renumber i)) := by
  refine Effect.allMatch_flatMap fun b => ?_
  unfold blockEffects
  refine List.rel_append (Effect.allMatch_flatMap (assignmentEffects_match a f i b)) ?_
  cases b.terminator with
  | plain => exact .nil
  | drop place location => exact .cons (.drop _ _) .nil
  | call c => exact callEffects_match a f i h b.id c

end Effects

/-! ### 2. Corresponding states -/

/-- States of two analyses that correspond to each other. -/
structure State.Renamed (ρ : Equiv.Perm Int) (s s' : State) : Prop where
  program : s.program.Renamed ρ s'.program
  graph : s'.graph = s.graph.rename ρ
  pending : s'.pending = s.pending
  reached : s'.reached = s.reached.map (·.rename ρ)
  expanded : s'.expanded = s.expanded

namespace State.Renamed

variable {s s' t : State}

theorem announce (h : s.Renamed ρ s') (ns ns' : List Notice) :
    (s.announce ns).Renamed ρ (s'.announce ns') :=
  ⟨h.program, h.graph, h.pending, h.reached, h.expanded⟩

theorem load (h : s.Renamed ρ s') {f : Int} {b : Body} (hb : s.load f = (t, .ok b)) :
    ∃ t', s'.load (ρ f) = (t', .ok (b.renumber (ρ f))) ∧ t.Renamed ρ t' := by
  have hbody : s.program.body f = .ok b := by
    have hmap := congrArg Prod.snd hb
    simp only [State.load, h.program.coherent.fetch_body] at hmap
    cases hp : s.program.body f with
    | error e =>
      rw [hp] at hmap
      cases hmap
    | ok b' =>
      rw [hp] at hmap
      cases hmap
      rfl
  have ht : t = (s.load f).1 := by rw [hb]
  refine ⟨(s'.load (ρ f)).1, Prod.ext rfl ?_, ?_⟩
  · simp only [State.load, h.program.coherent'.fetch_body, h.program.body hbody]
    rfl
  · subst ht
    have hfetched : (s.program.fetch f).program.Renamed ρ (s'.program.fetch (ρ f)).program :=
      h.program.later (Relation.ReflTransGen.single ⟨f, rfl⟩)
        (Relation.ReflTransGen.single ⟨ρ f, rfl⟩)
    exact ⟨hfetched, h.graph, h.pending, h.reached, h.expanded⟩

theorem ensure (h : s.Renamed ρ s') (c : CellRef) :
    (s.ensure c).1.Renamed ρ (s'.ensure (c.rename ρ)).1 ∧
      (s'.ensure (c.rename ρ)).2 = (s.ensure c).2 := by
  have hcell := s.graph.ensure_rename ρ c.activation c.place c.name
  unfold State.ensure
  simp only [CellRef.rename, h.graph, hcell]
  exact ⟨⟨h.program, rfl, h.pending, h.reached, h.expanded⟩, trivial⟩

theorem link (h : s.Renamed ρ s') (source target : CellRef) (site : Site)
    (passing : Graph.Passing) (news news' : Option Notice) :
    (s.link source target site passing news).Renamed ρ
      (s'.link (source.rename ρ) (target.rename ρ) (site.rename ρ) passing news') := by
  obtain ⟨hfirst, hx⟩ := h.ensure source
  obtain ⟨hsecond, hy⟩ := hfirst.ensure target
  unfold State.link
  dsimp only
  rw [hx, hy]
  generalize (s.ensure source).1.ensure target = got at hsecond ⊢
  generalize (s'.ensure (source.rename ρ)).1.ensure (target.rename ρ) = got' at hsecond ⊢
  rw [hsecond.graph, Graph.hasEdge_rename, Graph.connect_rename]
  have hlinked : State.Renamed ρ
      { got.1 with
        graph := (got.1.graph.connect (s.ensure source).2 got.2 site passing).1
        pending := got.1.pending ++ (got.1.graph.connect (s.ensure source).2 got.2 site passing).2 }
      { got'.1 with
        graph := (got.1.graph.connect (s.ensure source).2 got.2 site passing).1.rename ρ
        pending := got'.1.pending ++
          (got.1.graph.connect (s.ensure source).2 got.2 site passing).2 } :=
    ⟨hsecond.program, rfl, by rw [hsecond.pending], hsecond.reached, hsecond.expanded⟩
  split
  · exact hlinked.announce _ _
  · exact hlinked

theorem drop (h : s.Renamed ρ s') (c : CellRef) (site : Site) :
    (s.drop c site).Renamed ρ (s'.drop (c.rename ρ) (site.rename ρ)) := by
  obtain ⟨hgot, hid⟩ := h.ensure c
  unfold State.drop
  dsimp only
  rw [hid, hgot.graph, Graph.addDrop_rename, Graph.dropsOf_rename, List.isEmpty_map, hgot.pending]
  exact ⟨hgot.program, rfl, rfl, hgot.reached, hgot.expanded⟩

theorem call (h : s.Renamed ρ s') (site : BlockRef) (callee : Int) :
    ({ s with calls := s.calls.add site callee }.reach
      ⟨callee, .call site.function site.block⟩).Renamed ρ
    ({ s' with calls := s'.calls.add (site.rename ρ) (ρ callee) }.reach
      ⟨ρ callee, .call (site.rename ρ).function (site.rename ρ).block⟩) := by
  have hrename : (⟨ρ callee, .call (site.rename ρ).function (site.rename ρ).block⟩ : Activation) =
      Activation.rename ρ ⟨callee, .call site.function site.block⟩ := rfl
  unfold State.reach
  dsimp only
  rw [hrename, h.reached]
  by_cases hin : (⟨callee, .call site.function site.block⟩ : Activation) ∈ s.reached
  · simp only [List.contains_iff_mem, hin, List.mem_map_of_mem, if_true]
    exact ⟨h.program, h.graph, h.pending, rfl, h.expanded⟩
  · simp only [List.contains_iff_mem, hin, List.mem_map, Activation.rename_inj, exists_eq_right,
      if_false]
    exact ⟨h.program, h.graph, h.pending, by simp, h.expanded⟩

/-- An effect that can be carried out has a match that can be carried out. -/
theorem apply (h : s.Renamed ρ s') {e e' : Effect} (hmatch : e.Matches ρ e')
    (happly : s.apply e = (t, none)) : ∃ t', s'.apply e' = (t', none) ∧ t.Renamed ρ t' := by
  cases hmatch with
  | note n n' =>
    cases happly
    exact ⟨_, rfl, h.announce _ _⟩
  | load f =>
    rw [State.apply] at happly
    split at happly
    · rename_i hload
      cases happly
      obtain ⟨t', hload', ht⟩ := h.load hload
      exact ⟨t', by rw [State.apply, hload'], ht⟩
    · cases happly
  | touch c =>
    cases happly
    exact ⟨_, rfl, (h.ensure c).1⟩
  | link source target site passing news news' =>
    cases happly
    exact ⟨_, rfl, h.link ..⟩
  | drop c site =>
    cases happly
    exact ⟨_, rfl, h.drop ..⟩
  | call site callee =>
    cases happly
    exact ⟨_, rfl, h.call ..⟩
  | abort e e' => cases happly

theorem applyAll {effects effects' : List Effect} (hmatch : Effect.AllMatch ρ effects effects') :
    ∀ {s s' : State}, s.Renamed ρ s' → s.applyAll effects = (t, none) →
      ∃ t', s'.applyAll effects' = (t', none) ∧ t.Renamed ρ t' := by
  induction hmatch with
  | nil =>
    intro s s' h happly
    cases happly
    exact ⟨s', rfl, h⟩
  | cons hfirst _ ih =>
    intro s s' h happly
    rw [State.applyAll] at happly
    split at happly
    · rename_i s₁ hs₁
      obtain ⟨s₁', hs₁', h₁⟩ := h.apply hfirst hs₁
      obtain ⟨t', ht', ht⟩ := ih h₁ happly
      exact ⟨t', by rw [State.applyAll, hs₁']; exact ht', ht⟩
    · cases happly

theorem expandOne (h : s.Renamed ρ s') {a : Activation}
    (hone : s.expandOne config a = (t, none)) :
    ∃ t', s'.expandOne config (a.rename ρ) = (t', none) ∧ t.Renamed ρ t' := by
  unfold State.expandOne at hone
  split at hone
  · cases hone
  · rename_i s₁ f hload
    obtain ⟨s₁', hload', h₁⟩ := h.load hload
    obtain ⟨t', ht', ht⟩ :=
      applyAll (bodyEffects_match a f (ρ a.function) h₁.program) h₁ hone
    have hfunction : (a.rename ρ).function = ρ a.function := rfl
    exact ⟨t', by rw [State.expandOne, hfunction, hload']; exact ht', ht⟩

/-- Two expansions from corresponding states go in lockstep. -/
theorem expands {r : State × Option AnalysisError} (hrun : s.Expands config r) (hr : r.2 = none) :
    ∀ {s' : State}, s.Renamed ρ s' →
      ∃ t', s'.Expands config (t', none) ∧ r.1.Renamed ρ t' := by
  induction hrun with
  | @done s hnone =>
    intro s' h
    refine ⟨s', .done ?_, h⟩
    rw [h.reached, h.expanded, List.getElem?_map, hnone]
    rfl
  | abort => cases hr
  | @next s s₁ a r ha hone _ ih =>
    intro s' h
    have hcount : State.Renamed ρ { s with expanded := s.expanded + 1 }
        { s' with expanded := s'.expanded + 1 } :=
      ⟨h.program, h.graph, h.pending, h.reached, by rw [h.expanded]⟩
    obtain ⟨s₁', hone', h₁⟩ := hcount.expandOne hone
    obtain ⟨t', hrun', ht⟩ := ih hr h₁
    refine ⟨t', .next ?_ hone' hrun', ht⟩
    rw [h.reached, h.expanded, List.getElem?_map, ha]
    rfl

end State.Renamed

/-! ### 3. The analysis -/

/-- An expansion has one outcome. -/
theorem State.Expands.unique {s : State} {r r' : State × Option AnalysisError}
    (h : s.Expands config r) (h' : s.Expands config r') : r = r' := by
  induction h with
  | done hnone =>
    cases h' with
    | done => rfl
    | abort ha => exact absurd (hnone.symm.trans ha) (by simp)
    | next ha => exact absurd (hnone.symm.trans ha) (by simp)
  | abort ha hone =>
    cases h' with
    | done hnone => exact absurd (hnone.symm.trans ha) (by simp)
    | abort ha' hone' =>
      rw [ha] at ha'
      cases ha'
      rw [hone] at hone'
      cases hone'
      rfl
    | next ha' hone' =>
      rw [ha] at ha'
      cases ha'
      rw [hone] at hone'
      cases hone'
  | next ha hone _ ih =>
    cases h' with
    | done hnone => exact absurd (hnone.symm.trans ha) (by simp)
    | abort ha' hone' =>
      rw [ha] at ha'
      cases ha'
      rw [hone] at hone'
      cases hone'
    | next ha' hone' hrest =>
      rw [ha] at ha'
      cases ha'
      rw [hone] at hone'
      cases hone'
      exact ih hrest

theorem expandFrom_rename (h : p.Renamed ρ q) {entry : Int} {s : State}
    (hexpand : expandFrom p config entry = (s, none)) :
    ∃ s', expandFrom q config (ρ entry) = (s', none) ∧ s.Renamed ρ s' := by
  have hstart : (State.start p entry).Renamed ρ (State.start q (ρ entry)) :=
    ⟨h, (Graph.rename_empty ρ).symm, rfl, rfl, rfl⟩
  -- the bounds of the two loops differ; both end where the expansion without a bound does
  have hrun := expands_expandFrom h.coherent config entry
  rw [hexpand] at hrun
  obtain ⟨s', hrun', hs⟩ := State.Renamed.expands hrun rfl hstart
  exact ⟨s', (expands_expandFrom h.coherent' config (ρ entry)).unique hrun', hs⟩

theorem programName_rename (h : p.Renamed ρ q) (f : Int) (place : Place) :
    programName q (ρ f) place = programName p f place := by
  unfold programName
  rw [h.coherent.fetch_body, h.coherent'.fetch_body]
  cases hp : p.body f with
  | ok b =>
    rw [h.body hp]
    rfl
  | error e =>
    obtain ⟨e', hq⟩ := h.exists_error hp
    rw [hq]

/-- **Two analyses in lockstep:** when the one succeeds, the other succeeds with the translated
    graph. -/
theorem analyze_rename (h : p.Renamed ρ q) {entry : Int}
    (hanalyze : (analyze p config entry).2 = none) :
    (analyze q config (ρ entry)).2 = none ∧
      (analyze q config (ρ entry)).1.graph = (analyze p config entry).1.graph.rename ρ := by
  obtain ⟨hbody, s, hexpand, hs⟩ := analyze_eq_iff.mp (Prod.ext rfl hanalyze)
  obtain ⟨s', hexpand', hrenamed⟩ := expandFrom_rename h hexpand
  have hp : analyze p config entry = (s.solve config entry, none) := Prod.ext hs hanalyze
  have hq : analyze q config (ρ entry) = (s'.solve config (ρ entry), none) :=
    analyze_eq_iff.mpr ⟨by rw [h.hasBody]; exact hbody, s', hexpand', rfl⟩
  have hrules : (rules s.program config).Renamed ρ (rules s'.program config) :=
    ⟨rfl, programName_rename hrenamed.program⟩
  rw [hp, hq]
  refine ⟨rfl, ?_⟩
  unfold State.solve
  rw [hrenamed.graph, hrenamed.pending]
  exact solve_rename hrules s.graph s.pending

end DropFlow.Flow
