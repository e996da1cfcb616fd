/-
  DropFlow/Proofs/Flow/Effects.lean
  =================================
  The expansion of a program as one list of effects.

  What an expansion builds is its `Outline`: the graph, the work, the calls and the
  activations reached.  An expansion that succeeds has carried out the effects of the
  activations that it expanded, in the order of their discovery, and nothing else
  (`Expansion`); the program only comes to keep more bodies.  What each effect keeps is
  therefore kept by the whole expansion.
-/
import DropFlow.Flow.Analysis
import DropFlow.Proofs.Program.Store

namespace DropFlow.Flow

/-! ### 1. Outlines -/

/-- What the effects build. -/
structure Outline where
  graph : Graph
  pending : List WorkItem
  calls : CallGraph
  reached : List Activation

/-- What a state has built. -/
def State.outline (s : State) : Outline := ⟨s.graph, s.pending, s.calls, s.reached⟩

/-- The cell of a reference, which is created if it does not exist. -/
def Graph.cellFor (g : Graph) (c : CellRef) : Graph × Int := g.ensure c.activation c.place c.name

namespace Outline

/-- Lets a cell flow into another one. -/
def link (w : Outline) (source target : CellRef) (site : Site) (passing : Graph.Passing) :
    Outline :=
  let first := w.graph.cellFor source
  let second := first.1.cellFor target
  let joined := second.1.connect first.2 second.2 site passing
  { w with graph := joined.1, pending := w.pending ++ joined.2 }

/-- Adds a drop site to a cell, and the work to make it hold itself if it is the first one. -/
def drop (w : Outline) (c : CellRef) (site : Site) : Outline :=
  let got := w.graph.cellFor c
  { w with
    graph := got.1.addDrop got.2 site
    pending :=
      if (got.1.dropsOf got.2).isEmpty then w.pending ++ [⟨got.2, .singleton got.2⟩]
      else w.pending }

/-- Records a call and reaches the activation of the callee. -/
def call (w : Outline) (site : BlockRef) (callee : Int) : Outline :=
  let a : Activation := ⟨callee, .call site.function site.block⟩
  { w with
    calls := w.calls.add site callee
    reached := if w.reached.contains a then w.reached else w.reached ++ [a] }

/-- Carries one effect out. -/
def carry (w : Outline) : Effect → Outline
  | .touch c => { w with graph := (w.graph.cellFor c).1 }
  | .link source target site passing _ => w.link source target site passing
  | .drop c site => w.drop c site
  | .call site callee => w.call site callee
  | .note _ => w
  | .load _ => w
  | .abort _ => w

/-- Carries effects out in order. -/
def carryAll (w : Outline) (effects : List Effect) : Outline := effects.foldl carry w

theorem carryAll_induction {P : Outline → Prop} {w : Outline} {effects : List Effect}
    (start : P w) (step : ∀ v e, e ∈ effects → P v → P (v.carry e)) : P (w.carryAll effects) := by
  induction effects generalizing w with
  | nil => exact start
  | cons e rest ih =>
    refine ih (step w e (List.mem_cons_self ..) start) fun v e' he' hv => ?_
    exact step v e' (List.mem_cons_of_mem _ he') hv

theorem reached_prefix_carry (w : Outline) (e : Effect) : w.reached <+: (w.carry e).reached := by
  cases e with
  | call site callee =>
    unfold carry call
    dsimp only
    split
    · exact List.prefix_refl _
    · exact List.prefix_append _ _
  | _ => exact List.prefix_refl _

theorem reached_prefix_carryAll (w : Outline) (effects : List Effect) :
    w.reached <+: (w.carryAll effects).reached :=
  carryAll_induction (P := fun v => w.reached <+: v.reached) (List.prefix_refl _)
    fun v e _ h => h.trans (reached_prefix_carry v e)

end Outline

/-! ### 2. States and outlines -/

namespace State

theorem outline_load (s : State) (f : Int) : (s.load f).1.outline = s.outline := rfl

theorem apply_load (s : State) (f : Int) : (s.apply (.load f)).1 = (s.load f).1 := by
  simp only [State.apply]
  rcases s.load f with ⟨t, _ | _⟩
  · rfl
  · rfl

theorem outline_link (s : State) (source target : CellRef) (site : Site) (passing : Graph.Passing)
    (news : Option Notice) :
    (s.link source target site passing news).outline =
      s.outline.link source target site passing := by
  unfold State.link
  dsimp only
  split <;> rfl

theorem outline_call (s : State) (site : BlockRef) (callee : Int) :
    ({ s with calls := s.calls.add site callee }.reach
      ⟨callee, .call site.function site.block⟩).outline = s.outline.call site callee := by
  unfold State.reach State.outline Outline.call
  dsimp only
  split <;> rfl

theorem outline_apply (s : State) (e : Effect) : (s.apply e).1.outline = s.outline.carry e := by
  cases e with
  | note n => rfl
  | load f =>
    rw [apply_load]
    exact outline_load s f
  | touch c => rfl
  | link source target site passing news => exact outline_link s source target site passing news
  | drop c site => rfl
  | call site callee => exact outline_call s site callee
  | abort e => rfl

theorem later_apply (s : State) (e : Effect) : s.program.Later (s.apply e).1.program := by
  cases e with
  | load f =>
    rw [apply_load]
    exact Relation.ReflTransGen.refl.tail ⟨f, rfl⟩
  | link source target site passing news =>
    unfold State.apply State.link
    dsimp only
    split <;> exact Relation.ReflTransGen.refl
  | call site callee =>
    unfold State.apply State.reach
    dsimp only
    split <;> exact Relation.ReflTransGen.refl
  | _ => exact Relation.ReflTransGen.refl

theorem expanded_apply (s : State) (e : Effect) : (s.apply e).1.expanded = s.expanded := by
  cases e with
  | load f =>
    rw [apply_load]
    rfl
  | link source target site passing news =>
    unfold State.apply State.link
    dsimp only
    split <;> rfl
  | call site callee =>
    unfold State.apply State.reach
    dsimp only
    split <;> rfl
  | _ => rfl

/-- Effects that do not end the analysis have all been carried out. -/
theorem applyAll_spec {s s' : State} {effects : List Effect}
    (h : s.applyAll effects = (s', none)) :
    s'.outline = s.outline.carryAll effects ∧ s.program.Later s'.program ∧
      s'.expanded = s.expanded := by
  induction effects generalizing s with
  | nil =>
    cases h
    exact ⟨rfl, Relation.ReflTransGen.refl, rfl⟩
  | cons e rest ih =>
    rw [applyAll] at h
    split at h
    · rename_i s₁ hs₁
      obtain ⟨houtline, hlater, hexpanded⟩ := ih h
      have hcarry := outline_apply s e
      have hprogram := later_apply s e
      have hcount := expanded_apply s e
      rw [hs₁] at hcarry hprogram hcount
      refine ⟨?_, hprogram.trans hlater, hexpanded.trans hcount⟩
      rw [houtline, hcarry]
      rfl
    · exact nomatch h

end State

/-! ### 3. The effects of an activation -/

/-- The effects of an activation, if its function has a usable body. -/
def activationEffects (p : Program) (config : Config) (a : Activation) : List Effect :=
  match (p.fetch a.function).body with
  | .ok f => bodyEffects p config a f
  | .error _ => []

theorem bodyEffects_congr {p q : Program} (h : p.SameSources q) (config : Config) (a : Activation)
    (f : Body) : bodyEffects q config a f = bodyEffects p config a f := by
  have htarget : targetEffects q = targetEffects p := by
    funext a f block c target
    unfold targetEffects
    rw [h.body target]
  have hcall : callEffects q config = callEffects p config := by
    funext a f block c
    unfold callEffects
    rw [h.resolve config, htarget]
  unfold bodyEffects
  congr 1
  funext b
  unfold blockEffects
  rw [hcall]

/-- Expanding an activation carries out its effects. -/
theorem expandOne_spec {p : Program} {config : Config} {s s' : State} {a : Activation}
    (hp : p.Later s.program) (h : s.expandOne config a = (s', none)) :
    (∃ f, (p.fetch a.function).body = .ok f) ∧
      s'.outline = s.outline.carryAll (activationEffects p config a) ∧ p.Later s'.program ∧
      s'.expanded = s.expanded := by
  unfold State.expandOne at h
  split at h
  · exact nomatch h
  · rename_i s₁ f hload
    have hprogram : s₁.program = (s.program.fetch a.function).program :=
      congrArg (fun r => r.1.program) hload.symm
    have hbody : (s.program.fetch a.function).body = .ok f := by
      have hmap := congrArg Prod.snd hload
      unfold State.load at hmap
      dsimp only at hmap
      cases hgot : (s.program.fetch a.function).body with
      | error e =>
        rw [hgot] at hmap
        exact nomatch hmap
      | ok f' =>
        rw [hgot] at hmap
        cases hmap
        rfl
    have houtline₁ : s₁.outline = s.outline :=
      congrArg (fun r => r.1.outline) hload.symm
    have hexpanded₁ : s₁.expanded = s.expanded :=
      congrArg (fun r => r.1.expanded) hload.symm
    have hp₁ : p.Later s₁.program := by
      rw [hprogram]
      exact hp.fetch a.function
    obtain ⟨houtline, hlater, hexpanded⟩ := State.applyAll_spec h
    have hfetched : (p.fetch a.function).body = .ok f :=
      (hp.alike.fetched a.function).symm.trans hbody
    refine ⟨⟨f, hfetched⟩, ?_, hp₁.trans hlater, hexpanded.trans hexpanded₁⟩
    rw [houtline, houtline₁, bodyEffects_congr hp₁.alike.toSameSources]
    unfold activationEffects
    rw [hfetched]

/-! ### 4. The expansion -/

/-- A state in which the first activations reached have been expanded, from a start. -/
structure Expansion (p : Program) (config : Config) (start : Outline) (s : State) : Prop where
  later : p.Later s.program
  expanded_le : s.expanded ≤ s.reached.length
  usable : ∀ a ∈ s.reached.take s.expanded, ∃ f, (p.fetch a.function).body = .ok f
  outline : s.outline =
    start.carryAll ((s.reached.take s.expanded).flatMap (activationEffects p config))

theorem Expansion.next {p : Program} {config : Config} {start : Outline} {s s' : State}
    {a : Activation} (hs : Expansion p config start s) (ha : s.reached[s.expanded]? = some a)
    (h : State.expandOne config { s with expanded := s.expanded + 1 } a = (s', none)) :
    Expansion p config start s' ∧ s'.expanded = s.expanded + 1 := by
  have hlater₀ : p.Later ({ s with expanded := s.expanded + 1 } : State).program := hs.later
  obtain ⟨husable, houtline, hlater, hexpanded⟩ := expandOne_spec hlater₀ h
  have hsame : ({ s with expanded := s.expanded + 1 } : State).outline = s.outline := rfl
  rw [hsame] at houtline
  have hlt : s.expanded < s.reached.length := (List.getElem?_eq_some_iff.mp ha).1
  have hprefix : s.reached <+: s'.reached := by
    have hcarried := Outline.reached_prefix_carryAll s.outline (activationEffects p config a)
    rw [← houtline] at hcarried
    exact hcarried
  have htake : s'.reached.take (s.expanded + 1) = s.reached.take s.expanded ++ [a] := by
    obtain ⟨more, hmore⟩ := hprefix
    rw [← hmore, List.take_append_of_le_length hlt, List.take_add_one, ha, Option.toList_some]
  refine ⟨⟨hlater, ?_, ?_, ?_⟩, hexpanded⟩
  · have hle := hprefix.length_le
    rw [hexpanded]
    exact Nat.le_trans hlt hle
  · intro b hb
    rw [hexpanded, htake, List.mem_append, List.mem_singleton] at hb
    rcases hb with hb | rfl
    · exact hs.usable b hb
    · exact husable
  · rw [hexpanded, htake, List.flatMap_append, List.flatMap_singleton, houtline, hs.outline]
    unfold Outline.carryAll
    rw [List.foldl_append]

theorem Expansion.expand {p : Program} {config : Config} {start : Outline} (fuel : Nat) :
    ∀ {s s' : State}, Expansion p config start s → s.expand config fuel = (s', none) →
      Expansion p config start s' ∧
        (s'.expanded = s.expanded + fuel ∨ s'.expanded = s'.reached.length) := by
  induction fuel with
  | zero =>
    intro s s' hs h
    cases h
    exact ⟨hs, Or.inl rfl⟩
  | succ fuel ih =>
    intro s s' hs h
    rw [State.expand] at h
    split at h
    · rename_i hnone
      cases h
      have hle := hs.expanded_le
      rw [List.getElem?_eq_none_iff] at hnone
      exact ⟨hs, Or.inr (by omega)⟩
    · rename_i a ha
      split at h
      · rename_i s₁ hs₁
        obtain ⟨hnext, hcount⟩ := hs.next ha hs₁
        obtain ⟨hs', hend⟩ := ih hnext h
        refine ⟨hs', ?_⟩
        rcases hend with hend | hend
        · exact Or.inl (by omega)
        · exact Or.inr hend
      · exact nomatch h

/-- What is there before the expansion from an entry. -/
def Outline.entry (entry : Int) : Outline := (State.start {} entry).outline

@[simp] theorem Outline.reached_entry (entry : Int) :
    (Outline.entry entry).reached = [⟨entry, .entry⟩] := rfl

@[simp] theorem Outline.cell?_entry (entry id : Int) :
    (Outline.entry entry).graph.cell? id = none := by
  simp [Outline.entry, State.outline, State.start, Graph.cell?]

/-- An expansion that succeeds has carried out the effects of the activations that it expanded. -/
theorem expansion_expandFrom {p : Program} {config : Config} {entry : Int} {s : State}
    (h : expandFrom p config entry = (s, none)) :
    Expansion p config (.entry entry) s ∧
      (s.expanded = activationBound p + 1 ∨ s.expanded = s.reached.length) := by
  have hstart : Expansion p config (.entry entry) (State.start p entry) :=
    { later := Relation.ReflTransGen.refl
      expanded_le := Nat.zero_le _
      usable := fun a ha => nomatch ha
      outline := rfl }
  obtain ⟨hs, hend⟩ := hstart.expand _ h
  refine ⟨hs, ?_⟩
  rcases hend with hend | hend
  · exact Or.inl (hend.trans (Nat.zero_add _))
  · exact Or.inr hend

end DropFlow.Flow
