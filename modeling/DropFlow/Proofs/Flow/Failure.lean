/-
  DropFlow/Proofs/Flow/Failure.lean
  =================================
  When an analysis is aborted.

  An effect fails when it asks for a body that cannot be had, or when it ends the analysis
  itself.  Among the effects of a block there is one that fails exactly when a function that
  the block calls does not lower, or when its call has a destination that is not declared
  and is looked at (`exists_fails_blockEffects_iff`).  Which of several failures comes first
  depends on the order of the expansion; whether there is one does not: an expansion ends
  well exactly when every function that the entry leads to is fit for it
  (`expandFrom_eq_none_iff`).
-/
import DropFlow.Proofs.Flow.Guarded
import DropFlow.Proofs.Resolution

namespace DropFlow

open DropFlow.Flow

/-! ### 1. Functions that cannot be analyzed -/

/-- A function may invoke another one by the call of one of its blocks. -/
def Program.Invokes (p : Program) (config : Config) (f g : Int) : Prop :=
  ∃ body, p.body f = .ok body ∧ ∃ b ∈ body.blocks, g ∈ b.targets p config

/-- The call of a block is resolved or external, and its destination lies in a slot that its
    function does not declare. -/
def Block.Misdirected (p : Program) (config : Config) (f : Body) (b : Block) : Prop :=
  ∃ c, b.terminator = .call c ∧
    ((resolve p config c.callee c.candidates).2 = .resolved ∨
      (resolve p config c.callee c.candidates).2 = .external) ∧
    ∃ place, c.destination = some place ∧ f.slot? place.slot = none

/-- A function that does not lower, or that has a block whose call is misdirected. -/
inductive Program.Unfit (p : Program) (config : Config) (f : Int) : Prop
  | lowering {e : Program.BodyError} : p.body f = .error e → Unfit p config f
  | destination {body : Body} {b : Block} : p.body f = .ok body → b ∈ body.blocks →
      b.Misdirected p config body → Unfit p config f

namespace Flow

/-! ### 2. Effects that fail -/

/-- An effect that ends the analysis. -/
def Effect.Fails (p : Program) : Effect → Prop
  | .load f => ∃ e, p.body f = .error e
  | .abort _ => True
  | _ => False

section Carrying

variable {p : Program} {config : Config} {s : State} {a : Activation}

theorem load_eq (hp : p.Coherent) (hlater : p.Later s.program) (f : Int) :
    (s.load f).2 = (p.body f).mapError (.unusableBody (p.name f)) := by
  have hbody : (s.program.fetch f).body = p.body f := by
    rw [hlater.alike.fetched, hp.fetch_body]
  have hname : (s.program.fetch f).program.name f = p.name f := (hlater.fetch f).alike.name f
  simp only [State.load, State.announce, hbody, hname]

theorem apply_eq_none_iff (hp : p.Coherent) (hlater : p.Later s.program) (e : Effect) :
    (s.apply e).2 = none ↔ ¬e.Fails p := by
  cases e with
  | load f =>
    have hload := load_eq hp hlater f
    simp only [State.apply, Effect.Fails]
    rcases hres : s.load f with ⟨s', result⟩
    rw [hres] at hload
    subst hload
    cases p.body f <;> simp [Except.mapError]
  | abort e => simp [State.apply, Effect.Fails]
  | _ => simp [State.apply, Effect.Fails]

/-- Effects are all carried out exactly when none of them fails. -/
theorem applyAll_eq_none_iff (hp : p.Coherent) {effects : List Effect} :
    ∀ {s : State}, p.Later s.program →
      ((s.applyAll effects).2 = none ↔ ∀ e ∈ effects, ¬e.Fails p) := by
  induction effects with
  | nil => simp [State.applyAll]
  | cons e rest ih =>
    intro s hlater
    have hfirst := apply_eq_none_iff hp hlater e
    have hlater' := hlater.trans (State.later_apply s e)
    rw [State.applyAll, List.forall_mem_cons, ← hfirst]
    rcases hres : s.apply e with ⟨s', failure⟩
    rw [hres] at hlater'
    cases failure with
    | none => simp [ih hlater']
    | some error => simp

theorem expandOne_eq_none_iff (hp : p.Coherent) (hlater : p.Later s.program) :
    (s.expandOne config a).2 = none ↔ (∃ f, p.body a.function = .ok f) ∧
      ∀ e ∈ activationEffects p config a, ¬e.Fails p := by
  have hload := load_eq hp hlater a.function
  have hlater' : p.Later (s.load a.function).1.program := hlater.fetch a.function
  simp only [State.expandOne, activationEffects, hp.fetch_body]
  rcases hres : s.load a.function with ⟨s', result⟩
  rw [hres] at hload hlater'
  subst hload
  cases p.body a.function with
  | error e => simp [Except.mapError]
  | ok f =>
    simp only [Except.mapError, bodyEffects_congr hlater'.alike.toSameSources,
      applyAll_eq_none_iff hp hlater']
    simp

end Carrying

/-! ### 3. The failures of a block -/

section Block

variable {p : Program} {config : Config} {a : Activation} {f : Body} {b : Block} {c : Call}

theorem valueDestination_eq_error_iff : (∃ e, valueDestination f c = .error e) ↔
    ∃ place, c.destination = some place ∧ f.slot? place.slot = none := by
  simp only [valueDestination]
  cases c.destination with
  | none => simp
  | some place => cases hslot : f.slot? place.slot <;> simp [hslot]

/-- One of the effects of a block fails exactly when a function that it calls does not lower, or
    when its call is misdirected. -/
theorem exists_fails_blockEffects_iff : (∃ e ∈ blockEffects p config a f b, e.Fails p) ↔
    (∃ t ∈ b.targets p config, ∃ e, p.body t = .error e) ∨ b.Misdirected p config f := by
  constructor
  · rintro ⟨e, he, hfails⟩
    rcases Block.brings_of_mem_blockEffects he with ⟨n, rfl⟩ | hbrings
    · exact hfails.elim
    · cases hbrings with
      | load ht => exact Or.inl ⟨_, ht, hfails⟩
      | abort hterm hlooked herror =>
        refine Or.inr ⟨_, hterm, ?_, valueDestination_eq_error_iff.mp ⟨_, herror⟩⟩
        rcases hlooked with hkind | ⟨t, ht, _⟩
        · exact Or.inr hkind
        · rw [Block.targets_of_call hterm] at ht
          exact Or.inl (resolve_eq_resolved_iff.mpr (List.ne_nil_of_mem ht))
      | _ => exact hfails.elim
  · have hload : ∀ t ∈ b.targets p config, (∃ e, p.body t = .error e) →
        ∃ e ∈ blockEffects p config a f b, e.Fails p := by
      intro t ht hbody
      obtain ⟨_, he⟩ := (Block.Brings.load (a := a) (f := f) ht).exists_mem
      exact ⟨_, he, hbody⟩
    rintro (⟨t, ht, hbody⟩ | ⟨c, hterm, hkind, hplace⟩)
    · exact hload t ht hbody
    · obtain ⟨failure, hfailure⟩ := valueDestination_eq_error_iff.mpr hplace
      have habort : b.Brings p config a f (.abort failure) →
          ∃ e ∈ blockEffects p config a f b, e.Fails p := by
        intro hbrings
        obtain ⟨_, he⟩ := hbrings.exists_mem
        exact ⟨_, he, trivial⟩
      rcases hkind with hkind | hkind
      · -- a target that does not lower fails before the destination is looked at
        obtain ⟨t, ht⟩ := List.exists_mem_of_ne_nil _ (resolve_eq_resolved_iff.mp hkind)
        rw [← Block.targets_of_call hterm] at ht
        cases hbody : p.body t with
        | error e => exact hload t ht ⟨e, hbody⟩
        | ok g => exact habort (.abort hterm (Or.inr ⟨t, ht, g, hbody⟩) hfailure)
      · exact habort (.abort hterm (Or.inl hkind) hfailure)

end Block

/-! ### 4. The failures of an expansion -/

/-- An activation that can be expanded. -/
def Fit (p : Program) (config : Config) (a : Activation) : Prop :=
  (∃ f, p.body a.function = .ok f) ∧ ∀ e ∈ activationEffects p config a, ¬e.Fails p

section Expansion

variable {p : Program} {config : Config} {entry : Int}

theorem Fit.not_unfit (hp : p.Coherent) {a : Activation} (h : Fit p config a) :
    ¬p.Unfit config a.function := by
  obtain ⟨⟨f, hf⟩, heffects⟩ := h
  simp only [activationEffects, hp.fetch_body, hf, bodyEffects, List.mem_flatMap] at heffects
  rintro (he | ⟨hbody, hb, hmisdirected⟩)
  · rw [hf] at he
    exact nomatch he
  · rw [hf] at hbody
    cases hbody
    obtain ⟨e, he, hfails⟩ := exists_fails_blockEffects_iff.mpr (Or.inr hmisdirected)
    exact heffects e ⟨_, hb, he⟩ hfails

/-- Where an activation cannot be expanded, its function or one that it invokes is unfit. -/
theorem exists_unfit_of_not_fit (hp : p.Coherent) {a : Activation} (h : ¬Fit p config a) :
    ∃ f, Relation.ReflTransGen (p.Invokes config) a.function f ∧ p.Unfit config f := by
  cases hbody : p.body a.function with
  | error e => exact ⟨a.function, .refl, .lowering hbody⟩
  | ok f =>
    simp only [Fit, hbody, activationEffects, hp.fetch_body, bodyEffects] at h
    push Not at h
    obtain ⟨e, he, hfails⟩ := h ⟨f, rfl⟩
    obtain ⟨b, hb, he⟩ := List.mem_flatMap.mp he
    rcases exists_fails_blockEffects_iff.mp ⟨e, he, hfails⟩ with ⟨t, ht, e', ht'⟩ | hmisdirected
    · exact ⟨t, .single ⟨f, hbody, b, hb, ht⟩, .lowering ht'⟩
    · exact ⟨a.function, .refl, .destination hbody hb hmisdirected⟩

/-- An expansion that succeeds has found every activation fit that it came to. -/
theorem State.Expands.fit (hp : p.Coherent) {s : State} {r : State × Option AnalysisError}
    (h : s.Expands config r) (hlater : p.Later s.program) (hnone : r.2 = none) :
    s.reached <+: r.1.reached ∧
      ∀ i a, s.expanded ≤ i → r.1.reached[i]? = some a → Fit p config a := by
  induction h with
  | @done s hend =>
    refine ⟨List.prefix_refl _, fun i a hi ha => ?_⟩
    rw [List.getElem?_eq_none_iff] at hend
    have hlt := (List.getElem?_eq_some_iff.mp ha).1
    dsimp only at hlt
    omega
  | abort _ _ => exact nomatch hnone
  | @next s s' a r ha hone _ ih =>
    have hlater₀ : p.Later ({ s with expanded := s.expanded + 1 } : State).program := hlater
    obtain ⟨_, houtline, hlater', hexpanded⟩ := expandOne_spec hlater₀ hone
    obtain ⟨hlonger, hfit⟩ := ih hlater' hnone
    have hgrows : s.reached <+: r.1.reached := by
      have hcarried := Outline.reached_prefix_carryAll s.outline (activationEffects p config a)
      have hreached : s'.reached = (s.outline.carryAll (activationEffects p config a)).reached :=
        congrArg Outline.reached houtline
      exact (hreached ▸ hcarried).trans hlonger
    refine ⟨hgrows, fun i b hi hb => ?_⟩
    rcases Nat.eq_or_lt_of_le hi with rfl | hlt
    · -- the activation that is expanded here keeps its place
      have hsame : r.1.reached[s.expanded]? = some a := by
        obtain ⟨more, hmore⟩ := hgrows
        rw [← hmore, List.getElem?_append_left (List.getElem?_eq_some_iff.mp ha).1, ha]
      rw [hsame] at hb
      cases hb
      exact (expandOne_eq_none_iff hp hlater₀).mp (congrArg Prod.snd hone)
    · apply hfit i b _ hb
      rw [hexpanded]
      exact hlt

/-- An expansion that fails has come to a function that is unfit, by calls. -/
theorem State.Expands.unfit (hp : p.Coherent) {s : State} {r : State × Option AnalysisError}
    (h : s.Expands config r) (hlater : p.Later s.program)
    (hreached : ∀ a ∈ s.reached, Relation.ReflTransGen (p.Invokes config) entry a.function)
    (hfailed : r.2 ≠ none) :
    ∃ f, Relation.ReflTransGen (p.Invokes config) entry f ∧ p.Unfit config f := by
  induction h with
  | done _ => exact absurd rfl hfailed
  | @abort s s' a e ha hone =>
    have hlater₀ : p.Later ({ s with expanded := s.expanded + 1 } : State).program := hlater
    have hnotfit : ¬Fit p config a := by
      intro hfit
      have hnone := (expandOne_eq_none_iff hp hlater₀).mpr hfit
      rw [hone] at hnone
      exact nomatch hnone
    obtain ⟨f, hway, hunfit⟩ := exists_unfit_of_not_fit hp hnotfit
    exact ⟨f, (hreached a (List.mem_of_getElem? ha)).trans hway, hunfit⟩
  | @next s s' a r ha hone _ ih =>
    have hlater₀ : p.Later ({ s with expanded := s.expanded + 1 } : State).program := hlater
    obtain ⟨_, houtline, hlater', _⟩ := expandOne_spec hlater₀ hone
    apply ih hlater' _ hfailed
    intro b hb
    have hb' : b ∈ (s.outline.carryAll (activationEffects p config a)).reached :=
      congrArg Outline.reached houtline ▸ hb
    rcases Outline.mem_reached_carryAll.mp hb' with hb' | ⟨site, callee, hcall, rfl⟩
    · exact hreached b hb'
    · obtain ⟨f, hf, b, hb, _, ht⟩ := call_mem_activationEffects.mp hcall
      rw [hp.fetch_body] at hf
      exact (hreached a (List.mem_of_getElem? ha)).tail ⟨f, hf, b, hb, ht⟩

/-- **The expansion succeeds** exactly when no function that the entry leads to is unfit. -/
theorem expandFrom_eq_none_iff (hp : p.Coherent) : (expandFrom p config entry).2 = none ↔
    ∀ f, Relation.ReflTransGen (p.Invokes config) entry f → ¬p.Unfit config f := by
  have hexpands := expands_expandFrom hp config entry
  constructor
  · intro hnone f hway
    have hexpand : expandFrom p config entry = ((expandFrom p config entry).1, none) :=
      Prod.ext rfl hnone
    have hreached := mem_reached_expandFrom hp hexpand
    obtain ⟨a, ha, rfl⟩ : ∃ a ∈ (expandFrom p config entry).1.reached, a.function = f := by
      induction hway with
      | refl => exact ⟨⟨entry, .entry⟩, (hreached _).mpr (Or.inl rfl), rfl⟩
      | @tail g t _ hstep ih =>
        obtain ⟨a, ha, rfl⟩ := ih
        obtain ⟨body, hbody, b, hb, ht⟩ := hstep
        exact ⟨_, (hreached _).mpr (Or.inr ⟨a, ha, body, hbody, b, hb, t, ht, rfl⟩), rfl⟩
    obtain ⟨i, hi⟩ := List.mem_iff_getElem?.mp ha
    exact ((hexpands.fit hp .refl hnone).2 i a (Nat.zero_le i) hi).not_unfit hp
  · intro hfit
    by_contra hfailed
    have hstart : ∀ a ∈ (State.start p entry).reached,
        Relation.ReflTransGen (p.Invokes config) entry a.function := by
      intro a ha
      rw [List.mem_singleton.mp ha]
    obtain ⟨f, hway, hunfit⟩ := hexpands.unfit hp .refl hstart hfailed
    exact hfit f hway hunfit

end Expansion

/-- **When an analysis fails.**  For every program that can be built, every configuration and every
    entry: the analysis fails exactly when the entry has no body, or when the entry leads by calls
    to a function that does not lower or that has a block with a misdirected call.  Otherwise the
    work is done to its end, by a run of the propagation on the expanded graph.  And on no run from
    an expanded graph, in whatever order the work is taken, does a step miss a cell or a body. -/
theorem analyze_fails_iff {p : Program} (hp : p.Built) (config : Config) (entry : Int) :
    ((∃ e, (analyze p config entry).2 = some e) ↔ p.hasBody entry = false ∨
      ∃ f, Relation.ReflTransGen (p.Invokes config) entry f ∧ p.Unfit config f) ∧
    ((analyze p config entry).2 = none → (analyze p config entry).1.pending = [] ∧
      ∃ s, expandFrom p config entry = (s, none) ∧
        Runs (rules s.program config) ⟨s.graph, s.pending⟩
          ⟨(analyze p config entry).1.graph, (analyze p config entry).1.pending⟩) ∧
    ∀ s, expandFrom p config entry = (s, none) →
      ∀ w, Runs (rules s.program config) ⟨s.graph, s.pending⟩ w → ∀ item ∈ w.pending,
        Guarded.propagate p config.depthLimit w.graph item =
          .ok (propagate (rules s.program config) w.graph item) := by
  refine ⟨?_, ?_, ?_⟩
  · rw [← Option.ne_none_iff_exists', Ne, analyze_eq_none_iff, expandFrom_eq_none_iff hp.coherent]
    rw [not_and_or, Bool.not_eq_true]
    push Not
    exact Iff.rfl
  · intro hnone
    obtain ⟨s₀, _, hsolved⟩ := expandFrom_of_analyze (Prod.ext rfl hnone)
    have hpending : (analyze p config entry).1.pending = [] := congrArg State.pending hsolved
    rw [hpending]
    exact ⟨rfl, runs_of_analyze hnone⟩
  · intro s hexpand w hrun item hitem
    exact guarded_of_runs hp.coherent hexpand hrun hitem

/-- A function that stores the result of an unknown one where nothing is declared. -/
def stray : Source.Function where
  name := "stray"
  slots := [{ slot := 0 }]
  blocks := [{ id := 0, call := some { callee := "ext::make", destination := some ⟨3, []⟩ } }]

/-- A function that calls `stray`, and that has nothing wrong itself. -/
def trusting : Source.Function where
  name := "trusting"
  slots := [{ slot := 0 }]
  blocks := [{ id := 0, call := some { callee := "stray" } }]

def strayProgram : Program := { entries := #[{ source := stray }, { source := trusting }] }

theorem built_stray : strayProgram.Built :=
  Program.built_of_names [stray, trusting] (by decide) (by decide)

def strayBlock : Block := ⟨0, [], [], .call ⟨"ext::make", [], [], some ⟨3, []⟩, {}⟩, false⟩

def strayBody : Body := ⟨0, "stray", 0, [{ slot := 0 }], [strayBlock]⟩

def trustingBlock : Block := ⟨0, [], [], .call ⟨"stray", [], [], none, {}⟩, false⟩

def trustingBody : Body := ⟨1, "trusting", 0, [{ slot := 0 }], [trustingBlock]⟩

/-- The analysis from the caller fails, because of the callee. -/
theorem analyze_fails_iff_stray : strayProgram.Built ∧ ¬strayProgram.Unfit {} 1 ∧
    ∃ e, (analyze strayProgram {} 1).2 = some e := by
  have hstray : strayProgram.body 0 = .ok strayBody := eq_ok_of_toOption (by decide +kernel)
  have htrusting : strayProgram.body 1 = .ok trustingBody := eq_ok_of_toOption (by decide +kernel)
  have hinvokes : strayProgram.Invokes {} 1 0 :=
    ⟨trustingBody, htrusting, trustingBlock, List.mem_cons_self .., by decide +kernel⟩
  have hmisdirected : strayBlock.Misdirected strayProgram {} strayBody :=
    ⟨_, rfl, Or.inr (by decide +kernel), ⟨3, []⟩, rfl, by decide⟩
  refine ⟨built_stray, ?_, (analyze_fails_iff built_stray {} 1).1.mpr (Or.inr ⟨0, .single hinvokes,
    .destination hstray (List.mem_cons_self ..) hmisdirected⟩)⟩
  rintro (he | ⟨hbody, hb, c, hc, _, place, hplace, _⟩)
  · rw [htrusting] at he
    exact nomatch he
  · rw [htrusting] at hbody
    cases hbody
    rw [List.mem_singleton.mp hb] at hc
    cases hc
    exact nomatch hplace

end Flow

end DropFlow
