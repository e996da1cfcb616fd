/-
  DropFlow/Proofs/Flow/Guarded.lean
  =================================
  The propagation with its assumptions checked.

  A step looks cells up by their numbers, and asks for the body of a function when it needs
  a cell of it.  `propagate` goes on without what it does not find; the guarded step ends
  there instead.  On every run from an expanded graph the two agree (`guarded_of_runs`):
  the work and the edges name cells that exist, and every cell, also one that is created on
  the way, belongs to an activation whose function has a usable body.
-/
import DropFlow.Proofs.Flow.Induced

namespace DropFlow.Flow

/-! ### 1. The guarded step -/

/-- What a step relies on and does not find. -/
inductive Breach where
  | missingCell (id : Int)
  | unusableBody (function : Int) (e : Program.BodyError)
  deriving DecidableEq, Repr

namespace Guarded

/-- The cell with a number. -/
def cell (g : Graph) (id : Int) : Except Breach Cell :=
  match g.cell? id with
  | some c => .ok c
  | none => .error (.missingCell id)

/-- The body of a function. -/
def body (p : Program) (function : Int) : Except Breach Body :=
  match p.body function with
  | .ok f => .ok f
  | .error e => .error (.unusableBody function e)

/-- The same part of each target of the edges that leave places around a cell. -/
def partsOf (g : Graph) (c : Cell) : List (Cell × Int) → Except Breach (List (Activation × Place))
  | [] => .ok []
  | (o, target) :: rest => do
    let t ← cell g target
    let parts ← partsOf g c rest
    return (t.activation, t.place.append (o.place.stepsTo c.place)) :: parts

/-- The targets of the edges that leave places around a cell, with these places. -/
def around (g : Graph) (c : Cell) : List (Cell × Int) :=
  ((g.slotCells c.activation c.place.slot).filter fun (_, o) =>
    o.place.strictlyCovers c.place).flatMap fun (id, o) => (g.successors id).map fun t => (o, t)

/-- Hands objects to the cells of places, except those that are too deep. -/
def offerAll (p : Program) (limit : Nat) (delta : IdSet) :
    List (Activation × Place) → Graph → Except Breach Progress
  | [], g => .ok { graph := g }
  | (a, place) :: rest, g =>
    if limit < place.depth then do
      let next ← offerAll p limit delta rest g
      let notice := Notice.trace fun _ =>
        a.text ++ ": path " ++ place.text ++ " exceeds the maximum depth\n"
      return { next with notices := notice :: next.notices }
    else do
      let f ← body p a.function
      let got := offer ⟨limit, fun _ q => f.varName q⟩ g delta a place
      let next ← offerAll p limit delta rest got.1
      return { next with work := got.2 ++ next.work }

/-- Processes one item of work. -/
def propagate (p : Program) (limit : Nat) (g : Graph) (item : WorkItem) :
    Except Breach Progress := do
  let _ ← cell g item.cell
  let delta := g.missing item.cell item.objects
  if delta.isEmpty then return { graph := g }
  else
    let g := absorb g item.cell delta
    let c ← cell g item.cell
    let parts ← partsOf g c (around g c)
    let next ← offerAll p limit delta parts g
    let notice := Notice.onTopic "worklist" fun _ =>
      c.text item.cell ++ " += " ++ delta.text ++ "\n"
    return {
      graph := next.graph
      work := (g.successors item.cell ++ deeperCells g c).map (fun t => ⟨t, delta⟩) ++ next.work
      notices := notice :: next.notices }

/-! ### 2. Where nothing is missing -/

theorem cell_eq {g : Graph} {id : Int} {c : Cell} (h : g.cell? id = some c) :
    cell g id = .ok c := by
  simp only [cell, h]

theorem body_eq {p : Program} {function : Int} {f : Body} (h : p.body function = .ok f) :
    body p function = .ok f := by
  simp only [body, h]

theorem partsOf_eq {g : Graph} (c : Cell) {list : List (Cell × Int)}
    (h : ∀ x ∈ list, ∃ t, g.cell? x.2 = some t) :
    partsOf g c list = .ok (list.filterMap fun x =>
      (g.cell? x.2).map fun t => (t.activation, t.place.append (x.1.place.stepsTo c.place))) := by
  induction list with
  | nil => rfl
  | cons x rest ih =>
    obtain ⟨o, target⟩ := x
    obtain ⟨t, ht⟩ := h (o, target) (List.mem_cons_self ..)
    have hrest := ih fun y hy => h y (List.mem_cons_of_mem _ hy)
    simp only [partsOf, cell_eq ht, hrest, List.filterMap_cons, ht, Option.map_some]
    rfl

theorem around_eq (g : Graph) (c : Cell) : sameParts g c = (around g c).filterMap fun x =>
    (g.cell? x.2).map fun t => (t.activation, t.place.append (x.1.place.stepsTo c.place)) := by
  simp only [sameParts, around, List.filterMap_flatMap, List.filterMap_map, Function.comp_def]

theorem exists_cell_of_mem_around {g : Graph} (hanchored : g.Anchored) {c : Cell}
    {x : Cell × Int} (hx : x ∈ around g c) : ∃ t, g.cell? x.2 = some t := by
  simp only [around, List.mem_flatMap, List.mem_map] at hx
  obtain ⟨⟨id, o⟩, _, target, htarget, rfl⟩ := hx
  obtain ⟨e, he, _, rfl⟩ := Graph.mem_successors.mp htarget
  exact (hanchored e he).2

section Usable

variable {p q : Program} {config : Config}

theorem programName_eq (hp : p.Coherent) (hlater : p.Later q) {function : Int} {f : Body}
    (hf : p.body function = .ok f) (place : Place) :
    programName q function place = f.varName place := by
  simp only [programName, hlater.alike.fetched, hp.fetch_body, hf]

theorem offerAll_eq (hp : p.Coherent) (hlater : p.Later q) (delta : IdSet)
    {places : List (Activation × Place)} :
    ∀ {g : Graph}, (∀ x ∈ places, ∃ f, p.body x.1.function = .ok f) →
      offerAll p config.depthLimit delta places g =
        .ok (Flow.offerAll (rules q config) delta places g) := by
  induction places with
  | nil => exact fun _ => rfl
  | cons x rest ih =>
    obtain ⟨a, place⟩ := x
    intro g h
    obtain ⟨f, hf⟩ := h (a, place) (List.mem_cons_self ..)
    have hrest := fun y hy => h y (List.mem_cons_of_mem _ hy)
    have hoffer : offer ⟨config.depthLimit, fun _ q => f.varName q⟩ g delta a place =
        offer (rules q config) g delta a place := by
      simp only [offer, rules, programName_eq hp hlater hf]
    by_cases hdepth : config.depthLimit < place.depth
    · have hdepth' : (rules q config).limit < place.depth := hdepth
      rw [offerAll, Flow.offerAll, if_pos hdepth, if_pos hdepth', ih hrest]
      rfl
    · have hdepth' : ¬(rules q config).limit < place.depth := hdepth
      rw [offerAll, Flow.offerAll, if_neg hdepth, if_neg hdepth', body_eq hf]
      simp only [hoffer, bind, Except.bind, ih hrest]
      rfl

/-- Where the ends of the edges and the cell of the item exist and all cells belong to usable
    functions, the guarded step is the step. -/
theorem propagate_eq (hp : p.Coherent) (hlater : p.Later q) {g : Graph} (hanchored : g.Anchored)
    (husable : ∀ id c, g.cell? id = some c → ∃ f, p.body c.activation.function = .ok f)
    {item : WorkItem} {c : Cell} (hc : g.cell? item.cell = some c) :
    propagate p config.depthLimit g item = .ok (Flow.propagate (rules q config) g item) := by
  rw [propagate, cell_eq hc]
  simp only [Flow.propagate]
  by_cases hempty : (g.missing item.cell item.objects).isEmpty = true
  · simp only [if_pos hempty]
    rfl
  · simp only [if_neg hempty]
    have hevolves := evolves_absorb g item.cell (g.missing item.cell item.objects)
    obtain ⟨c₁, hc₁, _⟩ := hevolves.old _ c hc
    have hparts : partsOf (absorb g item.cell (g.missing item.cell item.objects)) c₁
        (around (absorb g item.cell (g.missing item.cell item.objects)) c₁) =
          .ok (sameParts (absorb g item.cell (g.missing item.cell item.objects)) c₁) := by
      rw [around_eq, partsOf_eq]
      exact fun x hx => exists_cell_of_mem_around (hevolves.anchored hanchored) hx
    have hbodies : ∀ x ∈ sameParts (absorb g item.cell (g.missing item.cell item.objects)) c₁,
        ∃ f, p.body x.1.function = .ok f := by
      intro x hx
      obtain ⟨e, _, _, t, _, ht, _, _, rfl⟩ := mem_sameParts.mp hx
      obtain ⟨t₀, ht₀, halike, _⟩ := exists_cell_of_absorb ht
      rw [halike.activation]
      exact husable _ t₀ ht₀
    simp only [cell_eq hc₁, hc₁, handOn, bind, Except.bind, hparts,
      offerAll_eq hp hlater _ hbodies]
    rfl

end Usable

end Guarded

/-! ### 3. Along a run -/

theorem Runs.placed {r : Rules} {w w' : Stage} (hrun : Runs r w w') (hw : w.Placed) : w'.Placed :=
  hrun.induction (P := Stage.Placed) hw hw fun _ _ hv hnext _ => hv.next hnext

/-- **No step of a run misses anything.**  Whatever work of an expanded graph has been done, in
    whatever order, the next step finds all that it relies on. -/
theorem guarded_of_runs {p : Program} (hp : p.Coherent) {config : Config} {entry : Int} {s : State}
    (h : expandFrom p config entry = (s, none)) {w : Stage}
    (hrun : Runs (rules s.program config) ⟨s.graph, s.pending⟩ w) {item : WorkItem}
    (hitem : item ∈ w.pending) :
    Guarded.propagate p config.depthLimit w.graph item =
      .ok (propagate (rules s.program config) w.graph item) := by
  have hplaced := hrun.placed (seeded_expandFrom h).placed
  obtain ⟨c, hc⟩ := hplaced.work item hitem
  apply Guarded.propagate_eq hp (expansion_expandFrom h).1.later hplaced.anchored _ hc
  intro id d hd
  exact usable_expandFrom hp h (reached_of_cell_of_runs hp h hrun hd)

end DropFlow.Flow
