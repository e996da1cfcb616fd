/-
  DropFlow/Proofs/Finding/Drops.lean
  ==================================
  Drops after drops, under any notion of reachability.

  The detection looks only at marked objects, each as the holder of the other one.  Once
  the objects have been propagated, an object is marked exactly when it holds another one
  (`Graph.mem_multiDrop_iff`), because it holds itself.  The suspicions are therefore
  symmetric in the two objects, and what an oracle confirms of them is what its notion of
  reachability says of their blocks, in whatever order it is asked (`confirm_eq`).
-/
import DropFlow.Proofs.Finding.Detection
import DropFlow.Proofs.Oracle.Queries

namespace DropFlow

open DropFlow.Flow

/-! ### 1. The marks -/

theorem exists_ne_of_one_lt_size {s : IdSet} (h : 1 < s.size) (x : Int) : ∃ y ∈ s, y ≠ x := by
  by_contra hnone
  push Not at hnone
  have hsub : ∀ y ∈ s.toList, y ∈ [x] := fun y hy => List.mem_singleton.mpr (hnone y hy)
  have hle := length_le_of_nodup_of_forall_mem (nodup_toList s) hsub
  simp only [List.length_singleton] at hle
  exact absurd h (Nat.not_lt.mpr hle)

/-- The marked cells are the dropped cells that hold another object. -/
theorem Flow.Graph.mem_multiDrop_iff {limit : Nat} {g : Graph} (hclosed : g.Closed limit)
    (hmarks : g.MarksExact) {n : Int} :
    n ∈ g.multiDrop ↔ g.dropsOf n ≠ [] ∧ ∃ o ∈ g.pointsTo n, o ≠ n := by
  constructor
  · intro hn
    obtain ⟨c, hc, hobject, hsize⟩ := (hmarks n).mp hn
    rw [dropsOf_of_cell? hc, pointsTo_of_cell? hc]
    obtain ⟨site, hsite⟩ := Cell.isObject_iff.mp hobject
    exact ⟨List.ne_nil_of_mem hsite, exists_ne_of_one_lt_size hsize n⟩
  · rintro ⟨hdrops, o, ho, hne⟩
    obtain ⟨site, hsite⟩ := List.exists_mem_of_ne_nil _ hdrops
    exact mem_multiDrop_of_mem_pointsTo hclosed hmarks hsite ho hne

/-! ### 2. Confirmation by a notion of reachability -/

/-- The suspicions whose second block is reachable from the first. -/
def confirmed (reach : BlockRef → BlockRef → Bool) (list : List Suspicion) : List Suspicion :=
  list.filter fun s => reach s.firstSite.blockRef s.secondSite.blockRef

/-- The oracle answers with a notion of reachability, whatever it was asked before. -/
def Oracle.Follows (reach : BlockRef → BlockRef → Bool) (o : Oracle) : Prop :=
  ∀ asked a b, ((o.askAll asked).canReach a b).2 = some (reach a b)

section Follows

variable {reach : BlockRef → BlockRef → Bool} {o : Oracle}

theorem Oracle.Follows.ask (h : o.Follows reach) (a b : BlockRef) :
    (o.canReach a b).1.Follows reach := fun asked => h ((a, b) :: asked)

theorem confirm_eq (list : List Suspicion) : ∀ {o : Oracle}, o.Follows reach →
    (confirm o list).1.Follows reach ∧ (confirm o list).2 = some (confirmed reach list) := by
  induction list with
  | nil => exact fun ho => ⟨ho, rfl⟩
  | cons first rest ih =>
    intro o ho
    have hanswer := ho [] first.firstSite.blockRef first.secondSite.blockRef
    have hnext := ho.ask first.firstSite.blockRef first.secondSite.blockRef
    rw [confirm]
    rcases hres : o.canReach first.firstSite.blockRef first.secondSite.blockRef with ⟨o₁, answer⟩
    rw [hres] at hnext
    rw [Oracle.askAll, List.foldl_nil, hres] at hanswer
    dsimp only at hanswer hnext
    subst hanswer
    obtain ⟨hlast, hrest⟩ := ih hnext
    dsimp only
    rcases hfound : confirm o₁ rest with ⟨o₂, found⟩
    rw [hfound] at hlast hrest
    dsimp only at hlast hrest
    subst hrest
    refine ⟨hlast, ?_⟩
    simp only [confirmed, List.filter_cons]

/-- The drops detected are the suspicions that the notion of reachability confirms. -/
theorem detect_drops_eq (h : o.Follows reach) (g : Graph) :
    ∃ d, (detect g o).2 = some d ∧ d.drops = confirmed reach (allDrops g) := by
  obtain ⟨h₁, huses⟩ := confirm_eq (allUses g) h
  obtain ⟨_, hdrops⟩ := confirm_eq (allDrops g) h₁
  refine ⟨⟨confirmed reach (allUses g), confirmed reach (allDrops g)⟩, ?_, rfl⟩
  rw [detect]
  rcases hfirst : confirm o (allUses g) with ⟨o₁, found⟩
  rw [hfirst] at huses hdrops
  dsimp only at huses hdrops
  subst huses
  dsimp only
  rcases hsecond : confirm o₁ (allDrops g) with ⟨o₂, found⟩
  rw [hsecond] at hdrops
  dsimp only at hdrops
  subst hdrops
  rfl

end Follows

open Classical in
/-- The oracle over the calls of an analysis follows the reachability of the program's blocks. -/
theorem follows_of_analyze {p : Program} (hp : p.Built) {config : Config} {entry : Int}
    {s : State} (h : analyze p config entry = (s, none)) :
    (Oracle.make s.program s.calls).Follows fun a b => decide (s.calls.Reaches s.program a b) := by
  have hlater := (analyzed_of_analyze hp.coherent h).later
  have hcalls := (calls_over_of_analyze hp.coherent h).sameSources hlater.alike.toSameSources
  have hcoherent := (hp.later hlater).coherent
  intro asked a b
  have hknows := (Oracle.knows_make s.program s.calls Traversals.exact_own).askAll hcoherent
    hcalls.toBounded asked
  obtain ⟨_, r, hr, hiff⟩ := Oracle.canReach_spec hcoherent hcalls.toBounded hknows a b
  rw [hr]
  congr 1
  rw [Bool.eq_iff_iff, hiff, decide_eq_true_iff]

/-! ### 3. The main statement -/

/-- **The detection of second drops is exact and symmetric.**  For every program that can be built,
    and every configuration and entry whose analysis succeeds: the marked cells are the dropped
    cells that hold an object other than themselves; and for every notion of reachability, the
    drops confirmed by it are those of two different objects one of which may hold the other, in
    different blocks, the second reachable from the first.  They are what the detection returns
    with any oracle that answers with this notion, as the oracle of the analysis itself does with
    the reachability by its calls. -/
theorem detect_drops_exact {p : Program} (hp : p.Built) {config : Config} {entry : Int} {s : State}
    (h : analyze p config entry = (s, none)) :
    (∀ n, n ∈ s.graph.multiDrop ↔
      s.graph.dropsOf n ≠ [] ∧ ∃ o ∈ s.graph.pointsTo n, o ≠ n) ∧
    (∀ (reach : BlockRef → BlockRef → Bool) (o₁ o₂ : Int) (s₁ s₂ : Site),
      ⟨o₁, s₁, o₂, s₂⟩ ∈ confirmed reach (allDrops s.graph) ↔
        o₁ ≠ o₂ ∧ (o₂ ∈ s.graph.pointsTo o₁ ∨ o₁ ∈ s.graph.pointsTo o₂) ∧
          s₁ ∈ s.graph.dropsOf o₁ ∧ s₂ ∈ s.graph.dropsOf o₂ ∧ s₁.blockRef ≠ s₂.blockRef ∧
          reach s₁.blockRef s₂.blockRef = true) ∧
    (∀ (reach : BlockRef → BlockRef → Bool) (o : Oracle), o.Follows reach →
      ∃ d, (detect s.graph o).2 = some d ∧ d.drops = confirmed reach (allDrops s.graph)) ∧
    ∃ reach, (Oracle.make s.program s.calls).Follows reach ∧
      ∀ a b, reach a b = true ↔ s.calls.Reaches s.program a b := by
  classical
  have hanalyzed := analyzed_of_analyze hp.coherent h
  refine ⟨?_, ?_, ?_, _, follows_of_analyze hp h, fun a b => decide_eq_true_iff⟩
  · exact fun n => Graph.mem_multiDrop_iff hanalyzed.closed hanalyzed.marksExact
  · intro reach o₁ o₂ s₁ s₂
    simp only [confirmed, List.mem_filter, mem_allDrops hanalyzed.closed hanalyzed.marksExact,
      Suspicion.isApart_iff, and_assoc]
  · exact fun reach o ho => detect_drops_eq ho s.graph

/-- A function that moves a value and drops it in both places. -/
def dropTwice : Source.Function where
  name := "main"
  slots := [{ slot := 1 }, { slot := 2 }]
  blocks :=
    [{ id := 0
       successors := [1]
       statements := [{ left := ⟨2, []⟩, rvalue := { kind := "move", place := some ⟨1, []⟩ } }] },
     { id := 1, successors := [2], drop := some { place := ⟨1, []⟩ } },
     { id := 2, drop := some { place := ⟨2, []⟩ } }]

def dropTwiceProgram : Program := { entries := #[{ source := dropTwice }] }

def dropTwiceState : State := (analyze dropTwiceProgram {} 0).1

theorem built_dropTwice : dropTwiceProgram.Built :=
  Program.built_of_names [dropTwice] (by decide) (by decide)

theorem analyze_dropTwice : analyze dropTwiceProgram {} 0 = (dropTwiceState, none) :=
  Prod.ext rfl (by decide +kernel)

/-- The second place holds the object of the first one and is marked; with every block reachable
    from every other one, the two drops are confirmed in both orders. -/
theorem detect_drops_exact_dropTwice :
    dropTwiceProgram.Built ∧ analyze dropTwiceProgram {} 0 = (dropTwiceState, none) ∧
      1 ∈ dropTwiceState.graph.multiDrop ∧
      ⟨0, ⟨0, 1, {}⟩, 1, ⟨0, 2, {}⟩⟩ ∈ confirmed (fun _ _ => true) (allDrops dropTwiceState.graph) ∧
      ⟨1, ⟨0, 2, {}⟩, 0, ⟨0, 1, {}⟩⟩ ∈
        confirmed (fun _ _ => true) (allDrops dropTwiceState.graph) := by
  obtain ⟨hmarks, hdrops, _⟩ := detect_drops_exact built_dropTwice analyze_dropTwice
  have hclosed := (analyzed_of_analyze built_dropTwice.coherent analyze_dropTwice).closed
  have hevolves := evolves_of_analyze analyze_dropTwice
  have hfirst : dropTwiceState.graph.dropsOf 0 = [⟨0, 1, {}⟩] := by
    rw [hevolves.dropsOf]
    decide +kernel
  have hsecond : dropTwiceState.graph.dropsOf 1 = [⟨0, 2, {}⟩] := by
    rw [hevolves.dropsOf]
    decide +kernel
  have hedge : ⟨0, 1, ⟨0, 0, {}⟩, false, false⟩ ∈ dropTwiceState.graph.edges.toList := by
    rw [hevolves.edges]
    decide +kernel
  have hheld : 0 ∈ dropTwiceState.graph.pointsTo 1 :=
    hclosed.flows _ hedge 0 (hclosed.seeds 0 (by simp [hfirst]))
  refine ⟨built_dropTwice, analyze_dropTwice, ?_, ?_, ?_⟩
  · exact (hmarks 1).mpr ⟨by simp [hsecond], 0, hheld, by decide⟩
  · exact (hdrops _ _ _ _ _).mpr
      ⟨by decide, Or.inr hheld, by simp [hfirst], by simp [hsecond], by decide, rfl⟩
  · exact (hdrops _ _ _ _ _).mpr
      ⟨by decide, Or.inl hheld, by simp [hsecond], by simp [hfirst], by decide, rfl⟩

end DropFlow
