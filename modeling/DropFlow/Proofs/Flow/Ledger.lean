/-
  DropFlow/Proofs/Flow/Ledger.lean
  ================================
  The tables of a flow graph after every sequence of operations.

  A ledger is the tables and the work that waits.  It matches a graph and its work if the
  tables stand for the graph; every operation is performed on both or on neither, and
  leaves a ledger that matches (`Matches.perform`).  So a whole run on the tables is a run
  on a graph (`Matches.performAll`), and what holds of a graph in every state holds of each
  table (`tables_of_operations`).
-/
import DropFlow.Proofs.Flow.Tables

namespace DropFlow.Flow

/-! ### 1. Runs on tables and on graphs -/

/-- The tables of a graph and the work that waits. -/
structure Ledger where
  tables : Tables := {}
  pending : List WorkItem := []

/-- The cells that have to exist for an operation. -/
def Operation.cells : Operation → List Int
  | .create .. => []
  | .drop id _ => [id]
  | .connect source target .. => [source, target]
  | .hold id _ => [id]
  | .mark _ => []

namespace Ledger

/-- Performs an operation on cells that exist. -/
def perform? (l : Ledger) : Operation → Option Ledger
  | .create a p name => some { l with tables := (l.tables.create a p name).1 }
  | .drop id site => (l.tables.addDrop? id site).map fun r => { l with tables := r.1 }
  | .connect source target site passing scheduling => do
    let _ ← l.tables.row? source
    let _ ← l.tables.row? target
    let (tables, _, work) ← l.tables.connect? source target site passing
    return ⟨tables, l.pending ++ if scheduling then work else []⟩
  | .hold id set => (l.tables.union? id set).map fun r => { l with tables := r.1 }
  | .mark id => some { l with tables := l.tables.markMultiDrop id }

/-- Performs operations one after the other. -/
def performAll? (l : Ledger) : List Operation → Option Ledger
  | [] => some l
  | op :: rest => do
    let l ← l.perform? op
    l.performAll? rest

/-- A ledger and a graph with its work that stand for the same. -/
structure Matches (l : Ledger) (w : Stage) : Prop where
  tables : l.tables.Represents w.graph
  pending : l.pending = w.pending
  proper : w.graph.Proper

variable {l l' : Ledger} {w w' : Stage}

theorem Matches.empty : Matches {} ⟨{}, []⟩ :=
  ⟨Tables.Represents.empty, rfl, Stage.proper_empty⟩

/-- **One operation** on a ledger and on the graph that it matches: it is performed on both or on
    neither, and what it leaves matches again. -/
theorem Matches.perform (h : l.Matches w) (op : Operation) :
    Option.Rel Matches (l.perform? op) (w.perform? op) := by
  have hproper : ∀ w', w.perform? op = some w' → w'.graph.Proper :=
    fun _ => Stage.proper_of_perform? h.proper
  cases op with
  | create a p name =>
    exact .some ⟨h.tables.create h.proper.anchored a p name, h.pending, hproper _ rfl⟩
  | drop id site =>
    cases hc : w.graph.cell? id with
    | none =>
      have hrow := h.tables.row?_eq_none hc
      simp only [perform?, Stage.perform?, Tables.addDrop?, hrow, hc]
      exact .none
    | some c =>
      obtain ⟨t, hadd, hrep⟩ := h.tables.addDrop hc site
      have hstage : w.perform? (.drop id site) = some ⟨w.graph.addDrop id site, w.pending⟩ := by
        simp only [Stage.perform?, hc]
        rfl
      rw [perform?, hadd, hstage]
      exact .some ⟨hrep, h.pending, hproper _ hstage⟩
  | connect source target site passing scheduling =>
    cases hc : w.graph.cell? source with
    | none =>
      have hrow := h.tables.row?_eq_none hc
      have hstage : w.perform? (.connect source target site passing scheduling) = none := by
        cases hd : w.graph.cell? target <;> simp [Stage.perform?, Graph.connect?, hc, hd]
      rw [hstage, perform?, hrow]
      exact .none
    | some c =>
      cases hd : w.graph.cell? target with
      | none =>
        have hrow := h.tables.row?_eq_none hd
        simp only [perform?, Stage.perform?, h.tables.row? hc, hrow, hd]
        exact .none
      | some d =>
        obtain ⟨t, hadd, hrep, _⟩ := h.tables.connect hc hd site passing
        have hstage := Stage.perform?_connect hc hd site passing scheduling
        simp only [perform?, h.tables.row? hc, h.tables.row? hd, hadd, hstage]
        exact .some ⟨hrep, by rw [h.pending], hproper _ hstage⟩
  | hold id set =>
    cases hc : w.graph.cell? id with
    | none =>
      have hrow := h.tables.row?_eq_none hc
      simp only [perform?, Stage.perform?, Tables.union?, hrow, hc]
      exact .none
    | some c =>
      obtain ⟨t, hadd, hrep⟩ := h.tables.union hc set
      have hstage : w.perform? (.hold id set) =
          some ⟨w.graph.addObjects id (w.graph.missing id set), w.pending⟩ := by
        simp only [Stage.perform?, hc]
        rfl
      rw [perform?, hadd, hstage]
      exact .some ⟨hrep, h.pending, hproper _ hstage⟩
  | mark id => exact .some ⟨h.tables.mark id, h.pending, hproper _ rfl⟩

/-- **A whole run** on a ledger and on the graph it matches. -/
theorem Matches.performAll {ops : List Operation} :
    ∀ {l : Ledger} {w : Stage}, l.Matches w →
      Option.Rel Matches (l.performAll? ops) (w.performAll? ops) := by
  induction ops with
  | nil => exact fun h => .some h
  | cons op rest ih =>
    intro l w h
    have hstep := h.perform op
    rw [performAll?, Stage.performAll?]
    cases hl : l.perform? op <;> cases hw : w.perform? op <;> rw [hl, hw] at hstep
    · exact .none
    · cases hstep
    · cases hstep
    · cases hstep with
      | some hmatches => exact ih hmatches

theorem Matches.exists_of_performAll? (h : l.Matches w) {ops : List Operation}
    (hl : l.performAll? ops = some l') :
    ∃ w', w.performAll? ops = some w' ∧ l'.Matches w' := by
  have hrun : Option.Rel Matches (l.performAll? ops) (w.performAll? ops) := h.performAll
  rw [hl] at hrun
  cases hw : w.performAll? ops with
  | none =>
    rw [hw] at hrun
    cases hrun
  | some w' =>
    rw [hw] at hrun
    cases hrun with
    | some hmatches => exact ⟨w', rfl, hmatches⟩

end Ledger

/-! ### 2. Every state of the tables -/

namespace Ledger

variable {l l' : Ledger} {w : Stage}

/-- An operation is performed if the cells that it needs exist. -/
theorem Matches.isSome_perform? (h : l.Matches w) (op : Operation) :
    (l.perform? op).isSome = true ↔ ∀ id ∈ op.cells, (l.tables.row? id).isSome = true := by
  cases op with
  | create a p name => simp [perform?, Operation.cells]
  | drop id site =>
    cases hr : l.tables.row? id <;> simp [perform?, Tables.addDrop?, Operation.cells, hr]
  | connect source target site passing scheduling =>
    cases hc : w.graph.cell? source with
    | none => simp [perform?, Operation.cells, h.tables.rows, hc]
    | some c =>
      cases hd : w.graph.cell? target with
      | none => simp [perform?, Operation.cells, h.tables.rows, hd]
      | some d =>
        obtain ⟨t, hadd, _⟩ := h.tables.connect hc hd site passing
        simp [perform?, Operation.cells, h.tables.rows, hc, hd, hadd]
  | hold id set =>
    cases hr : l.tables.row? id <;> simp [perform?, Tables.union?, Operation.cells, hr]
  | mark id => simp [perform?, Operation.cells]

/-- An edge that exists is not added again. -/
theorem Matches.connect_of_hasEdge (h : l.Matches w) {u v : Int}
    (hhas : l.tables.hasEdge u v = true) (site : Site) (passing : Graph.Passing) :
    l.tables.connect? u v site passing = some (l.tables, false, []) ∧
      ∀ scheduling, l.perform? (.connect u v site passing scheduling) = some l := by
  rw [h.tables.hasEdge] at hhas
  obtain ⟨e, he, rfl, rfl⟩ := Graph.hasEdge_iff.mp hhas
  obtain ⟨⟨c, hc⟩, d, hd⟩ := h.proper.anchored e he
  obtain ⟨t, hadd, _, hsame⟩ := h.tables.connect hc hd site passing
  rw [hhas, Graph.connect_of_hasEdge hhas, hsame hhas] at hadd
  refine ⟨hadd, fun scheduling => ?_⟩
  simp [perform?, h.tables.row? hc, h.tables.row? hd, hadd]

theorem Matches.create_snd (h : l.Matches w) (a : Activation) (p : Place) (name : String) :
    (l.tables.create a p name).2.1 = (w.graph.ensure a p name).2 := by
  have hlookup := h.tables.lookup a p
  cases hfind : w.graph.find? a p with
  | some id =>
    rw [hfind] at hlookup
    rw [Tables.create_of_lookup_eq_some name hlookup, Graph.ensure_of_find?_eq_some name hfind]
  | none =>
    rw [hfind] at hlookup
    rw [Tables.create_snd_of_lookup_eq_none name hlookup,
      Graph.ensure_snd_of_find?_eq_none name hfind, h.tables.size]

/-- The numbers that the tables give tell places apart like those of the graph. -/
theorem Matches.create_eq_create_iff (h : l.Matches w) {later : List Operation}
    {a b : Activation} {p q : Place} {name name' : String}
    (hlater : l.performAll? (.create a p name :: later) = some l') :
    (l.tables.create a p name).2.1 = (l'.tables.create b q name').2.1 ↔ a = b ∧ p = q := by
  obtain ⟨w', hw', hmatches⟩ := h.exists_of_performAll? hlater
  rw [h.create_snd, hmatches.create_snd]
  exact Stage.ensure_eq_ensure_iff hw'

end Ledger

/-- **What holds of the tables in every state**, after any operations and before any others. -/
theorem tables_of_operations {ops later : List Operation} {l l' : Ledger}
    (h : Ledger.performAll? {} ops = some l) (hlater : l.performAll? later = some l') :
    l.tables.Consistent ∧
    -- an operation on cells that exist is performed
    (∀ op, (l.perform? op).isSome = true ↔
      ∀ id ∈ op.cells, (l.tables.row? id).isSome = true) ∧
    -- a place without a cell gets the next number, and a place with a cell has its number
    (∀ a p name, l.tables.lookup a p = none →
      (l.tables.create a p name).2 = ((l.tables.size : Int), true)) ∧
    (∀ a p name id, l.tables.lookup a p = some id →
      l.tables.create a p name = (l.tables, id, false)) ∧
    -- one number for one place, and one spelling for one place
    (∀ a p name b q name' rest v, l.performAll? (.create a p name :: rest) = some v →
      ((l.tables.create a p name).2.1 = (v.tables.create b q name').2.1 ↔ a = b ∧ p = q)) ∧
    (∀ p q : Place, p.key = q.key ↔ p = q) ∧
    -- the places that are found are those that were created
    (∀ a p, (l.tables.lookup a p).isSome = true ↔ ∃ name, .create a p name ∈ ops) ∧
    -- an edge that exists is not added again, and a new one comes last
    (∀ u v site passing, l.tables.hasEdge u v = true →
      l.tables.connect? u v site passing = some (l.tables, false, []) ∧
        ∀ scheduling, l.perform? (.connect u v site passing scheduling) = some l) ∧
    (∀ u v site passing t work, l.tables.connect? u v site passing = some (t, true, work) →
      ∃ e, t.edge? u v = some e ∧ e.site = site ∧
        t.successors? u = (l.tables.successors? u).map (· ++ [v]) ∧
        t.derefEdges = l.tables.derefEdges ++ if e.isDeref then [e] else []) ∧
    -- nothing is taken away
    l.tables.Grows l'.tables := by
  obtain ⟨w, hw, hmatches⟩ := Ledger.Matches.empty.exists_of_performAll? h
  obtain ⟨w', hw', hmatches'⟩ := hmatches.exists_of_performAll? hlater
  have hgrows := Stage.grows_of_performAll? hw'
  refine ⟨hmatches.tables.consistent hmatches.proper, hmatches.isSome_perform?,
    fun _ _ name => Tables.create_snd_of_lookup_eq_none name,
    fun _ _ name _ => Tables.create_of_lookup_eq_some name,
    fun _ _ _ _ _ _ _ _ => hmatches.create_eq_create_iff, fun _ _ => Place.key_inj, ?_,
    fun _ _ site passing hhas => hmatches.connect_of_hasEdge hhas site passing,
    fun _ _ _ _ _ _ => Tables.of_connect?_eq_some_true,
    hmatches.tables.grows hmatches'.tables hgrows⟩
  intro a p
  rw [hmatches.tables.lookup, Stage.find?_isSome_of_performAll? a p hw]
  simp [Graph.find?]

/-- Operations that make a pointer, what it points to and a parameter, and that connect them. -/
def handing : List Operation :=
  [.create ⟨0, .entry⟩ ⟨1, []⟩ "p", .create ⟨0, .entry⟩ ⟨1, [.deref]⟩ "p",
    .create ⟨1, .call 0 0⟩ ⟨1, []⟩ "", .drop 1 ⟨0, 1, {}⟩, .hold 0 (.singleton 1),
    .connect 0 2 ⟨0, 0, {}⟩ .argument true, .connect 1 0 ⟨0, 0, {}⟩ .value false, .mark 1]

theorem tables_of_operations_handing : ∃ l, Ledger.performAll? {} handing = some l ∧
    l.tables.Consistent ∧ l.tables.slotIds ⟨0, .entry⟩ 1 = [0, 1] ∧
    l.tables.successors? 0 = some [2] ∧
    l.perform? (.connect 0 2 ⟨0, 1, {}⟩ .value true) = some l := by
  have hfacts : ((Stage.performAll? ⟨{}, []⟩ handing).map fun w =>
      ((w.graph.slotCells ⟨0, .entry⟩ 1).map (·.1), w.graph.hasEdge 0 2,
        (w.graph.cell? 0).map fun _ => w.graph.successors 0)) =
      some ([0, 1], true, some [2]) := by
    decide +kernel
  obtain ⟨w, hw, hfacts⟩ := Option.map_eq_some_iff.mp hfacts
  simp only [Prod.mk.injEq] at hfacts
  obtain ⟨hslot, hhas, hsuccessors⟩ := hfacts
  have hrun : Option.Rel Ledger.Matches (Ledger.performAll? {} handing)
      (Stage.performAll? ⟨{}, []⟩ handing) := Ledger.Matches.empty.performAll
  rw [hw] at hrun
  cases hl : Ledger.performAll? {} handing with
  | none =>
    rw [hl] at hrun
    cases hrun
  | some l =>
    rw [hl] at hrun
    cases hrun with
    | some hmatches =>
      have hlater : l.performAll? [] = some l := rfl
      obtain ⟨hconsistent, _, _, _, _, _, _, hagain, _⟩ := tables_of_operations hl hlater
      refine ⟨l, rfl, hconsistent, ?_, ?_, ?_⟩
      · rw [hmatches.tables.slotIds, hslot]
      · rw [Tables.successors?, hmatches.tables.rows, Option.map_map]
        exact hsuccessors
      · exact (hagain 0 2 _ _ (hmatches.tables.hasEdge 0 2 ▸ hhas)).2 true

end DropFlow.Flow
