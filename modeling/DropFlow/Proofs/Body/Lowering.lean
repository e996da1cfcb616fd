/-
  DropFlow/Proofs/Body/Lowering.lean
  ==================================
  Lowering accepts exactly the well-formed functions.

  What a function needs is said part by part (`Source.Function.WellFormed`), and so is
  what becomes of it: the places that a right-hand side uses (`Source.Rvalue.uses`), the
  assignments of a block, and its end (`Source.Block.lowered`).  Each level of the
  lowering succeeds exactly if the parts that it looks at are complete, and then gives
  what the description says.
-/
import DropFlow.Body.Lowering
import Mathlib.Data.List.Basic
import Mathlib.Tactic.MkIffOfInductiveProp

namespace DropFlow

open DropFlow.Text

/-! ### 1. Lower case -/

namespace Text

theorem lowerChar_toLower (c : Char) : lowerChar c.toLower = lowerChar c := by
  by_cases hupper : c.val ≥ 'A'.val ∧ c.val ≤ 'Z'.val
  · -- a capital letter of ASCII
    have hall : ∀ n : Fin 91, 65 ≤ n.val →
        lowerChar (Char.ofNat n.val).toLower = lowerChar (Char.ofNat n.val) := by decide
    have hlo : 65 ≤ c.toNat := UInt32.le_iff_toNat_le.mp hupper.1
    have hhi : c.toNat ≤ 90 := UInt32.le_iff_toNat_le.mp hupper.2
    have hc := hall ⟨c.toNat, Nat.lt_succ_of_le hhi⟩ hlo
    rwa [Char.ofNat_toNat] at hc
  · have hown : c.toLower = c := dif_neg hupper
    rw [hown]

theorem lowerChar_lowerChar (c : Char) : lowerChar (lowerChar c) = lowerChar c := by
  by_cases hi : c.toNat = 0x130
  · rw [lowerChar.eq_def c, if_pos hi]
    decide
  · by_cases hk : c.toNat = 0x212A
    · rw [lowerChar.eq_def c, if_neg hi, if_pos hk]
      decide
    · have hown : lowerChar c = c.toLower := by rw [lowerChar, if_neg hi, if_neg hk]
      rw [hown, lowerChar_toLower, hown]

/-- Lower case does not change under a change to the small letters of ASCII. -/
theorem lower_toLower (s : String) : lower s.toLower = lower s := by
  have hmap : s.toLower = s.map Char.toLower := rfl
  simp only [lower, hmap, String.toList_map, List.map_map]
  congr 1
  exact List.map_congr_left fun c _ => lowerChar_toLower c

theorem lower_lower (s : String) : lower (lower s) = lower s := by
  simp only [lower, String.toList_ofList, List.map_map]
  congr 1
  exact List.map_congr_left fun c _ => lowerChar_lowerChar c

/-- Two texts that differ only in the case of letters of ASCII have the same lower case. -/
theorem lower_eq_of_toLower_eq {s t : String} (h : s.toLower = t.toLower) : lower s = lower t := by
  rw [← lower_toLower s, h, lower_toLower]

end Text

namespace Source

/-! ### 2. What a function needs -/

/-- An operand is a constant, or it copies or moves a place. -/
def Operand.Complete (o : Operand) : Prop :=
  lower o.kind ∈ ["constant", "const"] ∨ lower o.kind ∈ ["copy", "move"] ∧ o.place.isSome

/-- The parts that a right-hand side needs for its kind.  Other kinds need nothing. -/
@[mk_iff]
structure Rvalue.Complete (r : Rvalue) : Prop where
  place : lower r.kind ∈ ["copy", "move", "ref", "address-of", "discriminant"] → r.place.isSome
  operand : lower r.kind ∈ ["use", "cast", "repeat"] → ∃ o ∈ r.operand, o.Complete
  operands : lower r.kind = "aggregate" → ∀ o ∈ r.operands, o.Complete

/-- A call needs a target and complete arguments. -/
@[mk_iff]
structure Call.Complete (c : Call) : Prop where
  target : c.callee ≠ "" ∨ c.candidates ≠ []
  arguments : ∀ o ∈ c.arguments, o.Complete

/-- A block needs complete statements, and ends in one way only. -/
@[mk_iff]
structure Block.Complete (b : Block) : Prop where
  statements : ∀ s ∈ b.statements, s.rvalue.Complete
  oneEnd : b.call = none ∨ b.drop = none
  call : ∀ c ∈ b.call, c.Complete

/-- A function declares its slots once, and its complete blocks lead to blocks that exist. -/
@[mk_iff]
structure Function.WellFormed (f : Function) : Prop where
  slots : (f.slots.map (·.slot)).Nodup
  blocks : (f.blocks.map (·.id)).Nodup
  entry : f.entry ∈ f.blocks.map (·.id)
  successors : ∀ b ∈ f.blocks, ∀ s ∈ b.successors, s ∈ f.blocks.map (·.id)
  complete : ∀ b ∈ f.blocks, b.Complete

instance : DecidablePred Operand.Complete := fun o =>
  inferInstanceAs (Decidable (_ ∨ _ ∧ o.place.isSome = true))

instance : DecidablePred Rvalue.Complete := fun r => decidable_of_iff' _ (Rvalue.complete_iff r)

instance : DecidablePred Call.Complete := fun c => decidable_of_iff' _ (Call.complete_iff c)

instance : DecidablePred Block.Complete := fun b => decidable_of_iff' _ (Block.complete_iff b)

instance : DecidablePred Function.WellFormed := fun f =>
  decidable_of_iff' _ (Function.wellFormed_iff f)

/-! ### 3. What becomes of a function -/

/-- How a right-hand side uses a place. -/
structure Use where
  kind : AssignKind
  place : Place
  type : PlaceType
  deriving DecidableEq, Repr

/-- The use of the place of an operand; a constant uses none. -/
def Operand.uses (o : Operand) : List Use :=
  o.place.toList.filterMap fun p =>
    if lower o.kind = "copy" then some ⟨.copy, p, o.type⟩
    else if lower o.kind = "move" then some ⟨.move, p, o.type⟩
    else none

/-- The argument that an operand stands for. -/
def Operand.argument (slots : List SlotDecl) (o : Operand) : Argument :=
  match o.place with
  | none => .constant
  | some p =>
    if lower o.kind = "copy" then .copy p (resolveType slots p o.type)
    else if lower o.kind = "move" then .move p (resolveType slots p o.type)
    else .constant

/-- The kinds of right-hand sides that become assignments. -/
def modeledKinds : List String :=
  ["copy", "move", "constant", "use", "cast", "repeat", "ref", "address-of", "discriminant",
   "aggregate"]

def Statement.isModeled (s : Statement) : Bool := modeledKinds.contains (lower s.rvalue.kind)

/-- The uses of places on a right-hand side, in order. -/
def Rvalue.uses (r : Rvalue) : List Use :=
  let kind := lower r.kind
  if kind = "ref" then r.place.toList.map (⟨.ref, ·, r.type⟩)
  else if kind = "address-of" then r.place.toList.map (⟨.addressOf, ·, r.type⟩)
  else if kind = "discriminant" then r.place.toList.map (⟨.move, ·, r.type⟩)
  else if kind = "copy" then r.place.toList.map (⟨.copy, ·, r.type⟩)
  else if kind = "move" then r.place.toList.map (⟨.move, ·, r.type⟩)
  else if kind ∈ ["use", "cast", "repeat"] then r.operand.toList.flatMap Operand.uses
  else if kind = "aggregate" then r.operands.flatMap Operand.uses
  else []

def Statement.assign (slots : List SlotDecl) (s : Statement) (u : Use) : Assignment :=
  ⟨s.left, u.place, resolveType slots u.place u.type, u.kind, s.location⟩

/-- The assignments of a statement: one for each use of a place. -/
def Statement.assignments (slots : List SlotDecl) (s : Statement) : List Assignment :=
  s.rvalue.uses.map (s.assign slots)

def Block.terminator (slots : List SlotDecl) (b : Block) : Terminator :=
  match b.call, b.drop with
  | some c, _ =>
    .call ⟨c.callee, c.candidates, c.arguments.map (·.argument slots), c.destination, c.location⟩
  | none, some d => .drop d.place d.location
  | none, none => .plain

/-- The block that a block of the source stands for. -/
def Block.lowered (slots : List SlotDecl) (b : Block) : DropFlow.Block where
  id := b.id
  successors := b.successors
  assignments := (b.statements.filter (·.isModeled)).flatMap (·.assignments slots)
  terminator := b.terminator slots
  cleanup := b.cleanup

/-- The body that a function stands for. -/
def Function.lowered (id : Int) (f : Function) : Body where
  id := id
  name := f.name
  entry := f.entry
  slots := f.slots
  blocks := f.blocks.map (·.lowered f.slots)

end Source

/-! ### 4. Results under a condition -/

/-- A computation succeeds exactly under a condition, and then with a given value. -/
def Accepts {ε α : Type} (r : Except ε α) (condition : Prop) (value : α) : Prop :=
  ∀ a, r = .ok a ↔ condition ∧ a = value

namespace Accepts

variable {ε α : Type} {r : Except ε α} {P : Prop} {value : α}

theorem of_ok (hP : P) : Accepts (.ok value : Except ε α) P value := by
  intro a
  simp [hP, eq_comm]

theorem of_error {e : ε} (hP : ¬P) : Accepts (.error e : Except ε α) P value := by
  intro a
  simp [hP]

theorem cases (h : Accepts r P value) : P ∧ r = .ok value ∨ ¬P ∧ ∃ e, r = .error e := by
  by_cases hP : P
  · exact .inl ⟨hP, (h value).mpr ⟨hP, rfl⟩⟩
  · refine .inr ⟨hP, ?_⟩
    cases hr : r with
    | error e => exact ⟨e, rfl⟩
    | ok a => exact absurd ((h a).mp hr).1 hP

variable {δ β : Type} {r' : Except δ β} {Q : Prop} {result : β}

/-- A computation that passes on the errors of its first part, and goes on with its result. -/
theorem seq (h : Accepts r P value) (herror : ∀ e, r = .error e → ∃ e', r' = .error e')
    (hok : r = .ok value → Accepts r' Q result) : Accepts r' (P ∧ Q) result := by
  rcases h.cases with ⟨hP, hr⟩ | ⟨hP, e, hr⟩
  · intro b
    rw [hok hr b, and_assoc, and_iff_right hP]
  · obtain ⟨e', rfl⟩ := herror e hr
    exact .of_error fun hboth => hP hboth.1

/-- A computation that passes on the errors of its part, and puts its result into a value. -/
theorem map (h : Accepts r P value) (herror : ∀ e, r = .error e → ∃ e', r' = .error e')
    (hok : r = .ok value → r' = .ok result) : Accepts r' P result := by
  rcases h.cases with ⟨hP, hr⟩ | ⟨hP, e, hr⟩
  · rw [hok hr]
    exact .of_ok hP
  · obtain ⟨e', rfl⟩ := herror e hr
    exact .of_error hP

end Accepts

/-! ### 5. Operands and statements -/

variable (slots : List SlotDecl)

theorem resolveType_resolveType (p : Place) (t : PlaceType) :
    resolveType slots p (resolveType slots p t) = resolveType slots p t := by
  unfold resolveType
  by_cases ht : t ≠ {} ∨ 0 < p.depth
  · simp only [if_pos ht]
  · simp only [if_neg ht]
    split
    · split <;> rfl
    · simp only [if_neg ht]

theorem accepts_lowerOperand (o : Source.Operand) :
    Accepts (lowerOperand slots o) o.Complete (o.argument slots) := by
  simp only [lowerOperand, Source.Operand.Complete, Source.Operand.argument, List.mem_cons,
    List.not_mem_nil, or_false]
  by_cases hconst : lower o.kind = "constant" ∨ lower o.kind = "const"
  · have hcopy : lower o.kind ≠ "copy" := by
      rcases hconst with h | h <;> simp [h]
    have hmove : lower o.kind ≠ "move" := by
      rcases hconst with h | h <;> simp [h]
    rw [if_pos hconst]
    cases o.place <;> simp only [if_neg hcopy, if_neg hmove] <;> exact .of_ok (.inl hconst)
  · rw [if_neg hconst]
    by_cases hkind : lower o.kind = "copy" ∨ lower o.kind = "move"
    · rw [if_pos hkind]
      cases o.place with
      | none => exact .of_error (by simp [hconst])
      | some p =>
        rcases hkind with h | h <;> simp only [h] <;> exact .of_ok (by simp)
    · rw [if_neg hkind]
      exact .of_error (by simp [hconst, hkind])

theorem assignOperand_argument (s : Source.Statement) (o : Source.Operand) :
    assignOperand slots s (o.argument slots) = o.uses.map (s.assign slots) := by
  simp only [Source.Operand.argument, Source.Operand.uses]
  cases o.place with
  | none => rfl
  | some p =>
    by_cases hcopy : lower o.kind = "copy"
    · simp [hcopy, assignOperand, Source.Statement.assign, resolveType_resolveType]
    · by_cases hmove : lower o.kind = "move"
      · simp [hmove, assignOperand, Source.Statement.assign, resolveType_resolveType]
      · simp [hcopy, hmove, assignOperand]

theorem accepts_assignOperands (s : Source.Statement) (os : List Source.Operand) :
    Accepts (assignOperands slots s os) (∀ o ∈ os, o.Complete)
      ((os.flatMap Source.Operand.uses).map (s.assign slots)) := by
  induction os with
  | nil => exact .of_ok (by simp)
  | cons o rest ih =>
    rw [assignOperands, List.forall_mem_cons, List.flatMap_cons, List.map_append,
      ← assignOperand_argument]
    refine (accepts_lowerOperand slots o).seq (fun e hr => ⟨e, by simp only [hr]⟩) fun hr => ?_
    exact ih.map (fun e hrs => ⟨e, by simp only [hr, hrs]⟩) fun hrs => by simp only [hr, hrs]

def outcome (s : Source.Statement) : Outcome :=
  if s.isModeled then .assigns (s.assignments slots)
  else .dropped (unmodeledKinds.contains (lower s.rvalue.kind))

/-- A statement whose right-hand side has operands. -/
theorem accepts_operandStatement {s : Source.Statement} (os : List Source.Operand)
    (hos : operandsOf? (lower s.rvalue.kind) s.rvalue = some (.ok os))
    (hmodeled : s.isModeled = true) (hcomplete : (∀ o ∈ os, o.Complete) ↔ s.rvalue.Complete)
    (huses : os.flatMap Source.Operand.uses = s.rvalue.uses) :
    Accepts (lowerStatement slots s) s.rvalue.Complete (outcome slots s) := by
  simp only [lowerStatement, hos, outcome, hmodeled, if_true, ← hcomplete,
    Source.Statement.assignments, ← huses]
  exact (accepts_assignOperands slots s os).map (fun e hr => ⟨.operand e, by simp only [hr]⟩)
    fun hr => by simp only [hr]

/-- A right-hand side that copies, moves or is a constant is an operand itself. -/
theorem accepts_ownStatement {s : Source.Statement}
    (h : lower s.rvalue.kind = "copy" ∨ lower s.rvalue.kind = "move" ∨
      lower s.rvalue.kind = "constant") :
    Accepts (lowerStatement slots s) s.rvalue.Complete (outcome slots s) := by
  have hlower : lower (lower s.rvalue.kind) = lower s.rvalue.kind := by
    rcases h with h | h | h <;> rw [h] <;> decide
  refine accepts_operandStatement slots [⟨lower s.rvalue.kind, s.rvalue.place, s.rvalue.type⟩]
    (by rw [operandsOf?, if_pos h]) ?_ ?_ ?_
  · rcases h with h | h | h <;> simp [Source.Statement.isModeled, Source.modeledKinds, h]
  · simp only [List.forall_mem_singleton, Source.Operand.Complete, hlower]
    rcases h with h | h | h <;> simp [Source.Rvalue.complete_iff, h]
  · simp only [List.flatMap_singleton, Source.Operand.uses, hlower, Source.Rvalue.uses]
    cases s.rvalue.place <;> rcases h with h | h | h <;> simp [h]

theorem accepts_innerStatement {s : Source.Statement}
    (h : lower s.rvalue.kind = "use" ∨ lower s.rvalue.kind = "cast" ∨
      lower s.rvalue.kind = "repeat") :
    Accepts (lowerStatement slots s) s.rvalue.Complete (outcome slots s) := by
  have hown : ¬(lower s.rvalue.kind = "copy" ∨ lower s.rvalue.kind = "move" ∨
      lower s.rvalue.kind = "constant") := by
    rcases h with h | h | h <;> simp [h]
  have hcomplete : s.rvalue.Complete ↔ ∃ o, s.rvalue.operand = some o ∧ o.Complete := by
    rcases h with h | h | h <;> simp [Source.Rvalue.complete_iff, h]
  cases hoperand : s.rvalue.operand with
  | none =>
    simp only [lowerStatement, operandsOf?, if_neg hown, if_pos h, hoperand]
    exact .of_error (by simp [hcomplete, hoperand])
  | some o =>
    refine accepts_operandStatement slots [o] ?_ ?_ ?_ ?_
    · simp only [operandsOf?, if_neg hown, if_pos h, hoperand]
    · rcases h with h | h | h <;> simp [Source.Statement.isModeled, Source.modeledKinds, h]
    · simp [hcomplete, hoperand]
    · rcases h with h | h | h <;> simp [Source.Rvalue.uses, hoperand, h]

theorem accepts_aggregateStatement {s : Source.Statement}
    (h : lower s.rvalue.kind = "aggregate") :
    Accepts (lowerStatement slots s) s.rvalue.Complete (outcome slots s) := by
  apply accepts_operandStatement slots s.rvalue.operands
  · simp [operandsOf?, h]
  · simp [Source.Statement.isModeled, Source.modeledKinds, h]
  · simp [Source.Rvalue.complete_iff, h]
  · simp [Source.Rvalue.uses, h]

theorem placeKind?_eq_some_iff {kind : String} {use : AssignKind} :
    placeKind? kind = some use ↔ kind = "ref" ∧ use = .ref ∨
      kind = "address-of" ∧ use = .addressOf ∨ kind = "discriminant" ∧ use = .move := by
  unfold placeKind?
  split_ifs <;> simp_all [eq_comm]

theorem accepts_placeStatement {s : Source.Statement} {use : AssignKind}
    (h : placeKind? (lower s.rvalue.kind) = some use) :
    Accepts (lowerStatement slots s) s.rvalue.Complete (outcome slots s) := by
  have hos : operandsOf? (lower s.rvalue.kind) s.rvalue = none := by
    rcases placeKind?_eq_some_iff.mp h with ⟨hkind, -⟩ | ⟨hkind, -⟩ | ⟨hkind, -⟩ <;>
      simp [operandsOf?, hkind]
  have hmodeled : s.isModeled = true := by
    rcases placeKind?_eq_some_iff.mp h with ⟨hkind, -⟩ | ⟨hkind, -⟩ | ⟨hkind, -⟩ <;>
      simp [Source.Statement.isModeled, Source.modeledKinds, hkind]
  have hcomplete : s.rvalue.Complete ↔ s.rvalue.place.isSome := by
    rcases placeKind?_eq_some_iff.mp h with ⟨hkind, -⟩ | ⟨hkind, -⟩ | ⟨hkind, -⟩ <;>
      simp [Source.Rvalue.complete_iff, hkind]
  have huses : s.rvalue.uses = s.rvalue.place.toList.map (⟨use, ·, s.rvalue.type⟩) := by
    rcases placeKind?_eq_some_iff.mp h with ⟨hkind, rfl⟩ | ⟨hkind, rfl⟩ | ⟨hkind, rfl⟩ <;>
      simp [Source.Rvalue.uses, hkind]
  simp only [lowerStatement, hos, h, outcome, hmodeled, if_true, hcomplete,
    Source.Statement.assignments, huses]
  cases s.rvalue.place with
  | none => exact .of_error (by simp)
  | some p => exact .of_ok rfl

/-- **Statements.**  A statement of a known kind needs its parts; any other one is dropped. -/
theorem accepts_lowerStatement (s : Source.Statement) :
    Accepts (lowerStatement slots s) s.rvalue.Complete (outcome slots s) := by
  by_cases hown : lower s.rvalue.kind = "copy" ∨ lower s.rvalue.kind = "move" ∨
      lower s.rvalue.kind = "constant"
  · exact accepts_ownStatement slots hown
  by_cases hinner : lower s.rvalue.kind = "use" ∨ lower s.rvalue.kind = "cast" ∨
      lower s.rvalue.kind = "repeat"
  · exact accepts_innerStatement slots hinner
  by_cases hall : lower s.rvalue.kind = "aggregate"
  · exact accepts_aggregateStatement slots hall
  cases hplace : placeKind? (lower s.rvalue.kind) with
  | some use => exact accepts_placeStatement slots hplace
  | none =>
    have hos : operandsOf? (lower s.rvalue.kind) s.rvalue = none := by
      rw [operandsOf?, if_neg hown, if_neg hinner, if_neg hall]
    have hno : ∀ use, placeKind? (lower s.rvalue.kind) ≠ some use := by simp [hplace]
    simp only [ne_eq, placeKind?_eq_some_iff, not_or] at hno hown hinner
    have href : lower s.rvalue.kind ≠ "ref" := fun h => (hno .ref).1 ⟨h, rfl⟩
    have haddress : lower s.rvalue.kind ≠ "address-of" := fun h => (hno .addressOf).2.1 ⟨h, rfl⟩
    have hdiscriminant : lower s.rvalue.kind ≠ "discriminant" := fun h => (hno .move).2.2 ⟨h, rfl⟩
    have hmodeled : s.isModeled = false := by
      simp [Source.Statement.isModeled, Source.modeledKinds, hown, hinner, hall, href, haddress,
        hdiscriminant]
    simp only [lowerStatement, hos, hplace, outcome, hmodeled]
    refine .of_ok ?_
    simp [Source.Rvalue.complete_iff, hown, hinner, hall, href, haddress, hdiscriminant]

theorem accepts_lowerStatements (ss : List Source.Statement) :
    Accepts (lowerStatements slots ss) (∀ s ∈ ss, s.rvalue.Complete)
      ((ss.filter (·.isModeled)).flatMap (·.assignments slots)) := by
  induction ss with
  | nil => exact .of_ok (by simp)
  | cons s rest ih =>
    rw [lowerStatements, List.forall_mem_cons]
    refine (accepts_lowerStatement slots s).seq (fun e hr => ⟨e, by simp only [hr]⟩) fun hr => ?_
    refine ih.map (fun e hrs => ⟨e, by simp only [hr, hrs]⟩) fun hrs => ?_
    simp only [hr, hrs, outcome]
    -- a dropped statement leaves the assignments of the others as they are
    cases hmodeled : s.isModeled <;> simp [hmodeled]

/-! ### 6. Blocks -/

theorem accepts_lowerArguments (os : List Source.Operand) : ∀ index : Nat,
    Accepts (lowerArguments slots index os) (∀ o ∈ os, o.Complete)
      (os.map (·.argument slots)) := by
  induction os with
  | nil => exact fun _ => .of_ok (by simp)
  | cons o rest ih =>
    intro index
    rw [lowerArguments, List.forall_mem_cons, List.map_cons]
    refine (accepts_lowerOperand slots o).seq
      (fun e hr => ⟨.argument index e, by simp only [hr]⟩) fun hr => ?_
    exact (ih (index + 1)).map (fun e hrs => ⟨e, by simp only [hr, hrs]⟩)
      fun hrs => by simp only [hr, hrs]

theorem accepts_lowerTerminator (b : Source.Block) :
    Accepts (lowerTerminator slots b)
      ((b.call = none ∨ b.drop = none) ∧ ∀ c ∈ b.call, c.Complete)
      (b.terminator slots) := by
  unfold lowerTerminator Source.Block.terminator
  cases b.call with
  | none => cases b.drop <;> exact .of_ok (by simp)
  | some c =>
    cases b.drop with
    | some d => exact .of_error (by simp)
    | none =>
      by_cases htarget : c.callee = "" ∧ c.candidates = []
      · simp only [if_pos htarget]
        exact .of_error fun h => (h.2 c rfl).target.elim (· htarget.1) (· htarget.2)
      · simp only [if_neg htarget]
        rw [not_and_or] at htarget
        have hcomplete : c.Complete ↔ ∀ o ∈ c.arguments, o.Complete :=
          ⟨fun h => h.arguments, fun h => ⟨htarget, h⟩⟩
        simp only [or_true, true_and, Option.mem_some_iff, forall_eq', hcomplete]
        exact (accepts_lowerArguments slots c.arguments 0).map
          (fun e hr => ⟨e, by simp only [hr]⟩) fun hr => by simp only [hr]

theorem accepts_lowerBlock (b : Source.Block) :
    Accepts (lowerBlock slots b) b.Complete (b.lowered slots) := by
  rw [Source.Block.complete_iff]
  unfold lowerBlock
  refine (accepts_lowerStatements slots b.statements).seq
    (fun e hr => ⟨e, by simp only [hr]⟩) fun hr => ?_
  exact (accepts_lowerTerminator slots b).map (fun e hrs => ⟨e, by simp only [hr, hrs]⟩)
    fun hrs => by simp only [hr, hrs, Source.Block.lowered]

/-- Blocks are lowered one by one, and each has an identifier that no block before it has. -/
theorem accepts_lowerBlocks (name : String) (bs : List Source.Block) : ∀ seen : List Int,
    Accepts (lowerBlocks name slots seen bs)
      (((bs.map (·.id)).Nodup ∧ ∀ b ∈ bs, b.id ∉ seen) ∧ ∀ b ∈ bs, b.Complete)
      (bs.map (·.lowered slots)) := by
  induction bs with
  | nil => exact fun _ => .of_ok (by simp)
  | cons b rest ih =>
    intro seen
    rw [lowerBlocks]
    by_cases hseen : b.id ∈ seen
    · simp only [List.contains_iff_mem, hseen, if_true]
      exact .of_error fun h => h.1.2 b List.mem_cons_self hseen
    · simp only [List.contains_iff_mem, hseen, if_false]
      have hcondition : (((b :: rest).map (·.id)).Nodup ∧ ∀ c ∈ b :: rest, c.id ∉ seen) ↔
          (rest.map (·.id)).Nodup ∧ ∀ c ∈ rest, c.id ∉ b.id :: seen := by
        simp only [List.map_cons, List.nodup_cons, List.mem_map, List.mem_cons]
        grind
      rw [hcondition, List.forall_mem_cons, and_left_comm]
      refine (accepts_lowerBlock slots b).seq
        (fun e hr => ⟨.inBlock name b.id e, by simp only [hr]⟩) fun hr => ?_
      exact (ih (b.id :: seen)).map (fun e hrs => ⟨e, by simp only [hr, hrs]⟩)
        fun hrs => by simp only [hr, hrs, List.map_cons]

/-! ### 7. Functions -/

theorem repeatedSlot?_eq_none_iff {decls : List SlotDecl} : ∀ {seen : List Int},
    repeatedSlot? seen decls = none ↔
      (decls.map (·.slot)).Nodup ∧ ∀ d ∈ decls, d.slot ∉ seen := by
  induction decls with
  | nil => simp [repeatedSlot?]
  | cons d rest ih =>
    intro seen
    rw [repeatedSlot?, List.map_cons, List.nodup_cons, List.forall_mem_cons]
    by_cases hseen : d.slot ∈ seen
    · simp [hseen]
    · simp only [List.contains_iff_mem, hseen, if_false, ih, List.mem_cons, List.mem_map]
      grind

theorem danglingSuccessor?_eq_none_iff {blocks : List Block} :
    danglingSuccessor? blocks = none ↔
      ∀ b ∈ blocks, ∀ s ∈ b.successors, s ∈ blocks.map (·.id) := by
  simp [danglingSuccessor?]

theorem map_id_lowered (bs : List Source.Block) :
    (bs.map (·.lowered slots)).map (·.id) = bs.map (·.id) := by
  rw [List.map_map]
  rfl

theorem accepts_lowerFunction (id : Int) (f : Source.Function) :
    Accepts (lowerFunction id f) f.WellFormed (f.lowered id) := by
  unfold lowerFunction
  cases hslots : repeatedSlot? [] f.slots with
  | some d =>
    refine .of_error fun h => ?_
    have hnone : repeatedSlot? [] f.slots = none :=
      repeatedSlot?_eq_none_iff.mpr ⟨h.slots, by simp⟩
    rw [hslots] at hnone
    exact nomatch hnone
  | none =>
    rcases (accepts_lowerBlocks f.slots f.name f.blocks []).cases with
      ⟨⟨⟨hids, -⟩, hall⟩, hr⟩ | ⟨hblocks, e, hr⟩
    · have hentry : (f.blocks.map (·.lowered f.slots)).any (·.id = f.entry) = true ↔
          f.entry ∈ f.blocks.map (·.id) := by
        rw [← map_id_lowered f.slots, List.mem_map]
        simp
      simp only [hr]
      cases hfound : (f.blocks.map (·.lowered f.slots)).any (·.id = f.entry) with
      | false =>
        refine .of_error fun h => ?_
        rw [hentry.mpr h.entry] at hfound
        exact nomatch hfound
      | true =>
        have hsuccessors := @danglingSuccessor?_eq_none_iff (f.blocks.map (·.lowered f.slots))
        rw [map_id_lowered, List.forall_mem_map] at hsuccessors
        cases hdangling : danglingSuccessor? (f.blocks.map (·.lowered f.slots)) with
        | none =>
          refine .of_ok ⟨(repeatedSlot?_eq_none_iff.mp hslots).1, hids, hentry.mp hfound, ?_, hall⟩
          exact hsuccessors.mp hdangling
        | some missing =>
          refine .of_error fun h => ?_
          rw [hsuccessors.mpr h.successors] at hdangling
          exact nomatch hdangling
    · simp only [hr]
      exact .of_error fun h => hblocks ⟨⟨h.blocks, by simp⟩, h.complete⟩

/-- **Lowering accepts exactly the well-formed functions**, and gives the body that they stand
    for: block by block, with the assignments of the statements that are kept. -/
theorem lowerFunction_exact (id : Int) (f : Source.Function) :
    ((∃ b, lowerFunction id f = .ok b) ↔ f.WellFormed) ∧
      ∀ b, lowerFunction id f = .ok b ↔ f.WellFormed ∧ b = f.lowered id := by
  have haccepts := accepts_lowerFunction id f
  refine ⟨⟨?_, fun h => ⟨_, (haccepts _).mpr ⟨h, rfl⟩⟩⟩, haccepts⟩
  rintro ⟨b, hb⟩
  exact ((haccepts b).mp hb).1

/-- An argument without a place is refused, and a successor that is no block. -/
example :
    let block (c : Source.Call) (next : Int) : Source.Function :=
      { name := "f", entry := 0, blocks := [{ id := 0, successors := [next], call := some c }] }
    (block { callee := "g", arguments := [⟨"CONST", none, {}⟩] } 0).WellFormed ∧
      ¬(block { callee := "g", arguments := [⟨"Move", none, {}⟩] } 0).WellFormed ∧
      ¬(block { callee := "g" } 1).WellFormed := by
  decide

/-! ### 8. Kinds in any case -/

namespace Source

def Operand.inLower (o : Operand) : Operand := { o with kind := lower o.kind }

def Rvalue.inLower (r : Rvalue) : Rvalue where
  kind := lower r.kind
  place := r.place
  type := r.type
  operand := r.operand.map (·.inLower)
  operands := r.operands.map (·.inLower)

def Statement.inLower (s : Statement) : Statement := { s with rvalue := s.rvalue.inLower }

def Call.inLower (c : Call) : Call := { c with arguments := c.arguments.map (·.inLower) }

def Block.inLower (b : Block) : Block :=
  { b with statements := b.statements.map (·.inLower), call := b.call.map (·.inLower) }

/-- A function with all its kinds in lower case.  Two functions that differ only in the case of
    their kinds become the same. -/
def Function.inLower (f : Function) : Function := { f with blocks := f.blocks.map (·.inLower) }

theorem Operand.complete_inLower (o : Operand) : o.inLower.Complete ↔ o.Complete := by
  simp only [Operand.Complete, Operand.inLower, lower_lower]

theorem Rvalue.complete_inLower (r : Rvalue) : r.inLower.Complete ↔ r.Complete := by
  simp only [Rvalue.complete_iff, Rvalue.inLower, lower_lower, Option.mem_def,
    Option.map_eq_some_iff, List.forall_mem_map, exists_exists_and_eq_and,
    Operand.complete_inLower]

theorem Call.complete_inLower (c : Call) : c.inLower.Complete ↔ c.Complete := by
  simp only [Call.complete_iff, Call.inLower, List.forall_mem_map, Operand.complete_inLower]

theorem Block.complete_inLower (b : Block) : b.inLower.Complete ↔ b.Complete := by
  simp only [Block.complete_iff, Block.inLower, Statement.inLower, List.forall_mem_map,
    Option.mem_def, Option.map_eq_some_iff, forall_exists_index, and_imp,
    forall_apply_eq_imp_iff₂, Option.map_eq_none_iff, Rvalue.complete_inLower,
    Call.complete_inLower]

theorem Function.wellFormed_inLower (f : Function) : f.inLower.WellFormed ↔ f.WellFormed := by
  have hids : f.inLower.blocks.map (·.id) = f.blocks.map (·.id) := by
    rw [Function.inLower, List.map_map]
    rfl
  simp only [Function.wellFormed_iff, hids]
  simp only [Function.inLower, List.forall_mem_map, Block.complete_inLower]
  rfl

theorem Operand.uses_inLower (o : Operand) : o.inLower.uses = o.uses := by
  simp only [Operand.uses, Operand.inLower, lower_lower]

theorem Operand.argument_inLower (slots : List SlotDecl) (o : Operand) :
    o.inLower.argument slots = o.argument slots := by
  simp only [Operand.argument, Operand.inLower, lower_lower]

theorem Rvalue.uses_inLower (r : Rvalue) : r.inLower.uses = r.uses := by
  have hinner : (r.operand.map (·.inLower)).toList.flatMap Operand.uses =
      r.operand.toList.flatMap Operand.uses := by
    cases r.operand <;> simp [Operand.uses_inLower]
  have hall : (r.operands.map (·.inLower)).flatMap Operand.uses =
      r.operands.flatMap Operand.uses := by
    simp only [List.flatMap_map, Operand.uses_inLower]
  simp only [Rvalue.uses, Rvalue.inLower, lower_lower, hinner, hall]

theorem Statement.isModeled_inLower (s : Statement) : s.inLower.isModeled = s.isModeled := by
  simp only [Statement.isModeled, Statement.inLower, Rvalue.inLower, lower_lower]

theorem Statement.assignments_inLower (slots : List SlotDecl) (s : Statement) :
    s.inLower.assignments slots = s.assignments slots := by
  have huses : s.inLower.rvalue.uses = s.rvalue.uses := s.rvalue.uses_inLower
  rw [Statement.assignments, huses]
  rfl

theorem Block.terminator_inLower (slots : List SlotDecl) (b : Block) :
    b.inLower.terminator slots = b.terminator slots := by
  simp only [Block.terminator, Block.inLower]
  cases b.call <;> simp [Call.inLower, Function.comp_def, Operand.argument_inLower]

theorem Block.lowered_inLower (slots : List SlotDecl) (b : Block) :
    b.inLower.lowered slots = b.lowered slots := by
  have hassigned :
      (b.inLower.statements.filter (·.isModeled)).flatMap (·.assignments slots) =
        (b.statements.filter (·.isModeled)).flatMap (·.assignments slots) := by
    simp only [Block.inLower, List.filter_map, List.flatMap_map, Function.comp_def,
      Statement.isModeled_inLower, Statement.assignments_inLower]
  rw [Block.lowered, hassigned, b.terminator_inLower slots]
  rfl

theorem Function.lowered_inLower (id : Int) (f : Function) :
    f.inLower.lowered id = f.lowered id := by
  simp only [Function.lowered, Function.inLower, List.map_map]
  congr 1
  exact List.map_congr_left fun b _ => b.lowered_inLower f.slots

end Source

/-- **Kinds are read in any case.**  Functions that differ only in the case of their kinds are
    accepted alike, and become the same body. -/
theorem lowerFunction_eq_ok_iff_of_inLower_eq {f g : Source.Function} (h : f.inLower = g.inLower)
    (id : Int) (b : Body) : lowerFunction id f = .ok b ↔ lowerFunction id g = .ok b := by
  rw [accepts_lowerFunction id f b, accepts_lowerFunction id g b, ← f.wellFormed_inLower,
    ← f.lowered_inLower id, h, g.wellFormed_inLower, g.lowered_inLower id]

/-- A kind in capital letters, and a statement that leaves no trace as it is not modeled. -/
example : (Source.Block.lowered [⟨1, ⟨.reference, ""⟩, false, "r"⟩] {
    id := 4
    statements := [
      { left := ⟨2, []⟩, rvalue := { kind := "Binary-Op" } },
      { left := ⟨2, []⟩
        rvalue := { kind := "AGGREGATE"
                    operands := [⟨"const", none, {}⟩, ⟨"Copy", some ⟨1, []⟩, {}⟩,
                      ⟨"move", some ⟨3, [.deref]⟩, {}⟩] } }] }).assignments =
    [⟨⟨2, []⟩, ⟨1, []⟩, ⟨.reference, ""⟩, .copy, {}⟩,
     ⟨⟨2, []⟩, ⟨3, [.deref]⟩, {}, .move, {}⟩] := by
  decide

end DropFlow
