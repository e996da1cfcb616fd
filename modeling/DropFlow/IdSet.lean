/-
  DropFlow/IdSet.lean
  ===================
  Finite sets of identifiers, kept as strictly increasing lists.  There is one list
  for each set, so that equal sets are equal values and print alike.
-/
import DropFlow.Text.Decimal

namespace DropFlow

open DropFlow.Text

/-- Adds an element to a strictly increasing list, in its place. -/
def insertSorted (x : Int) : List Int → List Int
  | [] => [x]
  | y :: rest =>
    if x < y then x :: y :: rest
    else if x = y then y :: rest
    else y :: insertSorted x rest

@[simp] theorem mem_insertSorted (x a : Int) (l : List Int) :
    a ∈ insertSorted x l ↔ a = x ∨ a ∈ l := by
  induction l with
  | nil => simp [insertSorted]
  | cons y rest ih =>
    simp only [insertSorted]
    split
    · simp
    · split
      · rename_i h; subst h; simp
      · simp only [List.mem_cons, ih]
        constructor
        · rintro (h | h | h) <;> simp [h]
        · rintro (h | h | h) <;> simp [h]

theorem pairwise_insertSorted (x : Int) (l : List Int) (h : l.Pairwise (· < ·)) :
    (insertSorted x l).Pairwise (· < ·) := by
  induction l with
  | nil => simp [insertSorted]
  | cons y rest ih =>
    rw [List.pairwise_cons] at h
    simp only [insertSorted]
    split
    · rename_i hxy
      rw [List.pairwise_cons, List.pairwise_cons]
      refine ⟨fun a ha => ?_, h.1, h.2⟩
      rcases List.mem_cons.mp ha with rfl | ha
      · exact hxy
      · exact Int.lt_trans hxy (h.1 a ha)
    · split
      · exact List.pairwise_cons.mpr h
      · rename_i h1 h2
        rw [List.pairwise_cons]
        refine ⟨fun a ha => ?_, ih h.2⟩
        rcases (mem_insertSorted x a rest).mp ha with rfl | ha
        · omega
        · exact h.1 a ha

/-- A finite set of identifiers. -/
structure IdSet where
  toList : List Int
  sorted : toList.Pairwise (· < ·)
  deriving DecidableEq, Repr

namespace IdSet

def empty : IdSet := ⟨[], .nil⟩

instance : Inhabited IdSet := ⟨empty⟩

instance : EmptyCollection IdSet := ⟨empty⟩

/-- Membership is membership in the list. -/
instance : Membership Int IdSet := ⟨fun s x => x ∈ s.toList⟩

instance (x : Int) (s : IdSet) : Decidable (x ∈ s) := inferInstanceAs (Decidable (x ∈ s.toList))

def isEmpty (s : IdSet) : Bool := s.toList.isEmpty

def size (s : IdSet) : Nat := s.toList.length

def insert (s : IdSet) (x : Int) : IdSet :=
  ⟨insertSorted x s.toList, pairwise_insertSorted x s.toList s.sorted⟩

def ofList (l : List Int) : IdSet := l.foldl insert empty

def singleton (x : Int) : IdSet := ⟨[x], List.pairwise_singleton _ x⟩

def union (s t : IdSet) : IdSet := t.toList.foldl insert s

def diff (s t : IdSet) : IdSet :=
  ⟨s.toList.filter fun x => decide (x ∉ t), s.sorted.filter _⟩

/-- The elements between braces, in increasing order. -/
def text (s : IdSet) : String :=
  "\x7b" ++ " ".intercalate (s.toList.map decimal) ++ "\x7d"

/-! ### Membership after each operation -/

theorem mem_def {x : Int} {s : IdSet} : x ∈ s ↔ x ∈ s.toList := Iff.rfl

@[simp] theorem not_mem_empty (x : Int) : x ∉ (∅ : IdSet) := fun h => nomatch h

@[simp] theorem mem_insert {s : IdSet} {x y : Int} : y ∈ s.insert x ↔ y = x ∨ y ∈ s :=
  mem_insertSorted x y s.toList

@[simp] theorem mem_singleton {x y : Int} : y ∈ singleton x ↔ y = x := by
  simp [mem_def, singleton]

theorem mem_foldl_insert (l : List Int) (s : IdSet) (x : Int) :
    x ∈ l.foldl insert s ↔ x ∈ s ∨ x ∈ l := by
  induction l generalizing s with
  | nil => simp
  | cons y rest ih =>
    rw [List.foldl_cons, ih, mem_insert, List.mem_cons]
    constructor
    · rintro ((h | h) | h) <;> simp [h]
    · rintro (h | h | h) <;> simp [h]

@[simp] theorem mem_union {s t : IdSet} {x : Int} : x ∈ s.union t ↔ x ∈ s ∨ x ∈ t :=
  mem_foldl_insert t.toList s x

@[simp] theorem mem_ofList {l : List Int} {x : Int} : x ∈ ofList l ↔ x ∈ l := by
  rw [ofList, mem_foldl_insert]
  exact ⟨fun h => h.resolve_left (not_mem_empty x), Or.inr⟩

@[simp] theorem mem_diff {s t : IdSet} {x : Int} : x ∈ s.diff t ↔ x ∈ s ∧ x ∉ t := by
  simp [mem_def, diff]

theorem isEmpty_iff {s : IdSet} : s.isEmpty = true ↔ ∀ x, x ∉ s := by
  simp only [isEmpty, List.isEmpty_iff, List.eq_nil_iff_forall_not_mem, mem_def]

theorem isEmpty_eq_false_iff {s : IdSet} : s.isEmpty = false ↔ ∃ x, x ∈ s := by
  rw [← Bool.not_eq_true, isEmpty_iff]
  exact ⟨fun h => Classical.byContradiction fun hno => h fun x hx => hno ⟨x, hx⟩,
    fun ⟨x, hx⟩ h => h x hx⟩

theorem ext {s t : IdSet} (h : ∀ x, x ∈ s ↔ x ∈ t) : s = t := by
  obtain ⟨l, hl⟩ := s
  obtain ⟨m, hm⟩ := t
  have heq : l = m := by
    induction l generalizing m with
    | nil =>
      cases m with
      | nil => rfl
      | cons y m => exact absurd ((h y).mpr (List.mem_cons_self ..)) (List.not_mem_nil)
    | cons x l ih =>
      cases m with
      | nil => exact absurd ((h x).mp (List.mem_cons_self ..)) (List.not_mem_nil)
      | cons y m =>
        rw [List.pairwise_cons] at hl hm
        -- the least elements agree, and what is left has the same elements
        have hxy : x = y := by
          rcases List.mem_cons.mp ((h x).mp (List.mem_cons_self ..)) with hx | hx
          · exact hx
          · rcases List.mem_cons.mp ((h y).mpr (List.mem_cons_self ..)) with hy | hy
            · exact hy.symm
            · have hlt := hl.1 y hy
              have hlt' := hm.1 x hx
              omega
        subst hxy
        have htail : l = m := by
          refine ih hl.2 m hm.2 fun z => ⟨fun hz => ?_, fun hz => ?_⟩
          · rcases List.mem_cons.mp ((h z).mp (List.mem_cons_of_mem x hz)) with rfl | hz'
            · exact absurd (hl.1 z hz) (Int.lt_irrefl z)
            · exact hz'
          · rcases List.mem_cons.mp ((h z).mpr (List.mem_cons_of_mem x hz)) with rfl | hz'
            · exact absurd (hm.1 z hz) (Int.lt_irrefl z)
            · exact hz'
        rw [htail]
  subst heq
  rfl

end IdSet

end DropFlow
