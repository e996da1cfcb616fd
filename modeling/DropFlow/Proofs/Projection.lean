/-
  DropFlow/Proofs/Projection.lean
  ===============================
  The spelling of steps, in both directions.

  A step is read leniently and written in one way.  What is read has an index that fits a
  signed word (`Projection.fits_of_parse`), and a step with such an index is read back from
  its canonical spelling (`Projection.parse_text`).
-/
import DropFlow.Proofs.Place
import Mathlib.Data.List.TakeWhile

namespace DropFlow

open DropFlow.Text

/-! ### 1. Digits and words -/

namespace Text

/-- An integer of a signed word. -/
def IsWord (i : Int) : Prop := minWord ≤ i ∧ i ≤ maxWord

theorem word?_eq_some_iff {i j : Int} : word? i = some j ↔ IsWord i ∧ i = j := by
  simp only [word?, IsWord, Option.ite_none_right_eq_some, Option.some.injEq]

theorem exists_digit_of_mem {c : Char} {n : Nat} (h : c ∈ digits n) :
    ∃ d : Fin 10, c = digitChar d := by
  induction n using Nat.strongRecOn with
  | ind n ih =>
    rw [digits] at h
    split at h
    · rename_i hn
      exact ⟨⟨n, hn⟩, List.mem_singleton.mp h⟩
    · rcases List.mem_append.mp h with h | h
      · exact ih (n / 10) (by omega) h
      · exact ⟨⟨n % 10, Nat.mod_lt n (by omega)⟩, List.mem_singleton.mp h⟩

/-- What holds of the ten digits holds of every character of a number. -/
theorem forall_mem_digits {P : Char → Prop} (h : ∀ d : Fin 10, P (digitChar d)) (n : Nat) :
    ∀ c ∈ digits n, P c := by
  intro c hc
  obtain ⟨d, rfl⟩ := exists_digit_of_mem hc
  exact h d

theorem digits_ne_nil (n : Nat) : digits n ≠ [] := by
  rw [digits]
  split <;> simp

theorem readWord?_digits {n : Nat} (h : IsWord n) : readWord? (digits n) = some (n : Int) := by
  obtain ⟨c, rest, hdigits⟩ := List.exists_cons_of_ne_nil (digits_ne_nil n)
  have hsign : c ≠ '-' ∧ c ≠ '+' :=
    forall_mem_digits (P := fun c => c ≠ '-' ∧ c ≠ '+') (by decide) n c (by simp [hdigits])
  have hunsigned : readWord? (c :: rest) =
      (numeralFrom? 0 (c :: rest)).bind fun n => word? (n : Int) := by
    unfold readWord?
    split <;> simp_all [numeral?]
  rw [hdigits, hunsigned, ← hdigits, numeralFrom?_digits, Option.bind_some]
  exact word?_eq_some_iff.mpr ⟨h, rfl⟩

theorem isWord_of_readWord? {cs : List Char} {i : Int} (h : readWord? cs = some i) : IsWord i := by
  unfold readWord? at h
  split at h
  all_goals
    obtain ⟨n, _, hn⟩ := Option.bind_eq_some_iff.mp h
    obtain ⟨hword, rfl⟩ := word?_eq_some_iff.mp hn
    exact hword

theorem trimChars_eq_self {cs : List Char} (h : ∀ c ∈ cs, isSpace c = false) :
    trimChars cs = cs := by
  have hkept : ∀ {cs : List Char}, (∀ c ∈ cs, isSpace c = false) → cs.dropWhile isSpace = cs := by
    intro cs h
    cases cs with
    | nil => rfl
    | cons c rest => rw [List.dropWhile_cons, h c (List.mem_cons_self ..)]; rfl
  rw [trimChars, hkept h, hkept (by simpa using h), List.reverse_reverse]

end Text

/-! ### 2. Steps -/

namespace Projection

/-- A step whose index, if it has one, fits a signed word. -/
def Fits : Projection → Prop
  | .field i => IsWord i
  | .downcast i => IsWord i
  | _ => True

theorem eq_of_bare {text : String} {p s : Projection} {argument : Option (List Char)}
    (h : bare text p argument = .ok s) : p = s := by
  cases argument with
  | none =>
    cases h
    rfl
  | some cs => exact nomatch h

theorem exists_of_indexed {text : String} {make : Nat → Projection} {s : Projection}
    {argument : Option (List Char)} (h : indexed text make argument = .ok s) :
    ∃ i : Nat, IsWord i ∧ make i = s := by
  cases argument with
  | none => exact nomatch h
  | some cs =>
    simp only [indexed] at h
    split at h
    · rename_i i hi
      cases h
      exact ⟨i, isWord_of_readWord? hi, rfl⟩
    · exact nomatch h

theorem fits_of_parse {text : String} {s : Projection} (h : parse text = .ok s) : s.Fits := by
  simp only [parse] at h
  split_ifs at h
  · obtain rfl := eq_of_bare h
    trivial
  · obtain ⟨i, hi, rfl⟩ := exists_of_indexed h
    exact hi
  · obtain rfl := eq_of_bare h
    trivial
  · obtain ⟨i, hi, rfl⟩ := exists_of_indexed h
    exact hi

theorem indexed_digits {i : Nat} (h : IsWord i) (text : String) (make : Nat → Projection) :
    indexed text make (some (digits i)) = .ok (make i) := by
  rw [indexed, readWord?_digits h]

theorem isSpace_of_mem_chars (s : Projection) : ∀ c ∈ s.chars, isSpace c = false := by
  have hdigits := fun n => forall_mem_digits (P := fun c => isSpace c = false) (by decide) n
  have hname : ∀ {cs : List Char}, cs.all (fun c => !isSpace c) = true →
      ∀ c ∈ cs, isSpace c = false := by
    intro cs h c hc
    simpa using List.all_eq_true.mp h c hc
  cases s with
  | deref => exact hname rfl
  | index => exact hname rfl
  | field i => exact List.forall_mem_append.mpr ⟨hname rfl, hdigits i⟩
  | downcast i => exact List.forall_mem_append.mpr ⟨hname rfl, hdigits i⟩

/-- **The canonical spelling of a step is read as that step.** -/
theorem parse_text {s : Projection} (h : s.Fits) : parse s.text = .ok s := by
  have htrim : trimChars s.text.toList = s.chars := by
    rw [text, String.toList_ofList, trimChars_eq_self s.isSpace_of_mem_chars]
  simp only [parse, htrim]
  cases s with
  | deref => rfl
  | index => rfl
  | field i =>
    have hcut : cutChars ':' (chars (.field i)) = ("field".toList, some (digits i)) := rfl
    rw [hcut]
    exact indexed_digits h _ _
  | downcast i =>
    have hcut : cutChars ':' (chars (.downcast i)) = ("downcast".toList, some (digits i)) := rfl
    rw [hcut]
    exact indexed_digits h _ _

end Projection

end DropFlow
