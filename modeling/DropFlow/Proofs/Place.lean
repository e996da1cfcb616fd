/-
  DropFlow/Proofs/Place.lean
  ==========================
  The key of a place tells it from all other places.

  A key is the slot in decimal, then for each step a point and the step in its canonical
  spelling.  Neither a number nor a step contains a point, so the points divide a key in
  one way only; and a number is what its digits are read as.
-/
import DropFlow.Place

namespace DropFlow

open DropFlow.Text

/-! ### 1. Numbers -/

namespace Text

theorem digitValue?_digitChar {d : Nat} (h : d < 10) : digitValue? (digitChar d) = some d := by
  have hall : ∀ d : Fin 10, digitValue? (digitChar d) = some d.val := by decide
  exact hall ⟨d, h⟩

theorem numeralFrom?_append_digit {n d : Nat} (h : d < 10) (cs : List Char) : ∀ acc : Nat,
    numeralFrom? acc cs = some n →
      numeralFrom? acc (cs ++ [digitChar d]) = some (10 * n + d) := by
  induction cs with
  | nil =>
    intro acc hn
    cases hn
    simp [numeralFrom?, digitValue?_digitChar h]
  | cons c rest ih =>
    intro acc hn
    rw [List.cons_append, numeralFrom?]
    rw [numeralFrom?] at hn
    split at hn
    · exact nomatch hn
    · exact ih _ hn

/-- Reading the digits of a number gives the number. -/
theorem numeralFrom?_digits (n : Nat) : numeralFrom? 0 (digits n) = some n := by
  induction n using Nat.strongRecOn with
  | ind n ih =>
    rw [digits]
    split
    · rename_i hn
      simp [numeralFrom?, digitValue?_digitChar hn]
    · have hread := numeralFrom?_append_digit (Nat.mod_lt n (by omega)) _ 0
        (ih (n / 10) (by omega))
      rw [hread, Nat.div_add_mod]

theorem digits_inj {m n : Nat} (h : digits m = digits n) : m = n := by
  have hsame : some m = some n := by
    rw [← numeralFrom?_digits m, ← numeralFrom?_digits n, h]
  exact Option.some.inj hsame

theorem digitValue?_isSome_of_mem {c : Char} {n : Nat} (h : c ∈ digits n) :
    (digitValue? c).isSome := by
  induction n using Nat.strongRecOn with
  | ind n ih =>
    rw [digits] at h
    split at h
    · rename_i hn
      rw [List.mem_singleton.mp h, digitValue?_digitChar hn]
      rfl
    · rcases List.mem_append.mp h with h | h
      · exact ih (n / 10) (by omega) h
      · rw [List.mem_singleton.mp h, digitValue?_digitChar (Nat.mod_lt n (by omega))]
        rfl

theorem not_mem_digits {c : Char} (hc : digitValue? c = none) (n : Nat) : c ∉ digits n := by
  intro h
  have hsome := digitValue?_isSome_of_mem h
  rw [hc] at hsome
  exact nomatch hsome

theorem not_mem_decimalChars {c : Char} (hc : digitValue? c = none) (hminus : c ≠ '-') (i : Int) :
    c ∉ decimalChars i := by
  cases i with
  | ofNat n => exact not_mem_digits hc n
  | negSucc n =>
    intro h
    rcases List.mem_cons.mp h with h | h
    · exact hminus h
    · exact not_mem_digits hc (n + 1) h

theorem point_not_mem_decimalChars (i : Int) : '.' ∉ decimalChars i :=
  not_mem_decimalChars (by decide) (by decide) i

theorem decimalChars_inj {i j : Int} (h : decimalChars i = decimalChars j) : i = j := by
  -- a minus sign is no digit
  have hminus : ∀ m n : Nat, '-' :: digits m ≠ digits n := by
    intro m n heq
    exact not_mem_digits (c := '-') (by decide) n (heq ▸ List.mem_cons_self)
  cases i with
  | ofNat m =>
    cases j with
    | ofNat n => rw [digits_inj h]
    | negSucc n => exact absurd h.symm (hminus _ _)
  | negSucc m =>
    cases j with
    | ofNat n => exact absurd h (hminus _ _)
    | negSucc n =>
      have hsucc := digits_inj (List.cons.inj h).2
      rw [Nat.succ.inj hsucc]

end Text

/-! ### 2. Steps -/

namespace Projection

theorem point_not_mem_chars (s : Projection) : '.' ∉ s.chars := by
  cases s with
  | deref => decide
  | index => decide
  | field i =>
    intro h
    rcases List.mem_append.mp h with h | h
    · exact absurd h (by decide)
    · exact not_mem_digits (by decide) i h
  | downcast i =>
    intro h
    rcases List.mem_append.mp h with h | h
    · exact absurd h (by decide)
    · exact not_mem_digits (by decide) i h

/-- The first two letters tell the kinds of steps apart. -/
theorem take_chars (s : Projection) : s.chars.take 2 =
    match s with
    | .deref => ['d', 'e']
    | .field _ => ['f', 'i']
    | .index => ['i', 'n']
    | .downcast _ => ['d', 'o'] := by
  cases s <;> rfl

theorem chars_inj {s t : Projection} (h : s.chars = t.chars) : s = t := by
  have hkind := congrArg (List.take 2) h
  rw [take_chars, take_chars] at hkind
  cases s with
  | deref =>
    cases t with
    | deref => rfl
    | _ => simp at hkind
  | index =>
    cases t with
    | index => rfl
    | _ => simp at hkind
  | field i =>
    cases t with
    | field j =>
      unfold chars at h
      rw [digits_inj (List.append_cancel_left h)]
    | _ => simp at hkind
  | downcast i =>
    cases t with
    | downcast j =>
      unfold chars at h
      rw [digits_inj (List.append_cancel_left h)]
    | _ => simp at hkind

end Projection

/-! ### 3. Places -/

namespace Place

/-- The characters of steps, each after a point. -/
def stepsChars (steps : List Projection) : List Char := steps.flatMap fun s => '.' :: s.chars

theorem stepsChars_cons (s : Projection) (rest : List Projection) :
    stepsChars (s :: rest) = '.' :: (s.chars ++ stepsChars rest) := by
  simp [stepsChars]

/-- What stands before the first point of a text, and what stands from there on. -/
theorem append_stepsChars_inj {as bs : List Char} (ha : '.' ∉ as) (hb : '.' ∉ bs)
    {ss ts : List Projection} (h : as ++ stepsChars ss = bs ++ stepsChars ts) :
    as = bs ∧ stepsChars ss = stepsChars ts := by
  have hcut : ∀ (cs : List Char) (us : List Projection), '.' ∉ cs →
      (cs ++ stepsChars us).takeWhile (· != '.') = cs := by
    intro cs us hc
    have hall : ∀ c ∈ cs, (c != '.') = true := by
      intro c hm
      simpa using fun heq : c = '.' => hc (heq ▸ hm)
    rw [List.takeWhile_append_of_pos hall]
    cases us with
    | nil => simp [stepsChars]
    | cons s rest => simp [stepsChars_cons]
  have hfirst : as = bs := by rw [← hcut as ss ha, h, hcut bs ts hb]
  subst hfirst
  exact ⟨rfl, List.append_cancel_left h⟩

theorem stepsChars_inj {ss : List Projection} :
    ∀ {ts : List Projection}, stepsChars ss = stepsChars ts → ss = ts := by
  induction ss with
  | nil =>
    intro ts h
    cases ts with
    | nil => rfl
    | cons t ts =>
      rw [stepsChars_cons] at h
      exact nomatch h
  | cons s ss ih =>
    intro ts h
    cases ts with
    | nil =>
      rw [stepsChars_cons] at h
      exact nomatch h
    | cons t ts =>
      rw [stepsChars_cons, stepsChars_cons] at h
      obtain ⟨hstep, hrest⟩ := append_stepsChars_inj s.point_not_mem_chars t.point_not_mem_chars
        (List.cons.inj h).2
      rw [Projection.chars_inj hstep, ih hrest]

/-- **Places with the same key are the same place.** -/
theorem key_inj {p q : Place} : p.key = q.key ↔ p = q := by
  constructor
  · intro h
    obtain ⟨slot, steps⟩ := p
    obtain ⟨slot', steps'⟩ := q
    obtain ⟨hslot, hsteps⟩ := append_stepsChars_inj (point_not_mem_decimalChars slot)
      (point_not_mem_decimalChars slot') (String.ofList_injective h)
    rw [decimalChars_inj hslot, (stepsChars_inj hsteps : steps = steps')]
  · exact congrArg key

end Place

end DropFlow
