/-
  DropFlow/Proofs/Projection/Spelling.lean
  ========================================
  Which texts are read as a step, and as which step.

  `Spells` lists the spellings of a step: two names for following a pointer and for selecting
  an element, and a name, a colon and an index for the other two, where the index may have a
  sign and leading zeros.  Reading accepts these with white space around them and nothing
  else (`Projection.parse_eq_ok_iff`).  Of the spellings of a step one is canonical: it is
  read back, and it tells the step from all others.
-/
import DropFlow.Proofs.Projection
import Mathlib.Data.Nat.Digits.Defs

namespace DropFlow

open DropFlow.Text

/-! ### 1. Numerals -/

namespace Text

/-- One or more decimal digits. -/
def IsNumeral (cs : List Char) : Prop := cs ≠ [] ∧ ∀ c ∈ cs, '0' ≤ c ∧ c ≤ '9'

/-- The number that digits stand for, most significant first. -/
def numeralValue (cs : List Char) : Nat :=
  Nat.ofDigits 10 (cs.reverse.map fun c => c.toNat - '0'.toNat)

/-- A decimal numeral with an optional sign, and its value. -/
inductive Signed : List Char → Int → Prop
  | unsigned {cs : List Char} : IsNumeral cs → Signed cs (numeralValue cs)
  | positive {cs : List Char} : IsNumeral cs → Signed ('+' :: cs) (numeralValue cs)
  | negative {cs : List Char} : IsNumeral cs → Signed ('-' :: cs) (-(numeralValue cs : Int))

theorem numeralValue_cons (c : Char) (cs : List Char) :
    numeralValue (c :: cs) = (c.toNat - '0'.toNat) * 10 ^ cs.length + numeralValue cs := by
  simp only [numeralValue, List.reverse_cons, List.map_append, List.map_cons, List.map_nil,
    Nat.ofDigits_append, Nat.ofDigits_singleton, List.length_map, List.length_reverse]
  rw [Nat.add_comm, Nat.mul_comm]

theorem digitValue?_eq_some_iff {c : Char} {d : Nat} :
    digitValue? c = some d ↔ ('0' ≤ c ∧ c ≤ '9') ∧ c.toNat - '0'.toNat = d := by
  simp only [digitValue?, Option.ite_none_right_eq_some, Option.some.injEq]
  rfl

/-- Reading goes on from the number that was read before. -/
theorem numeralFrom?_eq_some_iff {n : Nat} (cs : List Char) : ∀ {acc : Nat},
    numeralFrom? acc cs = some n ↔
      (∀ c ∈ cs, '0' ≤ c ∧ c ≤ '9') ∧ acc * 10 ^ cs.length + numeralValue cs = n := by
  induction cs with
  | nil => simp [numeralFrom?, numeralValue]
  | cons c rest ih =>
    intro acc
    have hstep : numeralFrom? acc (c :: rest) =
        (digitValue? c).bind fun d => numeralFrom? (10 * acc + d) rest := by
      rw [numeralFrom?]
      cases digitValue? c <;> rfl
    have hvalue : ∀ d, (10 * acc + d) * 10 ^ rest.length + numeralValue rest =
        acc * 10 ^ (rest.length + 1) + (d * 10 ^ rest.length + numeralValue rest) := by
      intro d
      ring
    rw [hstep, Option.bind_eq_some_iff, List.forall_mem_cons, numeralValue_cons, List.length_cons]
    constructor
    · rintro ⟨d, hd, hrest⟩
      obtain ⟨hc, rfl⟩ := digitValue?_eq_some_iff.mp hd
      obtain ⟨hall, hn⟩ := ih.mp hrest
      exact ⟨⟨hc, hall⟩, (hvalue _).symm.trans hn⟩
    · rintro ⟨⟨hc, hall⟩, hn⟩
      exact ⟨_, digitValue?_eq_some_iff.mpr ⟨hc, rfl⟩, ih.mpr ⟨hall, (hvalue _).trans hn⟩⟩

theorem numeral?_eq_some_iff {cs : List Char} {n : Nat} :
    numeral? cs = some n ↔ IsNumeral cs ∧ numeralValue cs = n := by
  cases cs with
  | nil => simp [numeral?, IsNumeral]
  | cons c rest =>
    have hread : numeral? (c :: rest) = numeralFrom? 0 (c :: rest) := rfl
    rw [hread, numeralFrom?_eq_some_iff, Nat.zero_mul, Nat.zero_add]
    simp [IsNumeral]

theorem IsNumeral.readWord? {cs : List Char} (h : IsNumeral cs) :
    readWord? cs = word? (numeralValue cs) := by
  have hread : numeral? cs = some (numeralValue cs) := numeral?_eq_some_iff.mpr ⟨h, rfl⟩
  unfold Text.readWord?
  split
  · exact absurd (h.2 '-' (List.mem_cons_self ..)).1 (by decide)
  · exact absurd (h.2 '+' (List.mem_cons_self ..)).1 (by decide)
  · rw [hread, Option.bind_some]

/-- What is read as a word is a numeral with an optional sign whose value fits. -/
theorem readWord?_eq_some_iff {cs : List Char} {i : Int} :
    readWord? cs = some i ↔ Signed cs i ∧ IsWord i := by
  constructor
  · intro h
    refine ⟨?_, isWord_of_readWord? h⟩
    unfold readWord? at h
    split at h
    all_goals
      obtain ⟨n, hn, hword⟩ := Option.bind_eq_some_iff.mp h
      obtain ⟨hnumeral, rfl⟩ := numeral?_eq_some_iff.mp hn
      obtain ⟨_, rfl⟩ := word?_eq_some_iff.mp hword
    · exact Signed.negative hnumeral
    · exact Signed.positive hnumeral
    · exact Signed.unsigned hnumeral
  · rintro ⟨hsigned, hword⟩
    have hread : ∀ {ds : List Char}, IsNumeral ds → numeral? ds = some (numeralValue ds) :=
      fun h => numeral?_eq_some_iff.mpr ⟨h, rfl⟩
    cases hsigned with
    | unsigned h =>
      rw [h.readWord?]
      exact word?_eq_some_iff.mpr ⟨hword, rfl⟩
    | positive h =>
      simp only [readWord?, hread h, Option.bind_some]
      exact word?_eq_some_iff.mpr ⟨hword, rfl⟩
    | negative h =>
      simp only [readWord?, hread h, Option.bind_some]
      exact word?_eq_some_iff.mpr ⟨hword, rfl⟩

/-! ### 2. Trimming and cutting -/

/-- Trimming takes white space away, on both sides. -/
theorem exists_append_trimChars (cs : List Char) : ∃ before after,
    cs = before ++ trimChars cs ++ after ∧ (∀ c ∈ before, isSpace c = true) ∧
      ∀ c ∈ after, isSpace c = true := by
  refine ⟨cs.takeWhile isSpace, ((cs.dropWhile isSpace).reverse.takeWhile isSpace).reverse,
    ?_, fun c hc => List.mem_takeWhile_imp hc,
    fun c hc => List.mem_takeWhile_imp (List.mem_reverse.mp hc)⟩
  rw [trimChars, List.append_assoc, ← List.reverse_append, List.takeWhile_append_dropWhile,
    List.reverse_reverse, List.takeWhile_append_dropWhile]

theorem trimChars_append {before cs after : List Char} (hbefore : ∀ c ∈ before, isSpace c = true)
    (hcs : ∀ c ∈ cs, isSpace c = false) (hafter : ∀ c ∈ after, isSpace c = true) :
    trimChars (before ++ cs ++ after) = trimChars cs := by
  have hreverse : ∀ c ∈ after.reverse, isSpace c = true :=
    fun c hc => hafter c (List.mem_reverse.mp hc)
  cases cs with
  | nil =>
    have hblank : ∀ c ∈ before ++ after, isSpace c = true :=
      List.forall_mem_append.mpr ⟨hbefore, hafter⟩
    rw [List.append_nil, trimChars, List.dropWhile_eq_nil_iff.mpr hblank]
    rfl
  | cons c rest =>
    have hc : ¬isSpace c = true := by simp [hcs c (List.mem_cons_self ..)]
    rw [trimChars, trimChars, List.append_assoc, List.dropWhile_append_of_pos hbefore,
      List.cons_append, List.dropWhile_cons_of_neg hc, List.dropWhile_cons_of_neg hc,
      ← List.cons_append, List.reverse_append, List.dropWhile_append_of_pos hreverse]

/-- What stands before and after a cut makes up the whole. -/
theorem eq_of_cutChars {sep : Char} {cs : List Char} : ∀ {name : List Char}
    {argument : Option (List Char)}, cutChars sep cs = (name, argument) →
      cs = name ++ argument.elim [] (sep :: ·) := by
  induction cs with
  | nil =>
    intro name argument h
    cases h
    rfl
  | cons c rest ih =>
    intro name argument h
    rw [cutChars] at h
    split at h
    · rename_i hc
      cases h
      rw [hc]
      rfl
    · cases h
      rw [List.cons_append, ← ih rfl]

end Text

/-! ### 3. Steps -/

namespace Projection

/-- The spellings of a step. -/
inductive Spells : List Char → Projection → Prop
  | deref : Spells "deref".toList .deref
  | star : Spells "*".toList .deref
  | index : Spells "index".toList .index
  | brackets : Spells "[]".toList .index
  | field {cs : List Char} {i : Nat} : Signed cs i → i ≤ 2 ^ 63 - 1 →
      Spells ("field:".toList ++ cs) (.field i)
  | downcast {cs : List Char} {i : Nat} : Signed cs i → i ≤ 2 ^ 63 - 1 →
      Spells ("downcast:".toList ++ cs) (.downcast i)

theorem isWord_natCast_iff {i : Nat} : IsWord i ↔ i ≤ 2 ^ 63 - 1 := by
  simp only [IsWord, minWord, maxWord]
  omega

theorem bare_eq_ok_iff {text : String} {p q : Projection} {argument : Option (List Char)} :
    bare text p argument = .ok q ↔ argument = none ∧ p = q := by
  cases argument <;> simp [bare]

theorem indexed_eq_ok_iff {text : String} {make : Nat → Projection} {p : Projection}
    {argument : Option (List Char)} : indexed text make argument = .ok p ↔
      ∃ cs, ∃ i : Nat, argument = some cs ∧ Signed cs i ∧ i ≤ 2 ^ 63 - 1 ∧ make i = p := by
  cases argument with
  | none => simp [indexed]
  | some cs =>
    simp only [indexed]
    constructor
    · intro h
      split at h
      · rename_i i hi
        obtain ⟨hsigned, hword⟩ := readWord?_eq_some_iff.mp hi
        cases h
        exact ⟨cs, i, rfl, hsigned, isWord_natCast_iff.mp hword, rfl⟩
      · cases h
    · rintro ⟨_, i, hcs, hsigned, hbound, rfl⟩
      cases hcs
      have hread := readWord?_eq_some_iff.mpr ⟨hsigned, isWord_natCast_iff.mpr hbound⟩
      rw [hread]

theorem isSpace_of_signed {cs : List Char} {i : Int} (h : Signed cs i) :
    ∀ c ∈ cs, isSpace c = false := by
  have hdigit : ∀ {ds : List Char}, IsNumeral ds → ∀ c ∈ ds, isSpace c = false := by
    intro ds hds c hc
    obtain ⟨hlow, hhigh⟩ := hds.2 c hc
    have hlow' : 48 ≤ c.toNat := hlow
    have hhigh' : c.toNat ≤ 57 := hhigh
    rw [← Bool.not_eq_true]
    simp only [isSpace, Bool.or_eq_true, Bool.and_eq_true, decide_eq_true_eq, beq_iff_eq]
    omega
  cases h with
  | unsigned h => exact hdigit h
  | positive h => exact List.forall_mem_cons.mpr ⟨by decide, hdigit h⟩
  | negative h => exact List.forall_mem_cons.mpr ⟨by decide, hdigit h⟩

theorem not_isSpace_of_all {cs : List Char} (h : cs.all (! isSpace ·) = true) :
    ∀ c ∈ cs, isSpace c = false := by
  simpa using h

theorem Spells.isSpace {cs : List Char} {p : Projection} (h : Spells cs p) :
    ∀ c ∈ cs, isSpace c = false := by
  cases h with
  | deref => exact not_isSpace_of_all rfl
  | star => exact not_isSpace_of_all rfl
  | index => exact not_isSpace_of_all rfl
  | brackets => exact not_isSpace_of_all rfl
  | field h _ => exact List.forall_mem_append.mpr ⟨not_isSpace_of_all rfl, isSpace_of_signed h⟩
  | downcast h _ => exact List.forall_mem_append.mpr ⟨not_isSpace_of_all rfl, isSpace_of_signed h⟩

/-- Without white space around it, a text is read as the step that it spells. -/
theorem parse_eq_ok_iff_spells {s : String} {p : Projection} :
    parse s = .ok p ↔ Spells (trimChars s.toList) p := by
  simp only [parse]
  generalize trimChars s.toList = cs
  constructor
  · rcases hcut : cutChars ':' cs with ⟨name, argument⟩
    have hcs := eq_of_cutChars hcut
    intro h
    dsimp only at h
    split_ifs at h with hderef hfield hindex hdowncast
    · obtain ⟨rfl, rfl⟩ := bare_eq_ok_iff.mp h
      rcases hderef with rfl | rfl
      · exact hcs ▸ Spells.deref
      · exact hcs ▸ Spells.star
    · obtain ⟨ds, i, rfl, hsigned, hbound, rfl⟩ := indexed_eq_ok_iff.mp h
      subst hfield hcs
      exact Spells.field hsigned hbound
    · obtain ⟨rfl, rfl⟩ := bare_eq_ok_iff.mp h
      rcases hindex with rfl | rfl
      · exact hcs ▸ Spells.index
      · exact hcs ▸ Spells.brackets
    · obtain ⟨ds, i, rfl, hsigned, hbound, rfl⟩ := indexed_eq_ok_iff.mp h
      subst hdowncast hcs
      exact Spells.downcast hsigned hbound
  · intro h
    cases h with
    | deref => rfl
    | star => rfl
    | index => rfl
    | brackets => rfl
    | @field ds i hsigned hbound =>
      have hcut : cutChars ':' ("field:".toList ++ ds) = ("field".toList, some ds) := rfl
      rw [hcut]
      exact indexed_eq_ok_iff.mpr ⟨ds, i, rfl, hsigned, hbound, rfl⟩
    | @downcast ds i hsigned hbound =>
      have hcut : cutChars ':' ("downcast:".toList ++ ds) = ("downcast".toList, some ds) := rfl
      rw [hcut]
      exact indexed_eq_ok_iff.mpr ⟨ds, i, rfl, hsigned, hbound, rfl⟩

theorem parse_eq_ok_iff {s : String} {p : Projection} :
    parse s = .ok p ↔ ∃ before cs after, s.toList = before ++ cs ++ after ∧
      (∀ c ∈ before, isSpace c = true) ∧ (∀ c ∈ after, isSpace c = true) ∧ Spells cs p := by
  rw [parse_eq_ok_iff_spells]
  constructor
  · intro h
    obtain ⟨before, after, heq, hbefore, hafter⟩ := exists_append_trimChars s.toList
    exact ⟨before, _, after, heq, hbefore, hafter, h⟩
  · rintro ⟨before, cs, after, heq, hbefore, hafter, h⟩
    rw [heq, trimChars_append hbefore h.isSpace hafter, trimChars_eq_self h.isSpace]
    exact h

theorem text_inj {p q : Projection} : p.text = q.text ↔ p = q :=
  ⟨fun h => chars_inj (String.ofList_injective h), congrArg text⟩

/-- **The spellings of steps.**  A text is read as a step exactly if it is one of its spellings
    with white space around it; a step that was read is read back from its canonical spelling; and
    two texts are read as the same step exactly if the canonical spellings agree. -/
theorem spellings_exact :
    (∀ s p, parse s = .ok p ↔ ∃ before cs after, s.toList = before ++ cs ++ after ∧
      (∀ c ∈ before, isSpace c = true) ∧ (∀ c ∈ after, isSpace c = true) ∧ Spells cs p) ∧
    (∀ s p, parse s = .ok p → parse p.text = .ok p) ∧
    (∀ s t p q, parse s = .ok p → parse t = .ok q → (parse s = parse t ↔ p.text = q.text)) := by
  refine ⟨fun s p => parse_eq_ok_iff, fun s p h => parse_text (fits_of_parse h), ?_⟩
  intro s t p q hs ht
  rw [hs, ht, text_inj, Except.ok.injEq]

/-- Two spellings of the first field, one of them with white space around it. -/
theorem spellings_exact_padded :
    parse "\u00a0field:-00\n" = .ok (.field 0) ∧ parse "field:+0" = .ok (.field 0) ∧
      parse (text (.field 0)) = .ok (.field 0) ∧
      (parse "\u00a0field:-00\n" = parse "field:+0" ↔ text (.field 0) = text (.field 0)) ∧
      ∃ before cs after, "\u00a0field:-00\n".toList = before ++ cs ++ after ∧
        (∀ c ∈ before, isSpace c = true) ∧ (∀ c ∈ after, isSpace c = true) ∧
        Spells cs (.field 0) := by
  have hpadded : parse "\u00a0field:-00\n" = .ok (.field 0) := by decide +kernel
  have hplain : parse "field:+0" = .ok (.field 0) := by decide +kernel
  obtain ⟨hexact, hback, hsame⟩ := spellings_exact
  exact ⟨hpadded, hplain, hback _ _ hplain, hsame _ _ _ _ hpadded hplain, (hexact _ _).mp hpadded⟩

end Projection

end DropFlow
