/-
  DropFlow/Proofs/Yaml/Scalar.lean
  ================================
  What the scalars mean that the library of this project prints.

  An integer is printed in decimal, and a plain scalar of decimal digits is no word, no
  point in time and no number of another base, so that it means that integer
  (`shows_decimal`).  A text is printed plain only when it means that text, and otherwise
  in a style that always means text (`shows_printed`).  So the library restores a tree as
  soon as its layout is read as it was meant, each scalar in its style (`restores_own`).
-/
import DropFlow.Proofs.Yaml.Decoding
import Mathlib.Tactic.ByContra

namespace DropFlow.Yaml

open DropFlow.Text

/-! ### 1. Digits -/

theorem isDigit_of_mem_digits (n : Nat) : ∀ c ∈ digits n, c.isDigit = true :=
  forall_mem_digits (by decide) n

/-- A number that is not zero starts with a digit that is not zero. -/
theorem digits_eq_cons {n : Nat} (h : n ≠ 0) : ∃ c rest, digits n = c :: rest ∧ c ≠ '0' := by
  induction n using Nat.strongRecOn with
  | ind n ih =>
    rw [digits]
    split
    · rename_i hn
      have hall : ∀ d : Fin 10, d ≠ 0 → digitChar d ≠ '0' := by decide
      exact ⟨digitChar n, [], rfl, hall ⟨n, hn⟩ fun heq => h (congrArg Fin.val heq)⟩
    · obtain ⟨c, rest, hrest, hc⟩ := ih (n / 10) (by omega) (by omega)
      exact ⟨c, rest ++ [digitChar (n % 10)], by rw [hrest, List.cons_append], hc⟩

/-! ### 2. Integers -/

theorem numberIn?_digits (n : Nat) : numberIn? 10 (digits n) = some n := by
  have hdigit : ∀ d : Fin 10, digitIn? 10 (digitChar d) = some d.val := by decide
  simp only [numberIn?]
  induction n using Nat.strongRecOn with
  | ind n ih =>
    rw [digits]
    split
    · rename_i hn
      simp [hdigit ⟨n, hn⟩]
    · rw [List.foldlM_append, ih (n / 10) (by omega)]
      simp [hdigit ⟨n % 10, Nat.mod_lt n (by omega)⟩, Nat.div_add_mod]

theorem magnitude?_digits (n : Nat) : magnitude? (digits n) = some n := by
  by_cases hzero : n = 0
  · subst hzero
    rw [digits]
    rfl
  · obtain ⟨c, rest, hdigits, hc⟩ := digits_eq_cons hzero
    have hten : magnitude? (c :: rest) = numberIn? 10 (c :: rest) := by
      unfold magnitude?
      split <;> simp_all
    rw [hdigits, hten, ← hdigits, numberIn?_digits]

theorem bounded?_of_isWord {signed : Bool} {i : Int} (h : IsWord i) :
    bounded? signed i = some i := by
  simp only [IsWord] at h
  rw [bounded?, if_pos h]

theorem integer?_decimalChars {i : Int} (h : IsWord i) :
    integer? (decimalChars i) = some i := by
  cases i with
  | ofNat n =>
    obtain ⟨c, rest, hdigits⟩ := List.exists_cons_of_ne_nil (digits_ne_nil n)
    have hsign : c ≠ '-' ∧ c ≠ '+' :=
      forall_mem_digits (P := fun c => c ≠ '-' ∧ c ≠ '+') (by decide) n c (by simp [hdigits])
    have hsigned : signed? magnitude? (c :: rest) =
        (magnitude? (c :: rest)).bind fun n => bounded? false (n : Int) := by
      unfold signed?
      split <;> simp_all
    simp only [integer?, decimalChars, hdigits, hsigned]
    rw [← hdigits, magnitude?_digits, Option.bind_some, ← Int.ofNat_eq_natCast,
      bounded?_of_isWord h]
  | negSucc n =>
    have hsigned : signed? magnitude? ('-' :: digits (n + 1)) =
        (magnitude? (digits (n + 1))).bind fun n => bounded? true (-(n : Int)) := rfl
    have hneg : -((n + 1 : Nat) : Int) = Int.negSucc n := rfl
    rw [integer?, decimalChars, hsigned, magnitude?_digits, Option.bind_some, hneg,
      bounded?_of_isWord h]

/-! ### 3. Plain scalars -/

theorem forall_mem_decimalChars {P : Char → Prop} (h : ∀ d : Fin 10, P (digitChar d))
    (hminus : P '-') (i : Int) : ∀ c ∈ decimalChars i, P c := by
  cases i with
  | ofNat n => exact forall_mem_digits h n
  | negSucc n => exact List.forall_mem_cons.mpr ⟨hminus, forall_mem_digits h (n + 1)⟩

/-- A word with a meaning of its own is empty or has a character that no integer has. -/
theorem word?_eq_none {s : String} (hne : s.toList ≠ [])
    (h : s.toList.all (fun c => c.isDigit || c == '-') = true) : word? s = none := by
  by_contra hword
  simp only [word?] at hword
  split at hword <;> first | exact hword rfl | exact hne rfl | exact nomatch h

theorem isTimestamp_decimalChars (i : Int) : isTimestamp (decimalChars i) = false := by
  have hdate : date? (decimalChars i) = none := by
    cases i with
    | ofNat n =>
      have hspan : spanDigits (digits n) = (digits n, []) := by
        have hall := isDigit_of_mem_digits n
        rw [spanDigits, List.takeWhile_eq_self_iff.mpr hall, List.dropWhile_eq_nil_iff.mpr hall]
      simp only [date?, decimalChars, hspan, expect?]
      split <;> rfl
    | negSucc n => rfl
  rw [isTimestamp, hdate]

theorem number?_decimalChars {i : Int} (h : IsWord i) :
    number? true (decimalChars i) = some (.int i) := by
  have hbare : (decimalChars i).filter (· != '_') = decimalChars i :=
    List.filter_eq_self.mpr (forall_mem_decimalChars (by decide) (by decide) i)
  simp only [number?, isTimestamp_decimalChars, hbare, integer?_decimalChars h]
  rfl

/-- **An integer in decimal is read as that integer.** -/
theorem ofPlain_decimal {i : Int} (h : IsWord i) :
    Scalar.ofPlain true (decimal i) = .int i := by
  have hchars : (decimal i).toList = decimalChars i := String.toList_ofList
  have hall : (decimalChars i).all (fun c => c.isDigit || c == '-') = true :=
    List.all_eq_true.mpr (forall_mem_decimalChars (by decide) (by decide) i)
  have hne : decimalChars i ≠ [] := by
    cases i with
    | ofNat n => exact digits_ne_nil n
    | negSucc n => simp [decimalChars]
  have hword : word? (decimal i) = none := word?_eq_none (hchars ▸ hne) (hchars ▸ hall)
  have hnumber := number?_decimalChars h
  obtain ⟨c, rest, hcons⟩ := List.exists_cons_of_ne_nil hne
  -- the first character decides that a number is tried
  obtain ⟨hletter, hpoint, hsign⟩ := forall_mem_decimalChars
    (P := fun c => "yYnNtTfFoO~".toList.contains c = false ∧ (c == '.') = false ∧
      (c.isDigit || c == '+' || c == '-') = true) (by decide) (by decide) i c (by simp [hcons])
  rw [hcons] at hnumber
  simp only [Scalar.ofPlain, hchars, hcons, hletter, hpoint, hsign, hword, hnumber]
  rfl

/-! ### 4. Printed scalars -/

theorem read?_none (style : Style) (s : String) : Scalar.read? none style s =
    some (if style = .plain then Scalar.ofPlain true s else .text s) := by
  by_cases hplain : style = .plain <;> simp [Scalar.read?, indicatesText, hplain]

/-- **An integer in decimal shows that integer.** -/
theorem shows_decimal {i : Int} (h : IsWord i) (line : Nat) :
    (Node.ofScalar line none .plain (decimal i)).shows (.int i) = true := by
  simp [Node.ofScalar, Node.shows, read?_none, ofPlain_decimal h]

theorem shows_truth (b : Bool) (line : Nat) :
    (Node.ofScalar line none .plain (if b then "true" else "false")).shows (.bool b) = true := by
  cases b <;> rfl

theorem tag_of_word? {s : String} {x : Scalar} (h : word? s = some x) : x.tag ≠ "!!str" := by
  simp only [word?] at h
  split at h <;> cases h <;> decide

theorem tag_of_float? {cs : List Char} {x : Scalar} (h : float? cs = some x) :
    x.tag = "!!float" := by
  obtain ⟨f, _, h⟩ := Option.bind_eq_some_iff.mp h
  split at h <;> cases h
  rfl

theorem tag_of_number? {dated : Bool} {cs : List Char} {x : Scalar}
    (h : number? dated cs = some x) : x.tag ≠ "!!str" := by
  simp only [number?] at h
  split at h
  · cases h
    decide
  · split at h
    · cases h
      simp [Scalar.tag]
    · split at h
      · rename_i hfloat
        cases h
        simp [tag_of_float? hfloat]
      · obtain ⟨i, _, rfl⟩ := Option.map_eq_some_iff.mp h
        simp [Scalar.tag]

theorem getD_of_tag {found : Option Scalar} {s : String}
    (hfound : ∀ x, found = some x → x.tag ≠ "!!str")
    (h : (found.getD (.text s)).tag = "!!str") : found.getD (.text s) = .text s := by
  cases found with
  | none => rfl
  | some x => exact absurd h (hfound x rfl)

/-- A plain scalar that means text means the text that is written. -/
theorem ofPlain_of_tag {s : String} (h : (Scalar.ofPlain true s).tag = "!!str") :
    Scalar.ofPlain true s = .text s := by
  simp only [Scalar.ofPlain] at h ⊢
  split at h
  · exact absurd h (by decide)
  · refine getD_of_tag (fun x hx => ?_) h
    split at hx
    · exact tag_of_word? hx
    · split at hx
      · split at hx
        · cases hx
          exact tag_of_word? ‹_›
        · split at hx
          · simp [tag_of_float? hx]
          · cases hx
      · split at hx
        · split at hx
          · cases hx
            exact tag_of_word? ‹_›
          · exact tag_of_number? hx
        · cases hx

theorem eq_plain_of_allowedStyle {style : Style} {s : String}
    (h : allowedStyle style s = .plain) : style = .plain := by
  cases style with
  | plain => rfl
  | doubleQuoted => cases h
  | _ =>
    simp only [allowedStyle] at h
    split at h <;> cases h

/-- A plain scalar shows its own text if it means text. -/
theorem shows_plain {s : String} (h : (Scalar.ofPlain true s).tag = "!!str") (line : Nat) :
    (Node.ofScalar line none .plain s).shows (.text s) = true := by
  have htext := ofPlain_of_tag h
  have hnull : scalarTag none .plain s ≠ "!!null" := by
    have htag : scalarTag none .plain s = if s == "<<" then "!!merge" else "!!str" := by
      simp [scalarTag, htext, Scalar.tag]
    rw [htag]
    split <;> decide
  simp [Node.ofScalar, Node.shows, read?_none, htext, hnull]

/-- **A text shows that text** in the style in which it is printed. -/
theorem shows_printed (s : String) (line : Nat) :
    (Node.ofScalar line none (allowedStyle (wantedStyle s) s) s).shows (.text s) = true := by
  by_cases hstyle : allowedStyle (wantedStyle s) s = .plain
  · have hwanted := eq_plain_of_allowedStyle hstyle
    have htag : (Scalar.ofPlain true s).tag = "!!str" := by
      simp only [wantedStyle] at hwanted
      split at hwanted
      · cases hwanted
      · split at hwanted
        · simp_all
        · cases hwanted
    rw [hstyle]
    exact shows_plain htag line
  · have htag : scalarTag none (allowedStyle (wantedStyle s) s) s = "!!str" := by
      simp [scalarTag, hstyle]
    simp [Node.ofScalar, Node.shows, read?_none, hstyle, htag]

/-! ### 5. Printed trees -/

/-- The node has the layout in which a tree is printed: no scalar has a tag, and each stands in
    the style in which it is printed, the keys plain. -/
inductive Printed : Tree → Node → Prop
  | text (s : String) (line : Nat) :
      Printed (.text s) (.ofScalar line none (allowedStyle (wantedStyle s) s) s)
  | int {i : Int} (line : Nat) (h : IsWord i) :
      Printed (.int i) (.ofScalar line none .plain (decimal i))
  | bool (b : Bool) (line : Nat) :
      Printed (.bool b) (.ofScalar line none .plain (if b then "true" else "false"))
  | nil (line : Nat) (tag : Option String) : Printed (.list []) (.sequence line tag [])
  | item {t : Tree} {n : Node} {trees : List Tree} {items : List Node} {line : Nat}
      {tag : Option String} (first : Printed t n)
      (rest : Printed (.list trees) (.sequence line tag items)) :
      Printed (.list (t :: trees)) (.sequence line tag (n :: items))
  | empty (line : Nat) (tag : Option String) : Printed (.fields []) (.mapping line tag [])
  | entry {name : String} {t : Tree} {n : Node} {fields : List (String × Tree)}
      {entries : List (Node × Node)} {line : Nat} {tag : Option String} (keyLine : Nat)
      (name_text : (Scalar.ofPlain true name).tag = "!!str") (first : Printed t n)
      (rest : Printed (.fields fields) (.mapping line tag entries)) :
      Printed (.fields ((name, t) :: fields))
        (.mapping line tag ((.ofScalar keyLine none .plain name, n) :: entries))

/-- **A printed tree is shown** by the node that has its layout. -/
theorem Printed.shows {t : Tree} {n : Node} (h : Printed t n) : n.shows t = true := by
  induction h with
  | text s line => exact shows_printed s line
  | int line h => exact shows_decimal h line
  | bool b line => exact shows_truth b line
  | nil => rfl
  | item _ _ hfirst hrest =>
    rw [Node.shows] at hrest ⊢
    rw [Node.shows.showItems, hfirst, hrest, Bool.and_self]
  | empty => rfl
  | entry keyLine hname _ _ hfirst hrest =>
    rw [Node.shows] at hrest ⊢
    rw [Node.shows.showFields, shows_plain hname, hfirst, hrest, Bool.and_self, Bool.and_self]

/-- The library of this project restores a tree if it reads the text as a document with the
    layout that it printed. -/
theorem restores_own {step : Nat} {t : Tree} {doc : Document}
    (hread : Document.read? (t.render step) = some (some doc)) (h : Printed t doc.root) :
    Library.own.Restores step t := ⟨doc, hread, h.shows⟩

end DropFlow.Yaml
