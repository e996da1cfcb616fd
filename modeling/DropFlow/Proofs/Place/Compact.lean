/-
  DropFlow/Proofs/Place/Compact.lean
  ==================================
  The compact notation of a place tells it from all other places.

  Some steps wrap what stands before them and others are appended to it, so the notation is
  taken apart from the last step inwards.  The last step decides the last character, and where
  two steps share it, the second character; what is left is the notation of a shorter place
  (`Place.wrap_inj`).

  In a line of text the notation also shows where it ends: a blank in it is followed by the
  word `as` or by an index, and never by an opening bracket or an at sign (`Place.Closed`).
-/
import DropFlow.Proofs.Projection
import Mathlib.Data.List.Chain

namespace DropFlow

open DropFlow.Text

/-! ### 1. The end of a text -/

namespace Text

/-- The last occurrence of a character divides a text in one way. -/
theorem eq_of_append_cons_eq {c : Char} {xs ys zs ws : List Char} (hzs : c ∉ zs) (hws : c ∉ ws)
    (h : xs ++ c :: zs = ys ++ c :: ws) : xs = ys ∧ zs = ws := by
  have hno : ∀ {a : Char} {us vs rest : List Char}, c ∉ us → c :: us ≠ a :: vs ++ c :: rest := by
    intro a us vs rest hus heq
    apply hus
    rw [(List.cons.inj heq).2]
    exact List.mem_append_right _ (List.mem_cons_self ..)
  rcases List.append_eq_append_iff.mp h with ⟨as, rfl, hrest⟩ | ⟨as, rfl, hrest⟩
  · cases as with
    | nil => exact ⟨by rw [List.append_nil], (List.cons.inj hrest).2⟩
    | cons a as => exact absurd hrest (hno hzs)
  · cases as with
    | nil => exact ⟨by rw [List.append_nil], (List.cons.inj hrest).2.symm⟩
    | cons a as => exact absurd hrest (hno hws)

theorem append_digits_inj {c : Char} (hc : digitValue? c = none) {xs ys : List Char} {i j : Nat}
    (h : xs ++ c :: digits i = ys ++ c :: digits j) : xs = ys ∧ i = j := by
  obtain ⟨hfront, hdigits⟩ :=
    eq_of_append_cons_eq (not_mem_digits hc i) (not_mem_digits hc j) h
  exact ⟨hfront, digits_inj hdigits⟩

end Text

/-! ### 2. The last step -/

namespace Place

theorem textChars_concat (slot : Int) (steps : List Projection) (s : Projection) :
    textChars ⟨slot, steps ++ [s]⟩ = wrap (textChars ⟨slot, steps⟩) s := by
  simp only [textChars, List.foldl_append, List.foldl_cons, List.foldl_nil]

/-- A notation begins with the mark of a slot or with a bracket. -/
def Opened (cs : List Char) : Prop := ∃ c rest, cs = c :: rest ∧ (c = '_' ∨ c = '(')

theorem Opened.wrap {cs : List Char} (h : Opened cs) (s : Projection) : Opened (wrap cs s) := by
  obtain ⟨c, rest, rfl, hc⟩ := h
  cases s with
  | deref => exact ⟨'(', _, rfl, Or.inr rfl⟩
  | field i => exact ⟨c, _, rfl, hc⟩
  | index => exact ⟨c, _, rfl, hc⟩
  | downcast i => exact ⟨'(', _, rfl, Or.inr rfl⟩

theorem opened_textChars (p : Place) : Opened p.textChars := by
  obtain ⟨slot, steps⟩ := p
  induction steps using List.reverseRecOn with
  | nil => exact ⟨'_', _, rfl, Or.inl rfl⟩
  | append_singleton steps s ih =>
    rw [textChars_concat]
    exact ih.wrap s

/-- What the last character of a notation tells of the last step. -/
inductive Ending where
  | number
  | square
  | round

def ending (c : Char) : Ending := if c = ']' then .square else if c = ')' then .round else .number

def endingOf : Projection → Ending
  | .deref => .round
  | .field _ => .number
  | .index => .square
  | .downcast _ => .round

theorem ending_digits (cs : List Char) (n : Nat) :
    (cs ++ digits n).getLast?.map ending = some .number := by
  have hdigit : ∀ c ∈ digits n, ending c = .number := by
    intro c hc
    have hsquare : c ≠ ']' := fun h => not_mem_digits (by decide) n (h ▸ hc)
    have hround : c ≠ ')' := fun h => not_mem_digits (by decide) n (h ▸ hc)
    rw [ending, if_neg hsquare, if_neg hround]
  rw [List.getLast?_append, List.getLast?_eq_some_getLast (digits_ne_nil n), Option.some_or,
    Option.map_some, hdigit _ (List.getLast_mem _)]

theorem ending_slot (slot : Int) :
    ('_' :: decimalChars slot).getLast?.map ending = some .number := by
  cases slot with
  | ofNat n => exact ending_digits ['_'] n
  | negSucc n => exact ending_digits ['_', '-'] (n + 1)

theorem ending_wrap (cs : List Char) (s : Projection) :
    (wrap cs s).getLast?.map ending = some (endingOf s) := by
  cases s with
  | deref =>
    rw [wrap, List.getLast?_concat]
    rfl
  | field i =>
    have hpoint : wrap cs (.field i) = (cs ++ ['.']) ++ digits i := by
      rw [wrap, List.append_assoc, List.singleton_append]
    rw [hpoint]
    exact ending_digits _ i
  | index =>
    rw [wrap, List.getLast?_append]
    rfl
  | downcast i =>
    rw [wrap, List.getLast?_concat]
    rfl

/-- After the bracket of a variant stands the notation that it wraps, which begins with no star. -/
theorem Opened.ne_star {cs rest : List Char} (h : Opened cs) : cs ≠ '*' :: rest := by
  obtain ⟨c, rest', rfl, hc⟩ := h
  intro heq
  rw [(List.cons.inj heq).1] at hc
  revert hc
  decide

/-- What a step adds shows which step it was and what it was added to. -/
theorem wrap_inj {cs ds : List Char} (hcs : Opened cs) (hds : Opened ds) {s t : Projection}
    (h : wrap cs s = wrap ds t) : cs = ds ∧ s = t := by
  have hend : endingOf s = endingOf t := by
    apply Option.some.inj
    rw [← ending_wrap cs s, h, ending_wrap ds t]
  cases s with
  | deref =>
    cases t with
    | deref => exact ⟨List.append_cancel_left (List.append_cancel_right h), rfl⟩
    | field j => cases hend
    | index => cases hend
    | downcast j =>
      obtain ⟨c, rest, rfl, hc⟩ := hds
      have hstar : c = '*' := (List.cons.inj (List.cons.inj h).2).1.symm
      exact absurd (congrArg (· :: rest) hstar) (Opened.ne_star ⟨c, rest, rfl, hc⟩)
  | field i =>
    cases t with
    | field j =>
      obtain ⟨hinner, rfl⟩ := append_digits_inj (by decide) h
      exact ⟨hinner, rfl⟩
    | deref => cases hend
    | index => cases hend
    | downcast j => cases hend
  | index =>
    cases t with
    | index => exact ⟨List.append_cancel_right h, rfl⟩
    | deref => cases hend
    | field j => cases hend
    | downcast j => cases hend
  | downcast i =>
    cases t with
    | downcast j =>
      have hinside : (cs ++ " as".toList) ++ ' ' :: digits i =
          (ds ++ " as".toList) ++ ' ' :: digits j := by
        have hopen := List.append_cancel_right h
        simpa using hopen
      obtain ⟨hinner, rfl⟩ := append_digits_inj (by decide) hinside
      exact ⟨List.append_cancel_right hinner, rfl⟩
    | deref =>
      obtain ⟨c, rest, rfl, hc⟩ := hcs
      have hstar : c = '*' := (List.cons.inj (List.cons.inj h).2).1
      exact absurd (congrArg (· :: rest) hstar) (Opened.ne_star ⟨c, rest, rfl, hc⟩)
    | field j => cases hend
    | index => cases hend

/-- The notation of a slot is not that of a part. -/
theorem wrap_ne_slot (cs : List Char) (s : Projection) (slot : Int) :
    wrap cs s ≠ '_' :: decimalChars slot := by
  intro h
  have hend : endingOf s = .number := by
    apply Option.some.inj
    rw [← ending_wrap cs s, h, ending_slot]
  cases s with
  | deref => cases hend
  | index => cases hend
  | downcast i => cases hend
  | field i =>
    -- a field is set off by a point, and a slot has none
    have hpoint : '.' ∈ '_' :: decimalChars slot := by
      rw [← h]
      exact List.mem_append_right _ (List.mem_cons_self ..)
    rcases List.mem_cons.mp hpoint with heq | hmem
    · exact absurd heq (by decide)
    · exact point_not_mem_decimalChars slot hmem

theorem textChars_inj {slot slot' : Int} {steps : List Projection} :
    ∀ {steps' : List Projection}, textChars ⟨slot, steps⟩ = textChars ⟨slot', steps'⟩ →
      slot = slot' ∧ steps = steps' := by
  induction steps using List.reverseRecOn with
  | nil =>
    intro steps' h
    rcases List.eq_nil_or_concat' steps' with rfl | ⟨init, s, rfl⟩
    · exact ⟨decimalChars_inj (List.cons.inj h).2, rfl⟩
    · rw [textChars_concat] at h
      exact absurd h.symm (wrap_ne_slot _ _ _)
  | append_singleton steps s ih =>
    intro steps' h
    rw [textChars_concat] at h
    rcases List.eq_nil_or_concat' steps' with rfl | ⟨init, t, rfl⟩
    · exact absurd h (wrap_ne_slot _ _ _)
    · rw [textChars_concat] at h
      obtain ⟨hinner, rfl⟩ := wrap_inj (opened_textChars _) (opened_textChars _) h
      obtain ⟨hslot, rfl⟩ := ih hinner
      exact ⟨hslot, rfl⟩

/-- **Places with the same compact notation are the same place.** -/
theorem text_inj {p q : Place} : p.text = q.text ↔ p = q := by
  constructor
  · intro h
    obtain ⟨slot, steps⟩ := p
    obtain ⟨slot', steps'⟩ := q
    obtain ⟨rfl, rfl⟩ := textChars_inj (String.ofList_injective h)
    rfl
  · exact congrArg text

/-! ### 3. Where a notation ends -/

/-- Two characters side by side: no blank before an at sign or an opening bracket. -/
def Apart (a b : Char) : Prop := a = ' ' → b ≠ '@' ∧ b ≠ '('

/-- In a notation no blank stands before an at sign or an opening bracket, not even if one of the
    two came right after it. -/
def Closed (cs : List Char) : Prop := (cs ++ ['@']).IsChain Apart

/-- What may come after a notation in a line: nothing, or a blank and one of the two characters. -/
def Trailing (cs : List Char) : Prop :=
  cs = [] ∨ ∃ c rest, cs = ' ' :: c :: rest ∧ (c = '@' ∨ c = '(')

theorem isChain_of_not_mem {cs : List Char} (h : ' ' ∉ cs) : cs.IsChain Apart := by
  rw [List.isChain_iff_forall_rel_of_append_cons_cons]
  intro a b front rest heq ha
  apply absurd _ h
  rw [heq, ha]
  exact List.mem_append_right _ (List.mem_cons_self ..)

theorem isChain_cons {c : Char} {cs : List Char} (hc : c ≠ ' ') (h : cs.IsChain Apart) :
    (c :: cs).IsChain Apart :=
  List.isChain_cons.mpr ⟨fun _ _ hblank => absurd hblank hc, h⟩

/-- A notation goes on with any character but these two. -/
theorem Closed.append {cs rest : List Char} {c : Char} (h : Closed cs) (hc : c ≠ '@' ∧ c ≠ '(')
    (hrest : (c :: rest).IsChain Apart) : (cs ++ c :: rest).IsChain Apart := by
  apply List.IsChain.append (List.isChain_append.mp h).1 hrest
  intro a _ b hb _
  cases hb
  exact hc

theorem Closed.wrap {cs : List Char} (h : Closed cs) (s : Projection) : Closed (wrap cs s) := by
  have hnumber : ∀ (i : Nat) (rest : List Char), ' ' ∉ rest → ' ' ∉ digits i ++ rest := by
    intro i rest hrest hmem
    rcases List.mem_append.mp hmem with hmem | hmem
    · exact not_mem_digits (by decide) i hmem
    · exact hrest hmem
  cases s with
  | deref =>
    have hbehind : (cs ++ [')', '@']).IsChain Apart :=
      h.append (by decide) (isChain_of_not_mem (by decide))
    have hwhole := isChain_cons (c := '(') (by decide) (isChain_cons (c := '*') (by decide) hbehind)
    simpa [Closed, Place.wrap] using hwhole
  | field i =>
    have hwhole : (cs ++ '.' :: (digits i ++ ['@'])).IsChain Apart :=
      h.append (by decide) (isChain_cons (by decide) (isChain_of_not_mem (hnumber i _ (by decide))))
    simpa [Closed, Place.wrap] using hwhole
  | index =>
    have hwhole : (cs ++ ['[', '_', ']', '@']).IsChain Apart :=
      h.append (by decide) (isChain_of_not_mem (by decide))
    simpa [Closed, Place.wrap] using hwhole
  | downcast i =>
    have hindex : (' ' :: (digits i ++ [')', '@'])).IsChain Apart := by
      obtain ⟨d, rest, hdigits⟩ := List.exists_cons_of_ne_nil (digits_ne_nil i)
      have hd : d ≠ '@' ∧ d ≠ '(' :=
        forall_mem_digits (P := fun c => c ≠ '@' ∧ c ≠ '(') (by decide) i d (by simp [hdigits])
      refine List.isChain_cons.mpr ⟨?_, isChain_of_not_mem (hnumber i _ (by decide))⟩
      intro b hb _
      rw [hdigits] at hb
      cases hb
      exact hd
    have hbehind : (cs ++ ' ' :: 'a' :: 's' :: ' ' :: (digits i ++ [')', '@'])).IsChain Apart := by
      apply h.append (by decide)
      apply List.isChain_cons_cons.mpr ⟨fun _ => by decide, _⟩
      exact isChain_cons (by decide) (isChain_cons (by decide) hindex)
    have hwhole := isChain_cons (c := '(') (by decide) hbehind
    simpa [Closed, Place.wrap] using hwhole

theorem closed_textChars (p : Place) : Closed p.textChars := by
  obtain ⟨slot, steps⟩ := p
  induction steps using List.reverseRecOn with
  | nil =>
    apply isChain_of_not_mem
    intro hmem
    rcases List.mem_append.mp (List.mem_of_ne_of_mem (by decide) hmem) with hmem | hmem
    · exact not_mem_decimalChars (by decide) (by decide) slot hmem
    · exact absurd hmem (by decide)
  | append_singleton steps s ih =>
    rw [textChars_concat]
    exact ih.wrap s

/-- Where a notation ends, the line goes on in a way in which no notation goes on. -/
theorem Closed.eq_nil {cs more rest : List Char} (h : Closed (cs ++ more))
    (htrailing : Trailing (more ++ rest)) : more = [] := by
  rw [Closed, List.isChain_iff_forall_rel_of_append_cons_cons] at h
  rcases htrailing with hnil | ⟨c, tail, heq, hc⟩
  · exact (List.append_eq_nil_iff.mp hnil).1
  · cases more with
    | nil => rfl
    | cons a more =>
      obtain ⟨rfl, htail⟩ := List.cons.inj heq
      cases more with
      | nil =>
        have hend : cs ++ [' '] ++ ['@'] = cs ++ ' ' :: '@' :: [] := by simp
        exact absurd rfl (h hend rfl).1
      | cons b more =>
        obtain ⟨rfl, _⟩ := List.cons.inj htail
        have hnext : cs ++ ' ' :: b :: more ++ ['@'] = cs ++ ' ' :: b :: (more ++ ['@']) := by simp
        have happart := h hnext rfl
        rcases hc with hat | hbracket
        · exact absurd hat happart.1
        · exact absurd hbracket happart.2

/-- Two lines that begin with places and agree begin with the same place. -/
theorem eq_of_line_eq {p q : Place} {after after' : List Char} (hafter : Trailing after)
    (hafter' : Trailing after') (h : p.textChars ++ after = q.textChars ++ after') : p = q := by
  have hsame : p.textChars = q.textChars := by
    rcases List.append_eq_append_iff.mp h with ⟨more, hq, rfl⟩ | ⟨more, hp, rfl⟩
    · have hclosed := closed_textChars q
      rw [hq] at hclosed ⊢
      rw [hclosed.eq_nil hafter, List.append_nil]
    · have hclosed := closed_textChars p
      rw [hp] at hclosed ⊢
      rw [hclosed.eq_nil hafter', List.append_nil]
  exact text_inj.mp (congrArg String.ofList hsame)

end Place

end DropFlow
