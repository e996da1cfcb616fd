/-
  DropFlow/Proofs/Resolution.lean
  ===============================
  Which functions a call invokes, and how it is treated.

  Adding targets one by one gives the functions with a body among the names, each at the
  first of its names (`foldl_addTarget`).  A name that asks for passing over decides the
  whole call when it is the static callee and has no body.  A dispatch candidate with such
  a name is left out whether it has a body or not, so that the targets are those of all
  the names exactly when no defined candidate but the callee itself has such a name
  (`definedAmong_filter_iff`).
-/
import DropFlow.Proofs.Program.Requests
import Mathlib.Data.List.Basic
import Mathlib.Data.List.Induction

namespace DropFlow

/-! ### 1. The functions of a list of names -/

/-- The functions with a body among some names, in the order of the names and each once. -/
def Program.definedAmong (p : Program) (names : List String) : List Int :=
  (names.filterMap p.lookup).eraseDups

theorem Program.mem_definedAmong {p : Program} {names : List String} {id : Int} :
    id ∈ p.definedAmong names ↔ ∃ name ∈ names, p.lookup name = some id := by
  simp only [definedAmong, List.mem_eraseDups, List.mem_filterMap]

theorem Program.nodup_definedAmong (p : Program) (names : List String) :
    (p.definedAmong names).Nodup := by
  simp only [definedAmong]
  induction names.filterMap p.lookup using List.reverseRecOn with
  | nil => exact List.nodup_nil
  | append_singleton ids id ih =>
    rw [List.eraseDups_append]
    by_cases hin : id ∈ ids
    · simp [hin, ih, List.removeAll]
    · have hne : ∀ other ∈ ids, other ≠ id := fun other hother heq => hin (heq ▸ hother)
      simpa [hin, ih, List.removeAll, List.eraseDups_cons, List.nodup_append] using hne

theorem foldl_addTarget (p : Program) (names : List String) :
    names.foldl (addTarget p) [] = p.definedAmong names := by
  simp only [Program.definedAmong]
  induction names using List.reverseRecOn with
  | nil => rfl
  | append_singleton names name ih =>
    rw [List.foldl_append, List.foldl_cons, List.foldl_nil, ih, List.filterMap_append,
      List.eraseDups_append]
    cases hname : p.lookup name with
    | none => simp [addTarget, hname]
    | some id =>
      by_cases hin : ∃ other ∈ names, p.lookup other = some id
      · simp [addTarget, hname, hin, List.removeAll]
      · simp [addTarget, hname, hin, List.removeAll, List.eraseDups_cons]

/-- Two names of one defined function are the same name. -/
theorem Program.eq_of_lookup {p : Program} {name other : String} {id : Int}
    (h : p.lookup name = some id) (h' : p.lookup other = some id) : name = other := by
  obtain ⟨f, hf, rfl⟩ := source_of_idOf? (Option.filter_eq_some_iff.mp h).1
  obtain ⟨g, hg, rfl⟩ := source_of_idOf? (Option.filter_eq_some_iff.mp h').1
  rw [hf] at hg
  cases hg
  rfl

/-! ### 2. Names that are left out -/

theorem filterMap_filter_of_none {f : String → Option Int} {keep : String → Bool}
    {names : List String} (h : ∀ name ∈ names, keep name = false → f name = none) :
    (names.filter keep).filterMap f = names.filterMap f := by
  rw [List.filterMap_filter]
  apply List.filterMap_congr
  intro name hname
  cases hkeep : keep name with
  | true => rfl
  | false => exact (h name hname hkeep).symm

/-- Leaving names out behind a first one changes nothing exactly when each of them is undefined
    or is the first name again. -/
theorem Program.definedAmong_filter_iff (p : Program) (first : String) (names : List String)
    (keep : String → Bool) :
    p.definedAmong (first :: names.filter keep) = p.definedAmong (first :: names) ↔
      ∀ name ∈ names, keep name = false → p.lookup name ≠ none → name = first := by
  constructor
  · intro heq name hname hkeep hdefined
    obtain ⟨id, hid⟩ := Option.ne_none_iff_exists'.mp hdefined
    have hin : id ∈ p.definedAmong (first :: names.filter keep) := by
      rw [heq]
      exact mem_definedAmong.mpr ⟨name, List.mem_cons_of_mem _ hname, hid⟩
    obtain ⟨other, hother, hsame⟩ := mem_definedAmong.mp hin
    have hnames := eq_of_lookup hid hsame
    subst hnames
    rcases List.mem_cons.mp hother with hfirst | hkept
    · exact hfirst
    · rw [(List.mem_filter.mp hkept).2] at hkeep
      exact nomatch hkeep
  · intro h
    simp only [definedAmong]
    cases hfirst : p.lookup first with
    | some id =>
      rw [List.filterMap_cons_some hfirst, List.filterMap_cons_some hfirst, List.eraseDups_cons,
        List.eraseDups_cons, List.filter_filterMap, List.filter_filterMap, filterMap_filter_of_none]
      intro name hname hkeep
      by_cases hdefined : p.lookup name = none
      · rw [hdefined, Option.filter_none]
      · -- the first name stands in front already
        rw [h name hname hkeep hdefined, hfirst]
        simp
    | none =>
      rw [List.filterMap_cons_none hfirst, List.filterMap_cons_none hfirst,
        filterMap_filter_of_none]
      intro name hname hkeep
      by_contra hdefined
      exact hdefined (h name hname hkeep hdefined ▸ hfirst)

/-! ### 3. Resolution -/

theorem resolve_eq (p : Program) (c : Config) (callee : String) (candidates : List String) :
    resolve p c callee candidates =
      if callee ≠ "" ∧ p.lookup callee = none ∧ c.isPassthrough callee = true then
        ([], .passthrough)
      else
        let targets :=
          p.definedAmong (callee :: candidates.filter fun name => !c.isPassthrough name)
        if targets ≠ [] then (targets, .resolved)
        else if c.isIgnored callee then ([], .ignored)
        else ([], .external) := by
  have hstatic : (addTarget p [] callee).isEmpty = true ↔ p.lookup callee = none := by
    cases hcallee : p.lookup callee <;> simp [addTarget, hcallee]
  have htargets : (candidates.filter fun name => !c.isPassthrough name).foldl (addTarget p)
      (addTarget p [] callee) =
        p.definedAmong (callee :: candidates.filter fun name => !c.isPassthrough name) := by
    rw [← foldl_addTarget, List.foldl_cons]
  simp only [resolve, htargets, Bool.and_eq_true, hstatic, decide_eq_true_eq, Bool.not_eq_true',
    List.isEmpty_eq_false_iff, and_left_comm (b := callee ≠ ""), and_assoc]

section Kinds

variable {p : Program} {c : Config} {callee : String} {candidates : List String}

theorem resolve_eq_passthrough_iff : (resolve p c callee candidates).2 = .passthrough ↔
    callee ≠ "" ∧ p.lookup callee = none ∧ c.isPassthrough callee = true := by
  rw [resolve_eq]
  dsimp only
  split_ifs with hpass
  · exact iff_of_true rfl hpass
  · exact iff_of_false (by simp) hpass
  · exact iff_of_false (by simp) hpass
  · exact iff_of_false (by simp) hpass

theorem resolve_eq_resolved_iff : (resolve p c callee candidates).2 = .resolved ↔
    (resolve p c callee candidates).1 ≠ [] := by
  rw [resolve_eq]
  dsimp only
  split_ifs with hpass htargets
  · simp
  · exact iff_of_true rfl htargets
  · simp
  · simp

/-- The targets of a call are distinct functions with a body. -/
theorem resolve_targets : (resolve p c callee candidates).1.Nodup ∧
    ∀ t ∈ (resolve p c callee candidates).1, p.hasBody t = true := by
  rw [resolve_eq]
  dsimp only
  split_ifs
  · simp
  · refine ⟨p.nodup_definedAmong _, fun t ht => ?_⟩
    obtain ⟨name, _, hname⟩ := Program.mem_definedAmong.mp ht
    exact (Option.filter_eq_some_iff.mp hname).2
  · simp
  · simp

theorem resolve_of_ne_passthrough (h : (resolve p c callee candidates).2 ≠ .passthrough) :
    (resolve p c callee candidates).1 =
        p.definedAmong (callee :: candidates.filter fun name => !c.isPassthrough name) ∧
      ((resolve p c callee candidates).1 = [] →
        (resolve p c callee candidates).2 =
          if c.isIgnored callee then .ignored else .external) := by
  rw [Ne, resolve_eq_passthrough_iff] at h
  rw [resolve_eq, if_neg h]
  dsimp only
  by_cases htargets :
      p.definedAmong (callee :: candidates.filter fun name => !c.isPassthrough name) = []
  · rw [htargets, if_neg (not_not.mpr rfl)]
    split
    · exact ⟨rfl, fun _ => rfl⟩
    · exact ⟨rfl, fun _ => rfl⟩
  · rw [if_pos htargets]
    exact ⟨rfl, fun hnone => absurd hnone htargets⟩

end Kinds

/-! ### 4. The targets of a block -/

namespace Block

variable {p : Program} {config : Config} {b : Block}

theorem targets_of_call {c : Call} (h : b.terminator = .call c) :
    b.targets p config = (resolve p config c.callee c.candidates).1 := by
  simp [targets, call?, h]

theorem mem_targets_iff {t : Int} : t ∈ b.targets p config ↔
    ∃ c, b.terminator = .call c ∧ t ∈ (resolve p config c.callee c.candidates).1 := by
  cases hterm : b.terminator with
  | call c => simp [targets_of_call hterm]
  | plain => simp [targets, call?, hterm]
  | drop place location => simp [targets, call?, hterm]

/-- The targets of a block are distinct functions with a body. -/
theorem targets_spec (p : Program) (config : Config) (b : Block) :
    (b.targets p config).Nodup ∧ ∀ t ∈ b.targets p config, p.hasBody t = true := by
  cases hcall : b.call? with
  | none => simp [targets, hcall]
  | some c =>
    simp only [targets, hcall]
    exact resolve_targets

theorem bounds_of_mem_targets {t : Int} (h : t ∈ b.targets p config) : 0 ≤ t ∧ t < p.size := by
  obtain ⟨f, hf, _⟩ := Program.hasBody_eq_true_iff.mp ((b.targets_spec p config).2 t h)
  obtain ⟨e, he, _⟩ := Program.source?_eq_some_iff.mp hf
  exact Program.bounds_of_function he

end Block

/-- **What a call may invoke, and how it is treated.**  For every program, configuration and call:
    the call is passed over exactly when its static callee has a name without a body that asks for
    it, and then it has no target.  Otherwise its targets are the functions with a body among the
    callee and the candidates, in order and each once, except the candidates whose names ask for
    passing over; these are the functions with a body among *all* the names exactly when no defined
    candidate but the callee itself has such a name.  A call with targets is resolved, and one
    without is ignored or external as the name of its callee says. -/
theorem resolve_exact (p : Program) (c : Config) (callee : String) (candidates : List String) :
    ((resolve p c callee candidates).2 = .passthrough ↔
      callee ≠ "" ∧ p.lookup callee = none ∧ c.isPassthrough callee = true) ∧
    ((resolve p c callee candidates).2 = .passthrough → (resolve p c callee candidates).1 = []) ∧
    ((resolve p c callee candidates).2 ≠ .passthrough →
      (resolve p c callee candidates).1 =
        p.definedAmong (callee :: candidates.filter fun name => !c.isPassthrough name) ∧
      ((resolve p c callee candidates).1 = p.definedAmong (callee :: candidates) ↔
        ∀ name ∈ candidates, c.isPassthrough name = true → p.lookup name ≠ none →
          name = callee) ∧
      ((resolve p c callee candidates).1 = [] → (resolve p c callee candidates).2 =
        if c.isIgnored callee then .ignored else .external)) ∧
    ((resolve p c callee candidates).2 = .resolved ↔ (resolve p c callee candidates).1 ≠ []) := by
  refine ⟨resolve_eq_passthrough_iff, ?_, ?_, resolve_eq_resolved_iff⟩
  · intro hpass
    by_contra htargets
    rw [resolve_eq_resolved_iff.mpr htargets] at hpass
    exact nomatch hpass
  · intro hpass
    obtain ⟨htargets, hnone⟩ := resolve_of_ne_passthrough hpass
    refine ⟨htargets, ?_, hnone⟩
    rw [htargets, p.definedAmong_filter_iff]
    simp only [Bool.not_eq_false']

/-- A function with a body whose name asks for passing over. -/
def accessor : Source.Function where
  name := "demo::Buf::as_ref"
  blocks := [{ id := 0 }]

def accessorProgram : Program := { entries := #[{ source := accessor }] }

theorem built_accessor : accessorProgram.Built :=
  Program.built_of_names [accessor] (by decide) (by decide)

/-- A dispatch candidate with a body is not invoked when its name asks for passing over. -/
theorem resolve_overlooks_accessor :
    accessorProgram.Built ∧
      accessorProgram.definedAmong ["dyn::AsRef::get", "demo::Buf::as_ref"] = [0] ∧
      resolve accessorProgram {} "dyn::AsRef::get" ["demo::Buf::as_ref"] = ([], .external) :=
  ⟨built_accessor, by decide +kernel, by decide +kernel⟩

end DropFlow
