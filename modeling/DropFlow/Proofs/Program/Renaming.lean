/-
  DropFlow/Proofs/Program/Renaming.lean
  =====================================
  Programs that differ in the identifiers of their functions.

  A program that is assembled from functions has one entry for each of their names, and
  the definitions among them as sources (`Records`).  Neither depends on the order of the
  functions; what does is the identifier of each name, which is taken when the name is
  first added.  The names translate the identifiers of one order into those of another
  (`translation`), and what an analysis asks a program is answered alike up to such a
  translation (`Renamed`).
-/
import DropFlow.Proofs.Flow.Analysis
import DropFlow.Proofs.Program.Requests
import Mathlib.Data.List.Nodup
import Mathlib.Data.List.Perm.Subperm
import Mathlib.Logic.Equiv.Defs

namespace DropFlow

namespace Program

/-! ### 1. Assembling a program -/

/-- A program made by adding functions and suppressions one after the other, and what was added,
    in order. -/
inductive Assembled : List Source.Function → List Suppression → Program → Prop
  | empty : Assembled [] [] {}
  | add {fs : List Source.Function} {lines : List Suppression} {p q : Program}
      {f : Source.Function} {id : Int} : Assembled fs lines p → p.add f = .ok (q, id) →
      Assembled (fs ++ [f]) lines q
  | silence {fs : List Source.Function} {lines : List Suppression} {p : Program}
      (more : List Suppression) : Assembled fs lines p →
      Assembled fs (lines ++ more) { p with suppressions := p.suppressions ++ more }

theorem Assembled.addFunctions {lines : List Suppression} (more : List Source.Function) :
    ∀ {fs : List Source.Function} {p q : Program}, Assembled fs lines p →
      p.addFunctions more = (q, none) → Assembled (fs ++ more) lines q := by
  induction more with
  | nil =>
    intro fs p q hp h
    cases h
    rw [List.append_nil]
    exact hp
  | cons f rest ih =>
    intro fs p q hp h
    rw [Program.addFunctions] at h
    split at h
    · cases h
    · rename_i p' id hadd
      have hrest := ih (hp.add hadd) h
      rw [List.append_assoc] at hrest
      exact hrest

/-- A file adds its functions and its suppressions. -/
theorem Assembled.addFile {fs : List Source.Function} {lines : List Suppression} {p q : Program}
    (hp : Assembled fs lines p) {f : Source.File} (h : p.addFile f = (q, none)) :
    Assembled (fs ++ f.functions) (lines ++ f.suppressions) q := by
  unfold Program.addFile at h
  split at h
  · cases h
  · rename_i p' hadd
    cases h
    exact .silence f.suppressions (hp.addFunctions f.functions hadd)

theorem Assembled.built {fs : List Source.Function} {lines : List Suppression} {p : Program}
    (h : Assembled fs lines p) : p.Built := by
  induction h with
  | empty => exact .empty
  | add _ hadd ih => exact .add ih hadd
  | silence more _ ih => exact .silence _ ih

theorem suppressions_add {p q : Program} {f : Source.Function} {id : Int}
    (h : p.add f = .ok (q, id)) : q.suppressions = p.suppressions := by
  obtain ⟨_, ⟨_, _, rfl⟩ | ⟨_, _, _, rfl⟩ | ⟨_, _, rfl⟩⟩ := add_cases h
  · rfl
  · rfl
  · rfl

theorem Assembled.suppressions {fs : List Source.Function} {lines : List Suppression} {p : Program}
    (h : Assembled fs lines p) : p.suppressions = lines := by
  induction h with
  | empty => rfl
  | add _ hadd ih => exact (suppressions_add hadd).trans ih
  | silence more _ ih => exact congrArg (· ++ more) ih

/-- What adding a function does to the sources: it changes none of them if the function is only
    declared and its name is known, and else it takes the place of a declaration or a new one. -/
theorem source?_add {p q : Program} {f : Source.Function} {id : Int}
    (h : p.add f = .ok (q, id)) :
    (f.isDefined = false ∧ (∃ d, p.source? id = some d ∧ d.name = f.name) ∧ q = p) ∨
      ((∀ j, q.source? j = if j = id then some f else p.source? j) ∧
        ∀ d, p.source? id = some d → d.isDefined = false ∧ d.name = f.name) := by
  obtain ⟨_, ⟨hid, hdef, rfl⟩ | ⟨hid, _, hbody, rfl⟩ | ⟨_, rfl, rfl⟩⟩ := add_cases h
  · exact .inl ⟨hdef, source_of_idOf? hid, rfl⟩
  · obtain ⟨d, hd, hname⟩ := source_of_idOf? hid
    refine .inr ⟨source?_define hd f, fun d' hd' => ?_⟩
    rw [hd] at hd'
    cases hd'
    refine ⟨?_, hname⟩
    rw [← Bool.not_eq_true]
    intro hdef
    rw [hasBody_eq_true_iff.mpr ⟨d, hd, hdef⟩] at hbody
    cases hbody
  · refine .inr ⟨source?_push p f, fun d hd => ?_⟩
    rw [source?_size] at hd
    cases hd

/-- What a program keeps of the functions that were added: their names, each once, and their
    definitions. -/
structure Records (fs : List Source.Function) (p : Program) : Prop where
  distinct : p.Distinct
  named : ∀ name, (∃ id f, p.source? id = some f ∧ f.name = name) ↔ ∃ f ∈ fs, f.name = name
  defined : ∀ f, f.isDefined = true → ((∃ id, p.source? id = some f) ↔ f ∈ fs)

theorem Records.add {fs : List Source.Function} {p q : Program} {f : Source.Function} {id : Int}
    (h : Records fs p) (hadd : p.add f = .ok (q, id)) : Records (fs ++ [f]) q := by
  refine ⟨distinct_add h.distinct hadd, fun name => ?_, fun g hg => ?_⟩
  · have hmem : (∃ g ∈ fs ++ [f], g.name = name) ↔ (∃ g ∈ fs, g.name = name) ∨ f.name = name := by
      simp [or_and_right, exists_or]
    rw [hmem, ← h.named]
    obtain ⟨_, ⟨d, hd, hname⟩, rfl⟩ | ⟨hsource, hplace⟩ := source?_add hadd
    · constructor
      · exact .inl
      · rintro (hold | rfl)
        · exact hold
        · exact ⟨id, d, hd, hname⟩
    · constructor
      · rintro ⟨j, g, hg, rfl⟩
        rw [hsource] at hg
        split at hg
        · cases hg
          exact .inr rfl
        · exact .inl ⟨j, g, hg, rfl⟩
      · rintro (⟨j, g, hg, rfl⟩ | rfl)
        · by_cases hj : j = id
          · subst hj
            exact ⟨j, f, by rw [hsource, if_pos rfl], (hplace g hg).2.symm⟩
          · exact ⟨j, g, by rw [hsource, if_neg hj, hg], rfl⟩
        · exact ⟨id, f, by rw [hsource, if_pos rfl], rfl⟩
  · rw [List.mem_append, List.mem_singleton, ← h.defined g hg]
    obtain ⟨hdef, _, rfl⟩ | ⟨hsource, hplace⟩ := source?_add hadd
    · constructor
      · exact .inl
      · rintro (hold | rfl)
        · exact hold
        · rw [hdef] at hg
          cases hg
    · constructor
      · rintro ⟨j, hj⟩
        rw [hsource] at hj
        split at hj
        · cases hj
          exact .inr rfl
        · exact .inl ⟨j, hj⟩
      · rintro (⟨j, hj⟩ | rfl)
        · have hne : j ≠ id := by
            rintro rfl
            rw [(hplace g hj).1] at hg
            cases hg
          exact ⟨j, by rw [hsource, if_neg hne, hj]⟩
        · exact ⟨id, by rw [hsource, if_pos rfl]⟩

theorem Assembled.records {fs : List Source.Function} {lines : List Suppression} {p : Program}
    (h : Assembled fs lines p) : Records fs p := by
  induction h with
  | empty =>
    have hnone : ∀ id, source? {} id = none := by
      intro id
      simp [source?, function?]
    refine ⟨distinct_empty, fun name => ?_, fun f _ => ?_⟩
    · simp [hnone]
    · simp [hnone]
  | add _ hadd ih => exact ih.add hadd
  | silence more _ ih => exact ⟨ih.distinct, ih.named, ih.defined⟩

/-! ### 2. Translating identifiers -/

/-- Programs with the same names. -/
structure SameNames (p q : Program) : Prop where
  distinct : p.Distinct
  distinct' : q.Distinct
  named : ∀ name, (∃ id f, p.source? id = some f ∧ f.name = name) ↔
    ∃ id f, q.source? id = some f ∧ f.name = name

theorem SameNames.symm {p q : Program} (h : p.SameNames q) : q.SameNames p :=
  ⟨h.distinct', h.distinct, fun name => (h.named name).symm⟩

/-- The identifier in one program of the name that an identifier has in another one. -/
def translate (p q : Program) (id : Int) : Int :=
  match p.source? id with
  | some f => (q.idOf? f.name).getD id
  | none => id

theorem SameNames.translate_eq {p q : Program} (h : p.SameNames q) {i j : Int}
    {f g : Source.Function} (hf : p.source? i = some f) (hg : q.source? j = some g)
    (hname : g.name = f.name) : p.translate q i = j := by
  have hid := h.distinct'.idOf?_eq_some_iff.mpr ⟨g, hg, hname⟩
  simp [translate, hf, hid]

/-- The names of the functions, in the order of their identifiers. -/
def names (p : Program) : List String := p.entries.toList.map (·.source.name)

theorem names_getElem? (p : Program) (i : Nat) :
    p.names[i]? = (p.source? i).map (·.name) := by
  simp [names, source?, function?, Function.comp_def]

theorem mem_names {p : Program} {name : String} :
    name ∈ p.names ↔ ∃ id f, p.source? id = some f ∧ f.name = name := by
  rw [List.mem_iff_getElem?]
  constructor
  · rintro ⟨i, hi⟩
    rw [names_getElem?] at hi
    obtain ⟨f, hf, hname⟩ := Option.map_eq_some_iff.mp hi
    exact ⟨i, f, hf, hname⟩
  · rintro ⟨id, f, hf, hname⟩
    obtain ⟨e, he, _⟩ := source?_eq_some_iff.mp hf
    have hid : ((id.toNat : Nat) : Int) = id := Int.toNat_of_nonneg (bounds_of_function he).1
    exact ⟨id.toNat, by rw [names_getElem?, hid, hf, Option.map_some, hname]⟩

theorem Distinct.nodup_names {p : Program} (h : p.Distinct) : p.names.Nodup := by
  rw [List.nodup_iff_getElem?_ne_getElem?]
  intro i j hij hj heq
  rw [names_getElem?, names_getElem?] at heq
  have hsome : (p.source? j).isSome := by
    have hin : p.names[j]?.isSome := by simp [hj]
    rw [names_getElem?] at hin
    simpa using hin
  obtain ⟨g, hg⟩ := Option.isSome_iff_exists.mp hsome
  rw [hg, Option.map_some] at heq
  obtain ⟨f, hf, hname⟩ := Option.map_eq_some_iff.mp heq
  have hsame := h i j f g hf hg hname
  omega

theorem SameNames.size {p q : Program} (h : p.SameNames q) : q.size = p.size := by
  have hlength : ∀ r : Program, r.names.length = r.size := by
    intro r
    simp [names, Program.size]
  have hperm : p.names.Perm q.names := by
    rw [List.perm_ext_iff_of_nodup h.distinct.nodup_names h.distinct'.nodup_names]
    intro name
    rw [mem_names, mem_names]
    exact h.named name
  rw [← hlength, ← hlength]
  exact hperm.length_eq.symm

theorem source?_isSome_iff (p : Program) (id : Int) :
    (p.source? id).isSome ↔ 0 ≤ id ∧ id < p.size := by
  rw [← function?_isSome_iff]
  simp [source?]

/-- Translating there and back changes nothing. -/
theorem SameNames.translate_translate {p q : Program} (h : p.SameNames q) (id : Int) :
    q.translate p (p.translate q id) = id := by
  cases hp : p.source? id with
  | some f =>
    obtain ⟨j, g, hg, hname⟩ := (h.named f.name).mp ⟨id, f, hp, rfl⟩
    rw [h.translate_eq hp hg hname]
    exact h.symm.translate_eq hg hp hname.symm
  | none =>
    -- both programs have the same number of functions, and no function outside of it
    have hq : q.source? id = none := by
      rw [← Option.not_isSome_iff_eq_none, source?_isSome_iff, h.size, ← source?_isSome_iff, hp]
      simp
    have hfirst : p.translate q id = id := by
      unfold translate
      rw [hp]
    rw [hfirst]
    unfold translate
    rw [hq]

/-- The translation of the identifiers of one program into those of another one. -/
def translation {p q : Program} (h : p.SameNames q) : Equiv.Perm Int where
  toFun := p.translate q
  invFun := q.translate p
  left_inv := h.translate_translate
  right_inv := h.symm.translate_translate

/-! ### 3. Renamed programs -/

/-- Two programs with the same definitions, up to a translation of the identifiers. -/
structure Renamed (ρ : Equiv.Perm Int) (p q : Program) : Prop where
  distinct : p.Distinct
  distinct' : q.Distinct
  coherent : p.Coherent
  coherent' : q.Coherent
  sources : ∀ id f, f.isDefined = true → (q.source? (ρ id) = some f ↔ p.source? id = some f)
  suppressed : ∀ l, q.isSuppressed l = p.isSuppressed l

/-- **The order of the functions** only matters to their identifiers. -/
theorem renamed_of_assembled {fs gs : List Source.Function} {lines lines' : List Suppression}
    {p q : Program} (hp : Assembled fs lines p) (hq : Assembled gs lines' q) (hfs : fs.Perm gs)
    (hlines : lines.Perm lines') : ∃ ρ, p.Renamed ρ q := by
  have hnames : p.SameNames q := by
    refine ⟨hp.records.distinct, hq.records.distinct, fun name => ?_⟩
    rw [hp.records.named, hq.records.named]
    simp only [hfs.mem_iff]
  have hdefined : ∀ f, f.isDefined = true →
      ((∃ id, p.source? id = some f) ↔ ∃ id, q.source? id = some f) := by
    intro f hf
    rw [hp.records.defined f hf, hq.records.defined f hf, hfs.mem_iff]
  have hforward : ∀ id f, f.isDefined = true → p.source? id = some f →
      q.source? (translation hnames id) = some f := by
    intro id f hf hid
    obtain ⟨j, hj⟩ := (hdefined f hf).mp ⟨id, hid⟩
    have heq : translation hnames id = j := hnames.translate_eq hid hj rfl
    rw [heq]
    exact hj
  refine ⟨translation hnames, hp.records.distinct, hq.records.distinct, hp.built.coherent,
    hq.built.coherent, fun id f hf => ⟨fun hid => ?_, hforward id f hf⟩, fun l => ?_⟩
  · obtain ⟨i, hi⟩ := (hdefined f hf).mpr ⟨_, hid⟩
    have hsame := hnames.distinct' _ _ f f (hforward i f hf hi) hid rfl
    rw [← (translation hnames).injective hsame]
    exact hi
  · have hany : q.suppressions.Perm p.suppressions := by
      rw [hp.suppressions, hq.suppressions]
      exact hlines.symm
    exact hany.any_eq

namespace Renamed

variable {ρ : Equiv.Perm Int} {p q : Program}

theorem symm (h : p.Renamed ρ q) : q.Renamed ρ.symm p where
  distinct := h.distinct'
  distinct' := h.distinct
  coherent := h.coherent'
  coherent' := h.coherent
  sources := fun id f hf => by
    rw [← h.sources (ρ.symm id) f hf, Equiv.apply_symm_apply]
  suppressed := fun l => (h.suppressed l).symm

/-- Asking for bodies does not matter. -/
theorem later (h : p.Renamed ρ q) {p' q' : Program} (hp : p.Later p') (hq : q.Later q') :
    p'.Renamed ρ q' where
  distinct := fun i j f g hf hg => by
    rw [hp.alike.source?] at hf hg
    exact h.distinct i j f g hf hg
  distinct' := fun i j f g hf hg => by
    rw [hq.alike.source?] at hf hg
    exact h.distinct' i j f g hf hg
  coherent := hp.coherent h.coherent
  coherent' := hq.coherent h.coherent'
  sources := fun id f hf => by
    rw [hp.alike.source?, hq.alike.source?]
    exact h.sources id f hf
  suppressed := fun l => by
    unfold isSuppressed
    rw [hp.alike.suppressions, hq.alike.suppressions]
    exact h.suppressed l

theorem hasBody (h : p.Renamed ρ q) (id : Int) : q.hasBody (ρ id) = p.hasBody id := by
  rw [Bool.eq_iff_iff, hasBody_eq_true_iff, hasBody_eq_true_iff]
  constructor
  · rintro ⟨f, hf, hdef⟩
    exact ⟨f, (h.sources id f hdef).mp hf, hdef⟩
  · rintro ⟨f, hf, hdef⟩
    exact ⟨f, (h.sources id f hdef).mpr hf, hdef⟩

theorem name (h : p.Renamed ρ q) {id : Int} (hbody : p.hasBody id = true) :
    q.name (ρ id) = p.name id := by
  obtain ⟨f, hf, hdef⟩ := hasBody_eq_true_iff.mp hbody
  obtain ⟨d, hd, hp⟩ := source?_eq_some_iff.mp hf
  obtain ⟨e, he, hq⟩ := source?_eq_some_iff.mp ((h.sources id f hdef).mpr hf)
  simp only [Program.name, hd, he, hp, hq]

theorem lookup (h : p.Renamed ρ q) (name : String) : q.lookup name = (p.lookup name).map ρ := by
  have hiff : ∀ id, q.lookup name = some (ρ id) ↔ p.lookup name = some id := by
    intro id
    rw [h.distinct'.lookup_eq_some_iff, h.distinct.lookup_eq_some_iff]
    constructor
    · rintro ⟨f, hf, hname, hdef⟩
      exact ⟨f, (h.sources id f hdef).mp hf, hname, hdef⟩
    · rintro ⟨f, hf, hname, hdef⟩
      exact ⟨f, (h.sources id f hdef).mpr hf, hname, hdef⟩
  apply Option.ext
  intro j
  rw [← ρ.apply_symm_apply j, hiff, Option.map_eq_some_iff]
  simp only [EmbeddingLike.apply_eq_iff_eq, exists_eq_right]

end Renamed

end Program

/-! ### 4. Bodies and calls -/

/-- A body under another identifier. -/
def Body.renumber (f : Body) (id : Int) : Body := { f with id }

theorem lowerFunction_renumber {id : Int} {f : Source.Function} {b : Body}
    (h : lowerFunction id f = .ok b) (j : Int) : lowerFunction j f = .ok (b.renumber j) := by
  unfold lowerFunction at h ⊢
  split at h
  · cases h
  · split at h
    · cases h
    · split at h
      · cases h
      · rename_i hentry
        split at h
        · cases h
        · cases h
          simp_all [Body.renumber]

namespace Program.Renamed

variable {ρ : Equiv.Perm Int} {p q : Program}

theorem body (h : p.Renamed ρ q) {id : Int} {b : Body} (hb : p.body id = .ok b) :
    q.body (ρ id) = .ok (b.renumber (ρ id)) := by
  obtain ⟨e, he, hdef, hlower⟩ := source_of_body_eq_ok hb
  have hsource := (h.sources id e.source hdef).mpr (source?_eq_some_iff.mpr ⟨e, he, rfl⟩)
  rw [body_of_source? hsource hdef, lowerFunction_renumber hlower]
  rfl

theorem exists_error (h : p.Renamed ρ q) {id : Int} {e : BodyError} (he : p.body id = .error e) :
    ∃ e', q.body (ρ id) = .error e' := by
  cases hq : q.body (ρ id) with
  | ok b =>
    have hback := h.symm.body hq
    rw [ρ.symm_apply_apply, he] at hback
    cases hback
  | error e' => exact ⟨e', rfl⟩

theorem addTarget (h : p.Renamed ρ q) (targets : List Int) (name : String) :
    DropFlow.addTarget q (targets.map ρ) name = (DropFlow.addTarget p targets name).map ρ := by
  unfold DropFlow.addTarget
  rw [h.lookup]
  cases p.lookup name with
  | none => rfl
  | some id =>
    by_cases hin : id ∈ targets
    · simp [hin]
    · simp [hin]

theorem foldl_addTarget (h : p.Renamed ρ q) (names : List String) : ∀ targets : List Int,
    names.foldl (DropFlow.addTarget q) (targets.map ρ) =
      (names.foldl (DropFlow.addTarget p) targets).map ρ := by
  induction names with
  | nil => exact fun _ => rfl
  | cons name rest ih =>
    intro targets
    rw [List.foldl_cons, List.foldl_cons, h.addTarget, ih]

/-- A call is treated alike, and may invoke the same functions. -/
theorem resolve (h : p.Renamed ρ q) (config : Config) (callee : String)
    (candidates : List String) : DropFlow.resolve q config callee candidates =
      ((DropFlow.resolve p config callee candidates).1.map ρ,
        (DropFlow.resolve p config callee candidates).2) := by
  have hstatic := h.addTarget [] callee
  rw [List.map_nil] at hstatic
  unfold DropFlow.resolve
  simp only [hstatic, h.foldl_addTarget, List.isEmpty_map]
  split
  · rfl
  · split
    · rfl
    · split <;> rfl

theorem targets (h : p.Renamed ρ q) (config : Config) (b : Block) :
    b.targets q config = (b.targets p config).map ρ := by
  unfold Block.targets
  split
  · rw [h.resolve]
  · rfl

end Program.Renamed

/-- A block under the translated identifier of its function. -/
def BlockRef.rename (ρ : Equiv.Perm Int) (b : BlockRef) : BlockRef := ⟨ρ b.function, b.block⟩

@[simp] theorem BlockRef.rename_symm (ρ : Equiv.Perm Int) (b : BlockRef) :
    (b.rename ρ).rename ρ.symm = b := by
  simp [rename]

@[simp] theorem BlockRef.rename_inj {ρ : Equiv.Perm Int} {b c : BlockRef} :
    b.rename ρ = c.rename ρ ↔ b = c := by
  obtain ⟨f, m⟩ := b
  obtain ⟨g, n⟩ := c
  simp [rename]

namespace Program.Renamed

variable {ρ : Equiv.Perm Int} {p q : Program}

theorem step (h : p.Renamed ρ q) {config : Config} {x y : BlockRef} (hstep : p.Step config x y) :
    q.Step config (x.rename ρ) (y.rename ρ) := by
  cases hstep with
  | next hbody hb ht => exact .next (h.body hbody) hb ht
  | @enter f g body callee b hbody hb ht hcallee =>
    have htarget : ρ g ∈ b.targets q config := by
      rw [h.targets]
      exact List.mem_map_of_mem ht
    have hentered : q.Step config ⟨ρ f, b.id⟩ ⟨ρ g, (callee.renumber (ρ g)).entry⟩ :=
      .enter (h.body hbody) hb htarget (h.body hcallee)
    exact hentered

theorem reaches_rename (h : p.Renamed ρ q) {config : Config} {x y : BlockRef}
    (hreach : p.Reaches config x y) : q.Reaches config (x.rename ρ) (y.rename ρ) :=
  Relation.ReflTransGen.lift (BlockRef.rename ρ) (fun _ _ hstep => h.step hstep) x y hreach

theorem reaches_iff (h : p.Renamed ρ q) {config : Config} {x y : BlockRef} :
    q.Reaches config (x.rename ρ) (y.rename ρ) ↔ p.Reaches config x y := by
  constructor
  · intro hreach
    have hback := h.symm.reaches_rename hreach
    rw [BlockRef.rename_symm, BlockRef.rename_symm] at hback
    exact hback
  · exact h.reaches_rename

end Program.Renamed

end DropFlow
