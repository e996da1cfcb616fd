/-
  DropFlow/Proofs/Program/Requests.lean
  =====================================
  What a program keeps under every sequence of requests, refused ones included.

  Everything follows from the ways in which a program changes (`Change`).  None of them
  gives two functions one name (`Distinct`), and none takes a function, its name or its
  definition away (`Grows`).  Which bodies are kept at a point depends on what was asked
  before; what asking gives does not (`Coherent`).
-/
import DropFlow.Proofs.Program.Loading

namespace DropFlow.Program

/-! ### 1. Names -/

theorem function?_isSome_iff (p : Program) (id : Int) :
    (p.function? id).isSome ↔ 0 ≤ id ∧ id < p.size := by
  constructor
  · intro h
    obtain ⟨e, he⟩ := Option.isSome_iff_exists.mp h
    exact bounds_of_function he
  · rintro ⟨hlo, hhi⟩
    have hlt : id.toNat < p.entries.size := by
      simp only [size] at hhi
      omega
    simp [function?, hlo, hlt]

theorem source?_eq_some_iff {p : Program} {id : Int} {f : Source.Function} :
    p.source? id = some f ↔ ∃ e, p.function? id = some e ∧ e.source = f := by
  simp [source?]

theorem hasBody_eq_true_iff {p : Program} {id : Int} :
    p.hasBody id = true ↔ ∃ f, p.source? id = some f ∧ f.isDefined = true := by
  unfold hasBody source?
  cases p.function? id with
  | none => simp
  | some e => simp

theorem source_of_idOf? {p : Program} {name : String} {id : Int}
    (h : p.idOf? name = some id) : ∃ f, p.source? id = some f ∧ f.name = name := by
  unfold idOf? at h
  obtain ⟨i, hi, rfl⟩ := Option.map_eq_some_iff.mp h
  obtain ⟨hlt, hname, _⟩ := Array.findIdx?_eq_some_iff_getElem.mp hi
  refine ⟨p.entries[i].source, ?_, by simpa using hname⟩
  simp [source?, function?, hlt]

theorem name_ne_of_idOf?_eq_none {p : Program} {name : String} {id : Int} {f : Source.Function}
    (h : p.idOf? name = none) (hf : p.source? id = some f) : f.name ≠ name := by
  obtain ⟨e, he, rfl⟩ := source?_eq_some_iff.mp hf
  have hnone := Array.findIdx?_eq_none_iff.mp (Option.map_eq_none_iff.mp h)
  unfold function? at he
  split at he
  · exact of_decide_eq_false (hnone e (Array.mem_of_getElem? he))
  · exact nomatch he

/-- No two functions have one name. -/
def Distinct (p : Program) : Prop :=
  ∀ i j f g, p.source? i = some f → p.source? j = some g → f.name = g.name → i = j

theorem Distinct.idOf?_eq_some_iff {p : Program} (hp : p.Distinct) {name : String} {id : Int} :
    p.idOf? name = some id ↔ ∃ f, p.source? id = some f ∧ f.name = name := by
  constructor
  · exact source_of_idOf?
  · rintro ⟨f, hf, hname⟩
    cases hid : p.idOf? name with
    | none => exact absurd hname (name_ne_of_idOf?_eq_none hid hf)
    | some j =>
      obtain ⟨g, hg, hsame⟩ := source_of_idOf? hid
      rw [hp j id g f hg hf (hsame.trans hname.symm)]

theorem Distinct.lookup_eq_some_iff {p : Program} (hp : p.Distinct) {name : String} {id : Int} :
    p.lookup name = some id ↔ ∃ f, p.source? id = some f ∧ f.name = name ∧
      f.isDefined = true := by
  unfold lookup
  rw [Option.filter_eq_some_iff, hp.idOf?_eq_some_iff, hasBody_eq_true_iff]
  constructor
  · rintro ⟨⟨f, hf, hname⟩, g, hg, hdef⟩
    rw [hf] at hg
    cases hg
    exact ⟨f, hf, hname, hdef⟩
  · rintro ⟨f, hf, hname, hdef⟩
    exact ⟨⟨f, hf, hname⟩, f, hf, hdef⟩

/-! ### 2. Growth -/

theorem source?_define {p : Program} {id : Int} {d : Source.Function}
    (h : p.source? id = some d) (f : Source.Function) (j : Int) :
    (p.define id f).source? j = if j = id then some f else p.source? j := by
  obtain ⟨e, he, _⟩ := source?_eq_some_iff.mp h
  unfold source?
  rw [function?_define (bounds_of_function he).1]
  by_cases hj : j = id
  · rw [if_pos hj, if_pos hj, hj, he]
    rfl
  · rw [if_neg hj, if_neg hj]

theorem source?_push (p : Program) (f : Source.Function) (j : Int) :
    Program.source? { p with entries := p.entries.push { source := f } } j =
      if j = p.size then some f else p.source? j := by
  unfold source?
  rw [function?_push]
  split
  · rfl
  · rfl

theorem source?_size (p : Program) : p.source? p.size = none := by
  cases h : p.source? p.size with
  | none => rfl
  | some f =>
    obtain ⟨e, he, _⟩ := source?_eq_some_iff.mp h
    exact absurd (bounds_of_function he).2 (Int.lt_irrefl _)

/-- What later states have kept: every function with its name, and every definition. -/
structure Grows (p q : Program) : Prop where
  named : ∀ id f, p.source? id = some f → ∃ g, q.source? id = some g ∧ g.name = f.name
  fixed : ∀ id f, p.source? id = some f → f.isDefined = true → q.source? id = some f

theorem Grows.refl (p : Program) : p.Grows p :=
  ⟨fun _ f hf => ⟨f, hf, rfl⟩, fun _ _ hf _ => hf⟩

theorem Grows.trans {p q r : Program} (h₁ : p.Grows q) (h₂ : q.Grows r) : p.Grows r where
  named id f hf := by
    obtain ⟨g, hg, hname⟩ := h₁.named id f hf
    obtain ⟨k, hk, hsame⟩ := h₂.named id g hg
    exact ⟨k, hk, hsame.trans hname⟩
  fixed id f hf hdef := h₂.fixed id f (h₁.fixed id f hf hdef) hdef

theorem grows_of_source?_eq {p q : Program} (h : ∀ id, q.source? id = p.source? id) :
    p.Grows q where
  named id f hf := ⟨f, (h id).trans hf, rfl⟩
  fixed id _ hf _ := (h id).trans hf

theorem grows_define {p : Program} {id : Int} {d f : Source.Function}
    (hd : p.source? id = some d) (hname : d.name = f.name) (hbody : p.hasBody id = false) :
    p.Grows (p.define id f) where
  named j g hg := by
    rw [source?_define hd]
    by_cases hj : j = id
    · rw [if_pos hj]
      rw [hj, hd] at hg
      cases hg
      exact ⟨f, rfl, hname.symm⟩
    · rw [if_neg hj]
      exact ⟨g, hg, rfl⟩
  fixed j g hg hdef := by
    rw [source?_define hd]
    have hj : j ≠ id := by
      rintro rfl
      rw [hasBody_eq_true_iff.mpr ⟨g, hg, hdef⟩] at hbody
      exact nomatch hbody
    rw [if_neg hj]
    exact hg

theorem grows_push (p : Program) (f : Source.Function) :
    p.Grows { p with entries := p.entries.push { source := f } } := by
  have hold : ∀ j g, p.source? j = some g →
      Program.source? { p with entries := p.entries.push { source := f } } j = some g := by
    intro j g hg
    have hj : j ≠ p.size := by
      rintro rfl
      rw [source?_size] at hg
      exact nomatch hg
    rw [source?_push, if_neg hj]
    exact hg
  exact ⟨fun j g hg => ⟨g, hold j g hg, rfl⟩, fun j g hg _ => hold j g hg⟩

theorem grows_add {p q : Program} {f : Source.Function} {id : Int}
    (h : p.add f = .ok (q, id)) : p.Grows q := by
  obtain ⟨_, ⟨_, _, rfl⟩ | ⟨hid, _, hbody, rfl⟩ | ⟨_, _, rfl⟩⟩ := add_cases h
  · exact Grows.refl _
  · obtain ⟨d, hd, hname⟩ := source_of_idOf? hid
    exact grows_define hd hname hbody
  · exact grows_push p f

theorem distinct_add {p q : Program} {f : Source.Function} {id : Int} (hp : p.Distinct)
    (h : p.add f = .ok (q, id)) : q.Distinct := by
  obtain ⟨_, ⟨_, _, rfl⟩ | ⟨hid, _, hbody, rfl⟩ | ⟨hnew, _, rfl⟩⟩ := add_cases h
  · exact hp
  · -- the definition has the name of the declaration
    obtain ⟨d, hd, hname⟩ := source_of_idOf? hid
    have hnames : ∀ j g, (p.define id f).source? j = some g →
        ∃ g', p.source? j = some g' ∧ g'.name = g.name := by
      intro j g hg
      rw [source?_define hd] at hg
      by_cases hj : j = id
      · rw [if_pos hj] at hg
        cases hg
        exact ⟨d, hj ▸ hd, hname⟩
      · rw [if_neg hj] at hg
        exact ⟨g, hg, rfl⟩
    intro i j g k hg hk hsame
    obtain ⟨g', hg', hgname⟩ := hnames i g hg
    obtain ⟨k', hk', hkname⟩ := hnames j k hk
    exact hp i j g' k' hg' hk' (by rw [hgname, hsame, hkname])
  · -- no function had the name before
    have hother : ∀ j g, p.source? j = some g → g.name ≠ f.name :=
      fun j g => name_ne_of_idOf?_eq_none hnew
    intro i j g k hg hk hsame
    rw [source?_push] at hg hk
    by_cases hi : i = p.size <;> by_cases hj : j = p.size
    · rw [hi, hj]
    · rw [if_pos hi] at hg
      rw [if_neg hj] at hk
      cases hg
      exact absurd hsame.symm (hother j k hk)
    · rw [if_neg hi] at hg
      rw [if_pos hj] at hk
      cases hk
      exact absurd hsame (hother i g hg)
    · rw [if_neg hi] at hg
      rw [if_neg hj] at hk
      exact hp i j g k hg hk hsame

theorem Change.grows {p q : Program} (h : p.Change q) : p.Grows q := by
  cases h with
  | add hadd => exact grows_add hadd
  | silence lines => exact grows_of_source?_eq fun _ => rfl
  | fetch id => exact grows_of_source?_eq (alike_fetch p id).source?

theorem Change.distinct {p q : Program} (h : p.Change q) (hp : p.Distinct) : q.Distinct := by
  cases h with
  | add hadd => exact distinct_add hp hadd
  | silence lines => exact hp
  | fetch id =>
    intro i j f g hf hg
    rw [(alike_fetch p id).source?] at hf hg
    exact hp i j f g hf hg

theorem Becomes.grows {p q : Program} (h : p.Becomes q) : p.Grows q := by
  induction h with
  | refl => exact Grows.refl p
  | tail _ hchange ih => exact ih.trans hchange.grows

theorem Becomes.distinct {p q : Program} (h : p.Becomes q) (hp : p.Distinct) : q.Distinct := by
  induction h with
  | refl => exact hp
  | tail _ hchange ih => exact hchange.distinct ih

theorem distinct_empty : Distinct {} := by
  intro i j f g hf
  obtain ⟨e, he, _⟩ := source?_eq_some_iff.mp hf
  have hbounds := bounds_of_function he
  simp only [size, List.size_toArray, List.length_nil] at hbounds
  omega

theorem Grows.idOf? {p q : Program} (h : p.Grows q) (hq : q.Distinct) {name : String} {id : Int}
    (hid : p.idOf? name = some id) : q.idOf? name = some id := by
  obtain ⟨f, hf, hname⟩ := source_of_idOf? hid
  obtain ⟨g, hg, hsame⟩ := h.named id f hf
  exact hq.idOf?_eq_some_iff.mpr ⟨g, hg, hsame.trans hname⟩

/-! ### 3. Requests -/

/-- What a program can be asked to do. -/
inductive Request where
  | add (f : Source.Function)
  | addFile (f : Source.File)
  | fetch (id : Int)
  | lowerAll
  deriving DecidableEq, Repr

/-- The state after a request, whether or not it is refused. -/
def serve (p : Program) : Request → Program
  | .add f =>
    match p.add f with
    | .ok (q, _) => q
    | .error _ => p
  | .addFile f => (p.addFile f).1
  | .fetch id => (p.fetch id).program
  | .lowerAll => p.lowerAll.1

/-- The state that requests lead to from the empty program. -/
def after (requests : List Request) : Program := requests.foldl serve {}

theorem becomes_fetchAll (ids : List Int) : ∀ p : Program, p.Becomes (p.fetchAll ids).1 := by
  induction ids with
  | nil =>
    intro p
    exact Relation.ReflTransGen.refl
  | cons id rest ih =>
    intro p
    rw [fetchAll]
    dsimp only
    split
    · exact Relation.ReflTransGen.single (.fetch id)
    · exact Relation.ReflTransGen.head (.fetch id) (ih _)

theorem becomes_serve (p : Program) (r : Request) : p.Becomes (p.serve r) := by
  cases r with
  | add f =>
    simp only [serve]
    split
    · rename_i hadd
      exact Relation.ReflTransGen.single (.add hadd)
    · exact Relation.ReflTransGen.refl
  | addFile f => exact becomes_addFile p f
  | fetch id => exact Relation.ReflTransGen.single (.fetch id)
  | lowerAll => exact becomes_fetchAll _ p

theorem becomes_foldl_serve (requests : List Request) :
    ∀ p : Program, p.Becomes (requests.foldl serve p) := by
  induction requests with
  | nil =>
    intro p
    exact Relation.ReflTransGen.refl
  | cons r rest ih =>
    intro p
    exact (becomes_serve p r).trans (ih _)

theorem becomes_after (past later : List Request) :
    (after past).Becomes (after (past ++ later)) := by
  unfold after
  rw [List.foldl_append]
  exact becomes_foldl_serve later _

theorem built_after (requests : List Request) : (after requests).Built :=
  Built.empty.becomes (becomes_foldl_serve requests {})

theorem distinct_after (requests : List Request) : (after requests).Distinct :=
  (becomes_foldl_serve requests {}).distinct distinct_empty

theorem body_of_source? {p : Program} {id : Int} {f : Source.Function}
    (hf : p.source? id = some f) (hdef : f.isDefined = true) :
    p.body id = (lowerFunction id f).mapError .lowering := by
  obtain ⟨e, he, rfl⟩ := source?_eq_some_iff.mp hf
  unfold body
  rw [he]
  simp only [hdef, Bool.not_true, Bool.false_eq_true, if_false]

theorem body_of_hasBody_eq_false {p : Program} {id : Int} (h : p.hasBody id = false) :
    p.body id = .error (.noBody (p.name id)) := by
  unfold hasBody at h
  unfold body
  cases he : p.function? id with
  | none => rfl
  | some e =>
    rw [he] at h
    dsimp only at h ⊢
    rw [h, Bool.not_false, if_pos rfl]

/-- Exactly these functions are refused: those without a name, and second definitions. -/
theorem add_eq_error_iff {p : Program} {f : Source.Function} {e : AddError} :
    p.add f = .error e ↔ (f.name = "" ∧ e = .nameMissing) ∨
      (f.name ≠ "" ∧ f.isDefined = true ∧ (p.lookup f.name).isSome ∧
        e = .definedTwice f.name) := by
  unfold add lookup
  by_cases hname : f.name = ""
  · simp [hname, @eq_comm _ AddError.nameMissing]
  · cases hid : p.idOf? f.name with
    | none => simp [hname]
    | some id =>
      cases hdef : f.isDefined with
      | false => simp [hname]
      | true =>
        cases hbody : p.hasBody id with
        | false => simp [hname, hbody, Option.filter]
        | true => simp [hname, hbody, Option.filter, eq_comm]

theorem idOf?_of_add {p q : Program} {f : Source.Function} {id : Int} (hp : p.Distinct)
    (h : p.add f = .ok (q, id)) : q.idOf? f.name = some id := by
  have hq := distinct_add hp h
  obtain ⟨_, ⟨hid, _, rfl⟩ | ⟨hid, _, _, rfl⟩ | ⟨_, rfl, rfl⟩⟩ := add_cases h
  · exact hid
  · exact (grows_add h).idOf? hq hid
  · refine hq.idOf?_eq_some_iff.mpr ⟨f, ?_, rfl⟩
    rw [source?_push, if_pos rfl]

/-! ### 4. Every state of a program -/

/-- **What holds of a program in every state**, whatever was asked in the past and whatever is
    asked later. -/
theorem store_after_requests (past later : List Request) :
    -- identifiers are dense, and stand for one name each
    (∀ id, ((after past).source? id).isSome ↔ 0 ≤ id ∧ id < (after past).size) ∧
    (∀ name id, (after past).idOf? name = some id ↔
      ∃ f, (after past).source? id = some f ∧ f.name = name) ∧
    (∀ i j f g, (after past).source? i = some f → (after past).source? j = some g → i ≠ j →
      f.name ≠ g.name) ∧
    -- a name keeps the identifier that it was given
    (∀ f p id, (after past).add f = .ok (p, id) → p.idOf? f.name = some id) ∧
    (∀ name id, (after past).idOf? name = some id →
      (after (past ++ later)).idOf? name = some id) ∧
    -- looking up finds what is defined, and a definition stays
    (∀ name id, (after past).lookup name = some id ↔
      ∃ f, (after past).source? id = some f ∧ f.name = name ∧ f.isDefined = true) ∧
    (∀ id, (after past).hasBody id = true →
      (after (past ++ later)).source? id = (after past).source? id) ∧
    -- what is refused leaves everything as it was
    (∀ f e, (after past).add f = .error e → after (past ++ [.add f]) = after past) ∧
    (∀ f, (∃ e, (after past).add f = .error e) ↔ f.name = "" ∨
      f.isDefined = true ∧ ∃ id, (after past).lookup f.name = some id) ∧
    -- a body is what the present source lowers to, kept or not
    (∀ id, (after past).hasBody id = false →
      ((after past).fetch id).body = .error (.noBody ((after past).name id))) ∧
    (∀ id f, (after past).source? id = some f → f.isDefined = true →
      ((after past).fetch id).body = (lowerFunction id f).mapError .lowering) := by
  have hcoherent := (built_after past).coherent
  have hdistinct := distinct_after past
  have hgrows := (becomes_after past later).grows
  refine ⟨?_, fun _ _ => hdistinct.idOf?_eq_some_iff, ?_, fun _ _ _ => idOf?_of_add hdistinct,
    fun _ _ => hgrows.idOf? (distinct_after _), fun _ _ => hdistinct.lookup_eq_some_iff,
    ?_, ?_, ?_, ?_, ?_⟩
  · intro id
    rw [← function?_isSome_iff]
    simp [source?]
  · intro i j f g hf hg hne hname
    exact hne (hdistinct i j f g hf hg hname)
  · intro id hbody
    obtain ⟨f, hf, hdef⟩ := hasBody_eq_true_iff.mp hbody
    rw [hf]
    exact hgrows.fixed id f hf hdef
  · intro f e hadd
    have hserve : (after past).serve (.add f) = after past := by
      simp only [serve, hadd]
    simpa [after] using hserve
  · intro f
    simp only [add_eq_error_iff, exists_or, exists_and_left, exists_eq, and_true,
      Option.isSome_iff_exists]
    by_cases hname : f.name = ""
    · simp [hname]
    · simp [hname]
  · intro id hbody
    rw [hcoherent.fetch_body, body_of_hasBody_eq_false hbody]
  · intro id f hf hdef
    rw [hcoherent.fetch_body, body_of_source? hf hdef]

/-- A declaration whose body is asked for in vain, its definition, and a second one. -/
def hesitant : List Request :=
  [.add { name := "g" }, .fetch 0, .add { name := "g", blocks := [{ id := 7 }] }, .fetch 0,
    .add { name := "g", blocks := [{}, {}] }]

theorem store_after_requests_hesitant :
    (after hesitant).source? 0 = some { name := "g", blocks := [{ id := 7 }] } ∧
    ((after hesitant).fetch 0).body =
      (lowerFunction 0 { name := "g", blocks := [{ id := 7 }] }).mapError .lowering ∧
    after (hesitant ++ [.add { name := "g", blocks := [{}, {}] }]) = after hesitant ∧
    ((after hesitant).fetch 1).body = .error (.noBody ((after hesitant).name 1)) := by
  have hsource : (after hesitant).source? 0 = some { name := "g", blocks := [{ id := 7 }] } := by
    decide +kernel
  obtain ⟨_, _, _, _, _, hlookup, _, hrefused, hrefuses, hmissing, hlowers⟩ :=
    store_after_requests hesitant []
  obtain ⟨e, he⟩ := (hrefuses { name := "g", blocks := [{}, {}] }).mpr
    (.inr ⟨rfl, 0, (hlookup _ _).mpr ⟨_, hsource, rfl, rfl⟩⟩)
  exact ⟨hsource, hlowers 0 _ hsource rfl, hrefused _ e he, hmissing 1 (by decide +kernel)⟩

end DropFlow.Program
