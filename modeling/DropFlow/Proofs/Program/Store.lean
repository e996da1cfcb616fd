/-
  DropFlow/Proofs/Program/Store.lean
  ==================================
  The functions of a program and the bodies that it keeps.

  A program changes in two ways: functions are added, and bodies are kept once they have
  been asked for.  Asking for a body changes neither the functions nor the answer to any
  question (`Alike`).  In every program that arises by adding functions and asking for
  bodies (`Built`), the bodies that are kept are those that the sources lower to
  (`Coherent`), so that asking gives what lowering gives.
-/
import DropFlow.Check
import DropFlow.Proofs.Body.Lowering
import Mathlib.Data.List.Induction
import Mathlib.Logic.Relation

namespace DropFlow

theorem eq_ok_of_toOption {ε α : Type} {r : Except ε α} {a : α} (h : r.toOption = some a) :
    r = .ok a := by
  cases r with
  | ok b =>
    cases h
    rfl
  | error e => exact nomatch h

namespace Program

/-! ### 1. Functions and kept bodies -/

/-- The source of a function. -/
def source? (p : Program) (id : Int) : Option Source.Function :=
  p.function? id |>.map (·.source)

/-- The body that is kept of a function. -/
def kept? (p : Program) (id : Int) : Option Body := p.function? id |>.bind (·.body)

theorem function?_modify (p : Program) (id j : Int) (f : Entry → Entry) (hid : 0 ≤ id) :
    Program.function? { p with entries := p.entries.modify id.toNat f } j =
      if j = id then (p.function? j).map f else p.function? j := by
  unfold function?
  by_cases hj : 0 ≤ j
  · simp only [if_pos hj, Array.getElem?_modify]
    by_cases hji : j = id
    · subst hji
      simp
    · have hne : id.toNat ≠ j.toNat := by omega
      simp [hji, hne]
  · simp [if_neg hj]

theorem bounds_of_function {p : Program} {id : Int} {e : Entry} (h : p.function? id = some e) :
    0 ≤ id ∧ id < p.size := by
  unfold function? at h
  split at h
  · rename_i hid
    have hlt := (Array.getElem?_eq_some_iff.mp h).1
    simp only [size]
    omega
  · simp at h

theorem source_of_body_eq_ok {p : Program} {id : Int} {b : Body} (h : p.body id = .ok b) :
    ∃ e, p.function? id = some e ∧ e.source.isDefined = true ∧
      lowerFunction id e.source = .ok b := by
  unfold body at h
  split at h
  · exact nomatch h
  · rename_i e he
    split at h
    · exact nomatch h
    · rename_i hdef
      refine ⟨e, he, by simpa using hdef, ?_⟩
      cases hl : lowerFunction id e.source with
      | error err =>
        rw [hl] at h
        exact nomatch h
      | ok b' =>
        rw [hl] at h
        cases h
        rfl

/-- What asking for a body does: it gives the body that is kept, or else it lowers the source and
    keeps what comes of it. -/
theorem fetch_cases (p : Program) (id : Int) :
    (∃ b, p.kept? id = some b ∧ (p.fetch id).body = .ok b ∧ (p.fetch id).program = p) ∨
      (p.kept? id = none ∧ (p.fetch id).body = p.body id ∧
        ((∃ e, p.body id = .error e) ∧ (p.fetch id).program = p ∨
          ∃ b, p.body id = .ok b ∧ 0 ≤ id ∧ (p.fetch id).program =
            { p with
              entries := p.entries.modify id.toNat fun e => { e with body := some b } })) := by
  unfold fetch
  split
  · rename_i b hb
    exact Or.inl ⟨b, hb, rfl, rfl⟩
  · rename_i hnone
    refine Or.inr ⟨hnone, ?_⟩
    cases he : p.function? id with
    | none =>
      have hbody : p.body id = .error (.noBody (p.name id)) := by
        unfold body
        rw [he]
      exact ⟨rfl, Or.inl ⟨⟨_, hbody⟩, rfl⟩⟩
    | some e =>
      dsimp only
      by_cases hdef : e.source.isDefined = true
      · have hbody : p.body id = (lowerFunction id e.source).mapError .lowering := by
          unfold body
          rw [he]
          dsimp only
          rw [if_neg (by simp [hdef])]
        rw [if_neg (by simp [hdef]), hbody]
        cases hl : lowerFunction id e.source with
        | error err => exact ⟨rfl, Or.inl ⟨⟨_, rfl⟩, rfl⟩⟩
        | ok b => exact ⟨rfl, Or.inr ⟨b, rfl, (bounds_of_function he).1, rfl⟩⟩
      · have hbody : p.body id = .error (.noBody (p.name id)) := by
          unfold body
          rw [he]
          dsimp only
          rw [if_pos (by simpa using hdef)]
        rw [if_pos (by simpa using hdef)]
        exact ⟨rfl, Or.inl ⟨⟨_, hbody⟩, rfl⟩⟩

/-! ### 2. The same functions -/

/-- Two programs of the same functions, whatever bodies they keep. -/
structure SameSources (p q : Program) : Prop where
  sources : q.entries.map (·.source) = p.entries.map (·.source)
  suppressions : q.suppressions = p.suppressions

namespace SameSources

variable {p q : Program}

theorem size (h : p.SameSources q) : q.size = p.size := by
  have hsize := congrArg Array.size h.sources
  simpa [Program.size] using hsize

theorem source? (h : p.SameSources q) (id : Int) : q.source? id = p.source? id := by
  unfold Program.source? function?
  split
  · rw [← Array.getElem?_map, ← Array.getElem?_map, h.sources]
  · rfl

/-- The functions with one identifier: both programs have none, or both have one, with the same
    source. -/
theorem function?_cases (h : p.SameSources q) (id : Int) :
    (p.function? id = none ∧ q.function? id = none) ∨
      ∃ d e, p.function? id = some d ∧ q.function? id = some e ∧ e.source = d.source := by
  have hs := h.source? id
  unfold Program.source? at hs
  cases hp : p.function? id with
  | none =>
    rw [hp, Option.map_none, Option.map_eq_none_iff] at hs
    exact Or.inl ⟨rfl, hs⟩
  | some d =>
    rw [hp, Option.map_some, Option.map_eq_some_iff] at hs
    obtain ⟨e, he, hsource⟩ := hs
    exact Or.inr ⟨d, e, rfl, he, hsource⟩

theorem name (h : p.SameSources q) (id : Int) : q.name id = p.name id := by
  unfold Program.name
  rcases h.function?_cases id with ⟨hp, hq⟩ | ⟨d, e, hp, hq, hsource⟩
  · rw [hp, hq]
  · rw [hp, hq]
    dsimp only
    rw [hsource]

theorem hasBody (h : p.SameSources q) (id : Int) : q.hasBody id = p.hasBody id := by
  unfold Program.hasBody
  rcases h.function?_cases id with ⟨hp, hq⟩ | ⟨d, e, hp, hq, hsource⟩
  · rw [hp, hq]
  · rw [hp, hq]
    dsimp only
    rw [hsource]

theorem body (h : p.SameSources q) (id : Int) : q.body id = p.body id := by
  unfold Program.body
  rw [h.name id]
  rcases h.function?_cases id with ⟨hp, hq⟩ | ⟨d, e, hp, hq, hsource⟩
  · rw [hp, hq]
  · rw [hp, hq]
    dsimp only
    rw [hsource]

theorem lookup (h : p.SameSources q) (name : String) : q.lookup name = p.lookup name := by
  have hid : q.idOf? name = p.idOf? name := by
    have hmap : ∀ r : Program, r.entries.findIdx? (fun e => e.source.name = name) =
        (r.entries.map (·.source)).findIdx? fun f => f.name = name := by
      intro r
      rw [Array.findIdx?_map]
      rfl
    unfold idOf?
    rw [hmap, hmap, h.sources]
  unfold Program.lookup
  rw [hid]
  congr 1
  funext id
  exact h.hasBody id

theorem addTarget (h : p.SameSources q) (targets : List Int) (name : String) :
    DropFlow.addTarget q targets name = DropFlow.addTarget p targets name := by
  unfold DropFlow.addTarget
  rw [h.lookup]

theorem resolve (h : p.SameSources q) (config : Config) (callee : String)
    (candidates : List String) :
    DropFlow.resolve q config callee candidates = DropFlow.resolve p config callee candidates := by
  have hadd : DropFlow.addTarget q = DropFlow.addTarget p := by
    funext targets name
    exact h.addTarget targets name
  unfold DropFlow.resolve
  rw [hadd]

end SameSources

/-- Programs that answer every question alike: they have the same functions, and give the same
    bodies. -/
structure Alike (p q : Program) : Prop extends p.SameSources q where
  fetched : ∀ id, (q.fetch id).body = (p.fetch id).body

theorem Alike.refl (p : Program) : p.Alike p := ⟨⟨rfl, rfl⟩, fun _ => rfl⟩

theorem Alike.trans {p q r : Program} (h₁ : p.Alike q) (h₂ : q.Alike r) : p.Alike r :=
  ⟨⟨h₂.sources.trans h₁.sources, h₂.suppressions.trans h₁.suppressions⟩,
    fun id => (h₂.fetched id).trans (h₁.fetched id)⟩

theorem fetch_body (p : Program) (id : Int) :
    (p.fetch id).body = match p.kept? id with
      | some b => .ok b
      | none => p.body id := by
  rcases fetch_cases p id with ⟨b, hb, hbody, _⟩ | ⟨hnone, hbody, _⟩
  · rw [hb]
    exact hbody
  · rw [hnone]
    exact hbody

theorem sameSources_keep (p : Program) (id : Int) (b : Body) : p.SameSources
    { p with entries := p.entries.modify id.toNat fun e => { e with body := some b } } := by
  refine ⟨?_, rfl⟩
  apply Array.ext_getElem?
  intro i
  simp only [Array.getElem?_map, Array.getElem?_modify]
  split
  · rw [Option.map_map]
    rfl
  · rfl

/-- Asking for a body changes no answer. -/
theorem alike_fetch (p : Program) (id : Int) : p.Alike (p.fetch id).program := by
  rcases fetch_cases p id with ⟨_, _, _, hprogram⟩ |
    ⟨hnone, hbody, ⟨_, hprogram⟩ | ⟨b, hb, hid, hprogram⟩⟩
  · rw [hprogram]
    exact Alike.refl p
  · rw [hprogram]
    exact Alike.refl p
  · rw [hprogram]
    have hsame := sameSources_keep p id b
    refine ⟨hsame, fun j => ?_⟩
    rw [fetch_body, fetch_body p j, hsame.body j]
    unfold kept?
    rw [function?_modify p id j _ hid]
    by_cases hj : j = id
    · -- the body of this function is kept now, and was to be lowered before
      subst hj
      rw [if_pos rfl]
      unfold kept? at hnone
      obtain ⟨e, he, _⟩ := source_of_body_eq_ok hb
      rw [he, Option.bind_some] at hnone
      rw [he, Option.map_some, Option.bind_some, Option.bind_some, hnone, hb]
    · rw [if_neg hj]

/-- A later state of a program: some bodies have been asked for. -/
def Later : Program → Program → Prop :=
  Relation.ReflTransGen fun p q => ∃ id, q = (p.fetch id).program

namespace Later

variable {p q : Program}

theorem fetch (h : p.Later q) (id : Int) : p.Later (q.fetch id).program :=
  Relation.ReflTransGen.tail h ⟨id, rfl⟩

theorem alike (h : p.Later q) : p.Alike q := by
  induction h with
  | refl => exact Alike.refl p
  | tail _ hstep ih =>
    obtain ⟨id, rfl⟩ := hstep
    exact ih.trans (alike_fetch _ id)

end Later

/-! ### 3. Coherent programs -/

/-- The bodies that are kept are what the sources lower to. -/
def Coherent (p : Program) : Prop := ∀ id b, p.kept? id = some b → p.body id = .ok b

/-- A coherent program gives what the sources lower to. -/
theorem Coherent.fetch_body {p : Program} (h : p.Coherent) (id : Int) :
    (p.fetch id).body = p.body id := by
  rw [Program.fetch_body]
  split
  · rename_i b hb
    exact (h id b hb).symm
  · rfl

/-- Programs that arise by adding functions and suppressions and by asking for bodies. -/
inductive Built : Program → Prop
  | empty : Built {}
  | add {p q : Program} {f : Source.Function} {id : Int} : Built p → p.add f = .ok (q, id) →
      Built q
  | silence {p : Program} (lines : List Suppression) : Built p →
      Built { p with suppressions := lines }
  | fetch {p : Program} (id : Int) : Built p → Built (p.fetch id).program

theorem body_congr {p q : Program} {id : Int} (h : q.function? id = p.function? id) :
    q.body id = p.body id := by
  unfold body name
  rw [h]

theorem Coherent.kept?_eq_none {p : Program} (h : p.Coherent) {id : Int}
    (hbody : p.hasBody id = false) : p.kept? id = none := by
  cases hkept : p.kept? id with
  | none => rfl
  | some b =>
    obtain ⟨e, he, hdef, _⟩ := source_of_body_eq_ok (h id b hkept)
    unfold hasBody at hbody
    rw [he] at hbody
    dsimp only at hbody
    rw [hdef] at hbody
    exact nomatch hbody

theorem nonneg_of_idOf? {p : Program} {name : String} {id : Int} (h : p.idOf? name = some id) :
    0 ≤ id := by
  unfold idOf? at h
  obtain ⟨i, _, rfl⟩ := Option.map_eq_some_iff.mp h
  exact Int.natCast_nonneg i

theorem function?_define {p : Program} {id : Int} (hid : 0 ≤ id) (f : Source.Function) (j : Int) :
    Program.function? (p.define id f) j =
      if j = id then (p.function? j).map fun e => { e with source := f } else p.function? j :=
  function?_modify p id j _ hid

theorem Coherent.define {p : Program} (h : p.Coherent) {id : Int} (hid : 0 ≤ id)
    (hbody : p.hasBody id = false) (f : Source.Function) : (p.define id f).Coherent := by
  intro j b hb
  by_cases hj : j = id
  · -- no body is kept of a declaration
    subst hj
    have hnone := h.kept?_eq_none hbody
    unfold kept? at hb hnone
    rw [function?_define hid, if_pos rfl] at hb
    cases he : p.function? j with
    | none =>
      rw [he] at hb
      exact nomatch hb
    | some e =>
      rw [he] at hb hnone
      rw [Option.map_some, Option.bind_some] at hb
      rw [Option.bind_some] at hnone
      rw [hnone] at hb
      exact nomatch hb
  · have hsame : Program.function? (p.define id f) j = p.function? j := by
      rw [function?_define hid, if_neg hj]
    rw [body_congr hsame]
    refine h j b ?_
    unfold kept? at hb ⊢
    rw [← hsame]
    exact hb

theorem function?_push (p : Program) (f : Source.Function) (j : Int) :
    Program.function? { p with entries := p.entries.push { source := f } } j =
      if j = p.size then some { source := f } else p.function? j := by
  unfold function?
  by_cases hj : 0 ≤ j
  · simp only [if_pos hj, Array.getElem?_push]
    by_cases hs : j = p.size
    · subst hs
      simp [size]
    · have hne : j.toNat ≠ p.entries.size := by
        simp only [size] at hs
        omega
      simp [hs, hne]
  · have hne : j ≠ p.size := by omega
    simp [if_neg hj, hne]

theorem Coherent.push {p : Program} (h : p.Coherent) (f : Source.Function) :
    ({ p with entries := p.entries.push { source := f } } : Program).Coherent := by
  intro j b hb
  by_cases hj : j = p.size
  · unfold kept? at hb
    rw [function?_push, if_pos hj, Option.bind_some] at hb
    exact nomatch hb
  · have hsame := (function?_push p f j).trans (if_neg hj)
    rw [body_congr hsame]
    refine h j b ?_
    unfold kept? at hb ⊢
    rw [← hsame]
    exact hb

/-- What adding a function does: it finds the function declared or defined and changes nothing,
    or it defines a declaration, or it takes the next identifier. -/
theorem add_cases {p q : Program} {f : Source.Function} {id : Int}
    (h : p.add f = .ok (q, id)) : f.name ≠ "" ∧
      ((p.idOf? f.name = some id ∧ f.isDefined = false ∧ q = p) ∨
        (p.idOf? f.name = some id ∧ f.isDefined = true ∧ p.hasBody id = false ∧
          q = p.define id f) ∨
        (p.idOf? f.name = none ∧ id = p.size ∧
          q = { p with entries := p.entries.push { source := f } })) := by
  unfold Program.add at h
  split at h
  · exact nomatch h
  · rename_i hname
    refine ⟨hname, ?_⟩
    split at h
    · rename_i j hj
      split at h
      · rename_i hdef
        cases h
        exact .inl ⟨hj, by simpa using hdef, rfl⟩
      · rename_i hdef
        split at h
        · exact nomatch h
        · rename_i hbody
          cases h
          exact .inr (.inl ⟨hj, by simpa using hdef, by simpa using hbody, rfl⟩)
    · rename_i hj
      cases h
      exact .inr (.inr ⟨hj, rfl, rfl⟩)

theorem Coherent.add {p q : Program} (h : p.Coherent) {f : Source.Function} {id : Int}
    (hadd : p.add f = .ok (q, id)) : q.Coherent := by
  obtain ⟨_, ⟨_, _, rfl⟩ | ⟨hid, _, hbody, rfl⟩ | ⟨_, _, rfl⟩⟩ := add_cases hadd
  · exact h
  · exact h.define (nonneg_of_idOf? hid) hbody f
  · exact h.push f

theorem Coherent.fetch {p : Program} (h : p.Coherent) (id : Int) :
    (p.fetch id).program.Coherent := by
  have halike := alike_fetch p id
  intro j b hb
  have hfetched : ((p.fetch id).program.fetch j).body = .ok b := by
    rw [Program.fetch_body, hb]
  rw [halike.body j, ← h.fetch_body j, ← halike.fetched j]
  exact hfetched

theorem Later.coherent {p q : Program} (h : p.Later q) (hp : p.Coherent) : q.Coherent := by
  induction h with
  | refl => exact hp
  | tail _ hstep ih =>
    obtain ⟨id, rfl⟩ := hstep
    exact ih.fetch id

/-- **Every program that can be built is coherent.** -/
theorem Built.coherent {p : Program} (h : p.Built) : p.Coherent := by
  induction h with
  | empty =>
    intro id b hb
    unfold kept? function? at hb
    split at hb
    · simp at hb
    · simp at hb
  | add _ hadd ih => exact ih.add hadd
  | silence _ _ ih =>
    intro id b hb
    exact ih id b hb
  | fetch id _ ih => exact ih.fetch id

theorem Built.push {p : Program} (hp : p.Built) {f : Source.Function} (hname : f.name ≠ "")
    (hnew : p.idOf? f.name = none) :
    Built { p with entries := p.entries.push { source := f } } := by
  have hadd : p.add f =
      .ok ({ p with entries := p.entries.push { source := f } }, (p.size : Int)) := by
    unfold Program.add
    rw [if_neg hname, hnew]
  exact hp.add hadd

/-- Functions that have distinct names make a program, one entry each. -/
theorem built_of_names (fs : List Source.Function) (hnamed : ∀ f ∈ fs, f.name ≠ "")
    (hdistinct : (fs.map (·.name)).Nodup) :
    Built { entries := (fs.map fun f => { source := f }).toArray } := by
  induction fs using List.reverseRecOn with
  | nil => exact .empty
  | append_singleton fs f ih =>
    rw [List.map_append, List.nodup_append] at hdistinct
    have hp := ih (fun g hg => hnamed g (List.mem_append_left _ hg)) hdistinct.1
    have hnew : ∀ g ∈ fs, g.name ≠ f.name := fun g hg =>
      hdistinct.2.2 _ (List.mem_map_of_mem hg) _ (List.mem_singleton_self _)
    have hpush := hp.push (hnamed f (by simp)) (by simpa [idOf?] using hnew)
    simpa using hpush

/-- The ways in which a program changes. -/
inductive Change (p : Program) : Program → Prop
  | add {q : Program} {f : Source.Function} {id : Int} (h : p.add f = .ok (q, id)) : Change p q
  | silence (lines : List Suppression) : Change p { p with suppressions := lines }
  | fetch (id : Int) : Change p (p.fetch id).program

/-- A program changes into another, step by step. -/
def Becomes : Program → Program → Prop := Relation.ReflTransGen Change

theorem Built.becomes {p q : Program} (hp : p.Built) (h : p.Becomes q) : q.Built := by
  induction h with
  | refl => exact hp
  | tail _ hchange ih =>
    cases hchange with
    | add hadd => exact .add ih hadd
    | silence lines => exact .silence lines ih
    | fetch id => exact .fetch id ih

end Program

/-! ### 4. The blocks of a body -/

/-- What a body keeps of its source. -/
theorem blocks_of_lowerFunction {id : Int} {f : Source.Function} {b : Body}
    (h : lowerFunction id f = .ok b) :
    b.blocks.map (·.id) = f.blocks.map (·.id) ∧ (b.blocks.map (·.id)).Nodup := by
  obtain ⟨hwell, rfl⟩ := (accepts_lowerFunction id f b).mp h
  have hids := map_id_lowered f.slots f.blocks
  exact ⟨hids, hids ▸ hwell.blocks⟩

/-- A body has the blocks that its blocks lead to. -/
theorem successors_of_lowerFunction {id : Int} {f : Source.Function} {b : Body}
    (h : lowerFunction id f = .ok b) {c : Block} (hc : c ∈ b.blocks) :
    c.successors ⊆ b.blocks.map (·.id) := by
  obtain ⟨hwell, rfl⟩ := (accepts_lowerFunction id f b).mp h
  obtain ⟨block, hblock, rfl⟩ := List.mem_map.mp hc
  intro s hs
  exact map_id_lowered f.slots f.blocks ▸ hwell.successors block hblock s hs

theorem Body.block?_eq_some_iff {f : Body} (h : (f.blocks.map (·.id)).Nodup) {b : Block}
    {id : Int} : f.block? id = some b ↔ b ∈ f.blocks ∧ b.id = id := by
  unfold Body.block?
  constructor
  · intro hfind
    exact ⟨List.mem_of_find?_eq_some hfind, by simpa using List.find?_some hfind⟩
  · rintro ⟨hm, rfl⟩
    generalize f.blocks = blocks at h hm
    induction blocks with
    | nil => exact nomatch hm
    | cons c rest ih =>
      rw [List.map_cons, List.nodup_cons] at h
      rw [List.find?_cons]
      rcases List.mem_cons.mp hm with rfl | hm
      · simp
      · have hne : c.id ≠ b.id := by
          intro heq
          exact h.1 (List.mem_map.mpr ⟨b, hm, heq.symm⟩)
        simp only [hne, decide_false]
        exact ih h.2 hm

end DropFlow
