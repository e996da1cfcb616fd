/-
  DropFlow/Proofs/Program/Loading.lean
  ====================================
  Programs that have been loaded.

  Loading adds the functions of the files one by one, and then lowers all that are
  defined.  Afterwards the body of every defined function is kept, so that asking for a
  body changes nothing any more (`Settled`).
-/
import DropFlow.Proofs.Program.Store

namespace DropFlow

namespace Program

/-! ### 1. Building -/

theorem becomes_addFunctions (fs : List Source.Function) :
    ∀ p : Program, p.Becomes (p.addFunctions fs).1 := by
  induction fs with
  | nil =>
    intro p
    exact Relation.ReflTransGen.refl
  | cons f rest ih =>
    intro p
    rw [Program.addFunctions]
    split
    · exact Relation.ReflTransGen.refl
    · rename_i q id hadd
      exact Relation.ReflTransGen.head (.add hadd) (ih q)

theorem becomes_addFile (p : Program) (f : Source.File) : p.Becomes (p.addFile f).1 := by
  have hadded := becomes_addFunctions f.functions p
  unfold Program.addFile
  split
  · rename_i hadd
    rw [hadd] at hadded
    exact hadded
  · rename_i hadd
    rw [hadd] at hadded
    exact hadded.tail (.silence _)

theorem Built.loadInto {yaml : Yaml.Library} {files : Files} {paths : List String} :
    ∀ {p q : Program}, p.Built → (loadInto yaml files p paths).1 = .ok q → q.Built := by
  induction paths with
  | nil =>
    intro p q hp h
    cases h
    exact hp
  | cons path rest ih =>
    intro p q hp h
    rw [Program.loadInto] at h
    split at h
    · exact nomatch h
    · split at h
      · exact nomatch h
      · split at h
        · exact nomatch h
        · rename_i f _ _ q hadd
          have hbecomes := becomes_addFile p f
          rw [hadd] at hbecomes
          exact ih (hp.becomes hbecomes) h

theorem built_of_load {files : Files} {paths : List String} {yaml : Yaml.Library} {p : Program}
    (h : (load files paths yaml).1 = .ok p) : p.Built := by
  unfold load at h
  split at h
  · exact nomatch h
  · exact Built.empty.loadInto h

theorem Built.later {p q : Program} (hp : p.Built) (h : p.Later q) : q.Built := by
  induction h with
  | refl => exact hp
  | tail _ hstep ih =>
    obtain ⟨id, rfl⟩ := hstep
    exact .fetch id ih

/-! ### 2. Settled programs -/

/-- Asking for a body changes nothing any more. -/
def Settled (p : Program) : Prop := ∀ id, (p.fetch id).program = p

theorem Settled.eq_of_later {p q : Program} (hp : p.Settled) (h : p.Later q) : q = p := by
  induction h with
  | refl => rfl
  | tail _ hstep ih =>
    obtain ⟨id, rfl⟩ := hstep
    rw [ih]
    exact hp id

theorem kept?_fetch {p : Program} {id : Int} {b : Body} (h : p.kept? id = some b) (j : Int) :
    (p.fetch j).program.kept? id = some b := by
  rcases fetch_cases p j with ⟨_, _, _, hprogram⟩ |
    ⟨hnone, _, ⟨_, hprogram⟩ | ⟨b', hb', hj, hprogram⟩⟩
  · rw [hprogram]
    exact h
  · rw [hprogram]
    exact h
  · have hne : id ≠ j := by
      rintro rfl
      rw [hnone] at h
      exact nomatch h
    unfold kept? at h ⊢
    rw [hprogram, function?_modify p j id _ hj, if_neg hne]
    exact h

theorem kept?_fetch_self {p : Program} {id : Int} {b : Body} (h : (p.fetch id).body = .ok b) :
    (p.fetch id).program.kept? id = some b := by
  rcases fetch_cases p id with ⟨b', hkept, hbody, hprogram⟩ |
    ⟨_, hbody, ⟨⟨e, he⟩, _⟩ | ⟨b', hb', hid, hprogram⟩⟩
  · rw [hbody] at h
    cases h
    rw [hprogram]
    exact hkept
  · rw [hbody, he] at h
    exact nomatch h
  · rw [hbody, hb'] at h
    cases h
    obtain ⟨e, he, _⟩ := source_of_body_eq_ok hb'
    unfold kept?
    rw [hprogram, function?_modify p id id _ hid, if_pos rfl, he, Option.map_some, Option.bind_some]

/-- Lowering functions leads to a later state that keeps their bodies. -/
theorem fetchAll_spec {ids : List Int} : ∀ {p q : Program} {notices : List Notice},
    p.fetchAll ids = (q, notices, none) → p.Later q ∧
      (∀ id b, p.kept? id = some b → q.kept? id = some b) ∧
      ∀ id ∈ ids, ∃ b, q.kept? id = some b := by
  induction ids with
  | nil =>
    intro p q notices h
    cases h
    exact ⟨Relation.ReflTransGen.refl, fun _ _ hb => hb, fun id hid => nomatch hid⟩
  | cons id rest ih =>
    intro p q notices h
    rw [fetchAll] at h
    dsimp only at h
    split at h
    · exact nomatch h
    · rename_i b hb
      rcases hrest : (p.fetch id).program.fetchAll rest with ⟨q', notices', failure⟩
      rw [hrest] at h
      cases h
      obtain ⟨hlater, hkeeps, hall⟩ := ih hrest
      refine ⟨Relation.ReflTransGen.head ⟨id, rfl⟩ hlater, ?_, ?_⟩
      · intro j b' hb'
        exact hkeeps j b' (kept?_fetch hb' id)
      · intro j hj
        rcases List.mem_cons.mp hj with rfl | hj
        · exact ⟨b, hkeeps j b (kept?_fetch_self hb)⟩
        · exact hall j hj

theorem mem_defined {p : Program} {id : Int} : id ∈ p.defined ↔ p.hasBody id = true := by
  unfold defined
  rw [List.mem_filter, List.mem_map]
  constructor
  · exact fun h => h.2
  · intro h
    refine ⟨?_, h⟩
    unfold hasBody at h
    split at h
    · rename_i e he
      obtain ⟨hlo, hhi⟩ := bounds_of_function he
      exact ⟨id.toNat, List.mem_range.mpr (by omega), Int.toNat_of_nonneg hlo⟩
    · exact nomatch h

/-- A program that keeps the body of every defined function is settled. -/
theorem settled_of_kept {p : Program} (h : ∀ id, p.hasBody id = true → ∃ b, p.kept? id = some b) :
    p.Settled := by
  intro id
  rcases fetch_cases p id with ⟨_, _, _, hprogram⟩ | ⟨hnone, _, ⟨_, hprogram⟩ | ⟨b, hb, _, _⟩⟩
  · exact hprogram
  · exact hprogram
  · -- a body can only be lowered of a function that is defined
    obtain ⟨e, he, hdef, _⟩ := source_of_body_eq_ok hb
    have hbody : p.hasBody id = true := by
      unfold hasBody
      rw [he]
      exact hdef
    obtain ⟨b', hb'⟩ := h id hbody
    rw [hnone] at hb'
    exact nomatch hb'

theorem later_staticCallsFrom (config : Config) (ids : List Int) :
    ∀ (g : CallGraph) (p : Program), p.Later (staticCallsFrom config g p ids).2.1 := by
  induction ids with
  | nil => exact fun _ _ => Relation.ReflTransGen.refl
  | cons id rest ih =>
    intro g p
    rw [staticCallsFrom]
    dsimp only
    split
    · exact Relation.ReflTransGen.refl.tail ⟨id, rfl⟩
    · exact Relation.ReflTransGen.head ⟨id, rfl⟩ (ih _ _)

end Program

/-- What preparing a program leads to: a later state of it, which asking for a body changes no more,
    and the calls of this state. -/
structure Loaded.Prepared (p : Program) (config : Config) (l : Loaded) : Prop where
  later : p.Later l.program
  settled : l.program.Settled
  calls : (staticCallGraph l.program config).1 = .ok l.calls

theorem Loaded.prepared_of_prepare {p : Program} {config : Config} {paths : List String}
    {l : Loaded} (h : (p.prepare config paths).1 = .ok l) : Prepared p config l := by
  unfold Program.prepare at h
  split at h
  · exact nomatch h
  · split at h
    · exact nomatch h
    · rename_i q _ hlower
      obtain ⟨hlater, _, hkept⟩ := Program.fetchAll_spec hlower
      have hsettled : q.Settled := by
        refine Program.settled_of_kept fun id hid => hkept id ?_
        rw [Program.mem_defined, ← hlater.alike.hasBody id]
        exact hid
      split at h
      · exact nomatch h
      · rename_i calls q' more hcalls
        cases h
        have hlater' : q.Later q' := by
          have hstatic := Program.later_staticCallsFrom config q.defined {} q
          unfold staticCallGraph at hcalls
          rw [hcalls] at hstatic
          exact hstatic
        rw [hsettled.eq_of_later hlater']
        exact ⟨hlater, hsettled, congrArg Prod.fst hcalls⟩

/-- **A loaded program** has been built, and asking it for a body changes nothing any more. -/
theorem Loaded.settled_of_load {files : Files} {config : Config} {paths : List String}
    {yaml : Yaml.Library} {l : Loaded} (h : (Loaded.load files config paths yaml).1 = .ok l) :
    l.program.Built ∧ l.program.Settled := by
  unfold Loaded.load at h
  split at h
  · exact nomatch h
  · rename_i p notices hload
    have hbuilt : p.Built := Program.built_of_load (congrArg Prod.fst hload)
    have hprepared := prepared_of_prepare h
    exact ⟨hbuilt.later hprepared.later, hprepared.settled⟩

end DropFlow
