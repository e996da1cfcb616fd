/-
  DropFlow/Proofs/Digraph/Circuit.lean
  ====================================
  The search with blocking lists every cycle through one node once.

  A blocked node that is not on the path waits for each of its successors, and these are
  blocked too and not the start (`CycleSearch.Valid`): a way from it to the start has to
  come through the path, so that passing over it loses nothing.  Releasing a node releases
  all that waits for it, which keeps this (`Releasing`).  It never reaches a node that was
  blocked before the present part of the search began: such a node waits only for nodes
  that were blocked then, too (`Keeps`).  In particular the path stays blocked.

  No search meets its bound: it has a result, and would have none otherwise.
-/
import DropFlow.Digraph.Cycle
import DropFlow.Proofs.Digraph.Strong

namespace DropFlow.Digraph

namespace CycleSearch

/-! ### 1. Releasing -/

/-- What holds while a node is released, `todo` being the nodes that are still to be woken. -/
structure Releasing (u : Int) (todo : List Int) (s t : CycleSearch) : Prop where
  found : t.found = s.found
  blocked : t.blocked.Sublist (s.blocked.filter (· != u))
  waiting : t.waiting ⊆ s.waiting
  /-- What is still blocked still waits. -/
  waits : ∀ w x, (w, x) ∈ s.waiting → x ∈ t.blocked → (w, x) ∈ t.waiting ∨ w = u ∧ x ∈ todo
  /-- Nothing waits for a node that has been released. -/
  awaited : ∀ w x, (w, x) ∈ t.waiting → w ≠ u ∧ (w ∈ s.blocked → w ∈ t.blocked)
  /-- Nodes that wait only for each other, and not for the node, stay. -/
  spares : ∀ Z : Int → Prop, (∀ w x, (w, x) ∈ s.waiting → Z x → Z w) → ¬Z u →
    ∀ x ∈ s.blocked, Z x → x ∈ t.blocked

namespace Releasing

variable {u w : Int} {todo : List Int} {s t t' : CycleSearch}

theorem mem_of_mem (h : Releasing u todo s t) {x : Int} (hx : x ∈ t.blocked) :
    x ∈ s.blocked ∧ x ≠ u := by
  have hmem := h.blocked.subset hx
  simpa using hmem

theorem length_lt (h : Releasing u todo s t) (hu : u ∈ s.blocked) :
    t.blocked.length < s.blocked.length := by
  refine Nat.lt_of_le_of_lt h.blocked.length_le ?_
  rw [List.length_filter_lt_length_iff_exists]
  exact ⟨u, hu, by simp⟩

theorem start (u : Int) (s : CycleSearch) : Releasing u (s.waitersOf u) s (s.clear u) where
  found := rfl
  blocked := List.Sublist.refl _
  waiting := List.filter_sublist.subset
  waits := by
    intro w x hmem _
    by_cases hw : w = u
    · refine .inr ⟨hw, List.mem_map.mpr ⟨(w, x), ?_, rfl⟩⟩
      rw [List.mem_filter]
      exact ⟨hmem, beq_iff_eq.mpr hw⟩
    · exact .inl (by simp [clear, hmem, hw])
  awaited := by
    intro w x hmem
    have hw : w ≠ u := by
      simp only [clear, List.mem_filter, bne_iff_ne] at hmem
      exact hmem.2
    exact ⟨hw, fun hblocked => by simp [clear, hblocked, hw]⟩
  spares := by
    intro Z _ hu x hx hZ
    have hne : x ≠ u := by
      rintro rfl
      exact hu hZ
    simp [clear, hx, hne]

theorem skip (h : Releasing u (w :: todo) s t) (hw : w ∉ t.blocked) : Releasing u todo s t :=
  { h with
    waits := by
      intro y x hmem hx
      rcases h.waits y x hmem hx with hstill | ⟨hy, hlate⟩
      · exact .inl hstill
      · rcases List.mem_cons.mp hlate with rfl | hlate
        · exact absurd hx hw
        · exact .inr ⟨hy, hlate⟩ }

theorem wake (h : Releasing u (w :: todo) s t) (hw : (u, w) ∈ s.waiting)
    (hnext : Releasing w [] t t') : Releasing u todo s t' where
  found := hnext.found.trans h.found
  blocked := (hnext.blocked.trans List.filter_sublist).trans h.blocked
  waiting := fun _ hmem => h.waiting (hnext.waiting hmem)
  waits := by
    intro y x hmem hx
    obtain ⟨hxt, hxw⟩ := hnext.mem_of_mem hx
    rcases h.waits y x hmem hxt with hstill | ⟨hy, hlate⟩
    · have hkept := hnext.waits y x hstill hx
      simp only [List.not_mem_nil, and_false, or_false] at hkept
      exact .inl hkept
    · exact .inr ⟨hy, (List.mem_cons.mp hlate).resolve_left hxw⟩
  awaited := by
    intro y x hmem
    obtain ⟨hyu, hkept⟩ := h.awaited y x (hnext.waiting hmem)
    exact ⟨hyu, fun hy => (hnext.awaited y x hmem).2 (hkept hy)⟩
  spares := by
    intro Z hZ hu x hx hZx
    have hZ' : ∀ y x, (y, x) ∈ t.waiting → Z x → Z y := fun y x hmem => hZ y x (h.waiting hmem)
    -- the node waits for the released one, so that it is not among those that stay
    exact hnext.spares Z hZ' (fun hZw => hu (hZ u w hw hZw)) x (h.spares Z hZ hu x hx hZx) hZx

end Releasing

theorem mem_waitersOf {s : CycleSearch} {u w : Int} : w ∈ s.waitersOf u ↔ (u, w) ∈ s.waiting := by
  simp [waitersOf]

/-- **Releasing a node** ends, if the bound is at least the number of blocked nodes. -/
theorem release?_spec (fuel : Nat) : ∀ {u : Int} {s : CycleSearch}, u ∈ s.blocked →
    s.blocked.length ≤ fuel → ∃ t, release? fuel u s = some t ∧ Releasing u [] s t := by
  induction fuel with
  | zero =>
    intro u s hu hfuel
    rw [List.eq_nil_of_length_eq_zero (Nat.le_zero.mp hfuel)] at hu
    exact nomatch hu
  | succ fuel ih =>
    intro u s hu hfuel
    have hfold : ∃ t, (s.waitersOf u).foldlM (wake? (release? fuel)) (s.clear u) = some t ∧
        ∃ todo, s.waitersOf u = s.waitersOf u ++ todo ∧ Releasing u todo s t := by
      refine exists_foldlM (fun seen t => ∃ todo, s.waitersOf u = seen ++ todo ∧
        Releasing u todo s t) ?_ ⟨_, rfl, Releasing.start u s⟩
      rintro seen w rest t hsplit ⟨todo, htodo, hreleasing⟩
      obtain rfl : todo = w :: rest := List.append_cancel_left (htodo.symm.trans hsplit)
      simp only [wake?, List.contains_iff_mem]
      split
      · rename_i hw
        have hlt := hreleasing.length_lt hu
        obtain ⟨t', ht', hnext⟩ := ih hw (by omega)
        have hwaits : (u, w) ∈ s.waiting := mem_waitersOf.mp (by simp [hsplit])
        exact ⟨t', ht', rest, by simp [hsplit], hreleasing.wake hwaits hnext⟩
      · rename_i hw
        exact ⟨t, rfl, rest, by simp [hsplit], hreleasing.skip hw⟩
    obtain ⟨t, ht, todo, htodo, hreleasing⟩ := hfold
    obtain rfl : todo = [] := by simpa using htodo
    exact ⟨t, by rw [release?, ht], hreleasing⟩

end CycleSearch

/-! ### 2. Cycles through a node -/

section Trails

variable {successors : Int → List Int} {start : Int}

/-- A way from the start along arcs, on which no node comes twice. -/
structure Trail (successors : Int → List Int) (start : Int) (p : List Int) : Prop where
  begins : [start] <+: p
  distinct : p.Nodup
  linked : p.IsChain fun x y => y ∈ successors x

/-- A cycle through the start: a trail that an arc closes. -/
structure Circuit (successors : Int → List Int) (start : Int) (c : List Int) : Prop where
  closes : ∃ p, c = p ++ [start] ∧ Trail successors start p
  linked : c.IsChain fun x y => y ∈ successors x

theorem Trail.start_mem {p : List Int} (h : Trail successors start p) : start ∈ p :=
  h.begins.subset List.mem_cons_self

theorem Trail.singleton (successors : Int → List Int) (start : Int) :
    Trail successors start [start] where
  begins := List.prefix_refl _
  distinct := List.nodup_singleton _
  linked := List.isChain_singleton _

theorem Trail.concat {path : List Int} {v w : Int} (h : Trail successors start (path ++ [v]))
    (harc : w ∈ successors v) (hnew : w ∉ path ++ [v]) :
    Trail successors start (path ++ [v] ++ [w]) where
  begins := h.begins.trans (List.prefix_append _ _)
  distinct := by
    rw [List.nodup_append]
    refine ⟨h.distinct, List.nodup_singleton _, ?_⟩
    intro x hx y hy hxy
    rw [List.mem_singleton] at hy
    exact hnew (hy ▸ hxy ▸ hx)
  linked := by
    rw [List.isChain_append]
    exact ⟨h.linked, List.isChain_singleton _, by simpa using harc⟩

theorem Trail.circuit {path : List Int} {v : Int} (h : Trail successors start (path ++ [v]))
    (harc : start ∈ successors v) : Circuit successors start (path ++ [v] ++ [start]) where
  closes := ⟨path ++ [v], rfl, h⟩
  linked := by
    rw [List.isChain_append]
    exact ⟨h.linked, List.isChain_singleton _, by simpa using harc⟩

/-- A cycle that begins with a trail goes on by an arc. -/
theorem Circuit.exists_next {path c : List Int} {v : Int} (h : Circuit successors start c)
    (htrail : Trail successors start (path ++ [v])) (hbegins : path ++ [v] <+: c) :
    ∃ w ∈ successors v, path ++ [v] ++ [w] <+: c := by
  obtain ⟨p, rfl, hp⟩ := h.closes
  obtain ⟨rest, hrest⟩ := hbegins
  cases rest with
  | nil =>
    -- the start would come twice on the trail
    have hdistinct := htrail.distinct
    rw [List.append_nil] at hrest
    rw [hrest, List.nodup_append] at hdistinct
    exact absurd rfl (hdistinct.2.2 start hp.start_mem start List.mem_cons_self)
  | cons w rest =>
    have hlinked := h.linked
    rw [← hrest, List.isChain_append] at hlinked
    refine ⟨w, hlinked.2.2 v (by simp) w (by simp), rest, ?_⟩
    rw [← hrest, List.append_assoc, List.singleton_append]

/-- A cycle ends where it comes back to the start. -/
theorem Circuit.eq_of_returns {path c : List Int} (h : Circuit successors start c)
    (htrail : Trail successors start path) (hbegins : path ++ [start] <+: c) :
    c = path ++ [start] := by
  obtain ⟨p, rfl, hp⟩ := h.closes
  obtain ⟨rest, hrest⟩ := hbegins
  rcases List.eq_nil_or_concat rest with rfl | ⟨rest, last, rfl⟩
  · rw [List.append_nil] at hrest
    exact hrest.symm
  · rw [List.concat_eq_append, ← List.append_assoc] at hrest
    obtain ⟨hsame, _⟩ := List.append_inj' hrest rfl
    have hdistinct := hp.distinct
    rw [← hsame, List.append_assoc, List.nodup_append] at hdistinct
    exact absurd rfl (hdistinct.2.2 start htrail.start_mem start (by simp))

end Trails

namespace CycleSearch

/-! ### 3. The states of a search -/

/-- What holds between the steps of a search: `nodes` are the nodes that may be blocked, and
    `path` are those that are being extended. -/
structure Valid (successors : Int → List Int) (start : Int) (nodes path : List Int)
    (s : CycleSearch) : Prop where
  distinct : s.blocked.Nodup
  within : ∀ x ∈ s.blocked, x ∈ nodes
  onPath : ∀ x ∈ path, x ∈ s.blocked
  parked : ∀ x ∈ s.blocked, x ∉ path → ∀ w ∈ successors x,
    w ≠ start ∧ w ∈ s.blocked ∧ (w, x) ∈ s.waiting
  awaited : ∀ w x, (w, x) ∈ s.waiting → w ∈ s.blocked

/-- A later state of the same search: what was blocked stays, and waits for nothing new. -/
structure Keeps (s t : CycleSearch) : Prop where
  blocked : ∀ x ∈ s.blocked, x ∈ t.blocked
  waiting : ∀ w x, (w, x) ∈ t.waiting → x ∈ s.blocked → (w, x) ∈ s.waiting

theorem Keeps.refl (s : CycleSearch) : s.Keeps s := ⟨fun _ h => h, fun _ _ h _ => h⟩

theorem Keeps.trans {s t u : CycleSearch} (h : s.Keeps t) (h' : t.Keeps u) : s.Keeps u where
  blocked := fun x hx => h'.blocked x (h.blocked x hx)
  waiting := fun w x hmem hx => h.waiting w x (h'.waiting w x hmem (h.blocked x hx)) hx

variable {successors : Int → List Int} {start v w : Int} {nodes path : List Int}
  {s t : CycleSearch}

theorem valid_empty : Valid successors start nodes [] {} where
  distinct := List.nodup_nil
  within := by simp
  onPath := by simp
  parked := by simp
  awaited := by simp

theorem Valid.block (h : Valid successors start nodes path s) (hv : v ∈ nodes)
    (hfree : v ∉ s.blocked) : Valid successors start nodes (path ++ [v]) (s.block v) where
  distinct := List.nodup_cons.mpr ⟨hfree, h.distinct⟩
  within := List.forall_mem_cons.mpr ⟨hv, h.within⟩
  onPath := by
    intro x hx
    rcases List.mem_append.mp hx with hx | hx
    · exact List.mem_cons_of_mem _ (h.onPath x hx)
    · rw [List.mem_singleton.mp hx]
      exact List.mem_cons_self
  parked := by
    intro x hx hout w hw
    simp only [List.mem_append, List.mem_singleton, not_or] at hout
    have hx' : x ∈ s.blocked := (List.mem_cons.mp hx).resolve_left hout.2
    obtain ⟨hne, hblocked, hwaits⟩ := h.parked x hx' hout.1 w hw
    exact ⟨hne, List.mem_cons_of_mem _ hblocked, hwaits⟩
  awaited := fun w x hmem => List.mem_cons_of_mem _ (h.awaited w x hmem)

theorem keeps_block (s : CycleSearch) (v : Int) : s.Keeps (s.block v) :=
  ⟨fun _ hx => List.mem_cons_of_mem _ hx, fun _ _ hmem _ => hmem⟩

/-- From a blocked node that is not on the path, no way around the path leads to the start. -/
theorem Valid.not_isChain (h : Valid successors start nodes path s) (rest : List Int) :
    ∀ {w : Int}, w ∈ s.blocked → (∀ x ∈ w :: rest, x ∉ path) →
      ¬(w :: rest ++ [start]).IsChain fun x y => y ∈ successors x := by
  induction rest with
  | nil =>
    intro w hw hout hlinked
    have harc : start ∈ successors w := by simpa using hlinked
    exact (h.parked w hw (hout w List.mem_cons_self) start harc).1 rfl
  | cons y rest ih =>
    intro w hw hout hlinked
    rw [List.cons_append, List.cons_append, List.isChain_cons_cons] at hlinked
    obtain ⟨-, hy, -⟩ := h.parked w hw (hout w List.mem_cons_self) y hlinked.1
    exact ih hy (fun x hx => hout x (List.mem_cons_of_mem _ hx)) hlinked.2

/-- A cycle does not go on to a blocked node. -/
theorem Valid.not_circuit (h : Valid successors start nodes path s) (hw : w ∈ s.blocked)
    (hne : w ≠ start) {c : List Int} (hbegins : path ++ [w] <+: c) :
    ¬Circuit successors start c := by
  intro hcircuit
  obtain ⟨p, rfl, hp⟩ := hcircuit.closes
  obtain ⟨rest, hrest⟩ := hbegins
  rcases List.eq_nil_or_concat rest with rfl | ⟨rest, last, rfl⟩
  · rw [List.append_nil] at hrest
    obtain ⟨_, hlast⟩ := List.append_inj' hrest rfl
    exact hne (List.cons.inj hlast).1
  · rw [List.concat_eq_append, ← List.append_assoc] at hrest
    obtain ⟨hsame, hlast⟩ := List.append_inj' hrest rfl
    have hdistinct := hp.distinct
    have hlinked := hcircuit.linked
    rw [← hsame, List.append_assoc, List.nodup_append] at hdistinct
    rw [← hsame, List.append_assoc, List.append_assoc, List.isChain_append] at hlinked
    refine h.not_isChain rest hw (fun x hx hpath => ?_) hlinked.2.1
    exact hdistinct.2.2 x hpath x hx rfl

/-! ### 4. The cycles that a step lists -/

/-- A step lists the cycles of a class, each once, and tells whether there is one. -/
def Lists (P : List Int → Prop) (s : CycleSearch) (r : Bool × CycleSearch) : Prop :=
  ∃ new, r.2.found = s.found ++ new ∧ new.Nodup ∧ (∀ c, c ∈ new ↔ P c) ∧ (r.1 = true ↔ new ≠ [])

theorem Lists.congr {P Q : List Int → Prop} {r : Bool × CycleSearch} (h : Lists P s r)
    (hPQ : ∀ c, P c ↔ Q c) : Lists Q s r := by
  obtain ⟨new, hfound, hnodup, hmem, hflag⟩ := h
  exact ⟨new, hfound, hnodup, fun c => (hmem c).trans (hPQ c), hflag⟩

theorem Lists.append {P Q : List Int → Prop} {r r' : Bool × CycleSearch} (h : Lists P s r)
    (h' : Lists Q r.2 r') (hapart : ∀ c, P c → ¬Q c) :
    Lists (fun c => P c ∨ Q c) s (r.1 || r'.1, r'.2) := by
  obtain ⟨new, hfound, hnodup, hmem, hflag⟩ := h
  obtain ⟨new', hfound', hnodup', hmem', hflag'⟩ := h'
  refine ⟨new ++ new', ?_, ?_, ?_, ?_⟩
  · rw [hfound', hfound, List.append_assoc]
  · rw [List.nodup_append]
    refine ⟨hnodup, hnodup', ?_⟩
    rintro c hc d hd rfl
    exact hapart c ((hmem c).mp hc) ((hmem' c).mp hd)
  · intro c
    rw [List.mem_append, hmem, hmem']
  · rw [Bool.or_eq_true, hflag, hflag']
    simp only [ne_eq, List.append_eq_nil_iff, not_and_or]

/-- What the extension of a path by a node leads to. -/
structure Searched (successors : Int → List Int) (start : Int) (nodes path : List Int) (v : Int)
    (s : CycleSearch) (r : Bool × CycleSearch) : Prop where
  valid : Valid successors start nodes path r.2
  keeps : s.Keeps r.2
  lists : Lists (fun c => Circuit successors start c ∧ path ++ [v] <+: c) s r
  blocked : r.1 = false → v ∈ r.2.blocked

/-- What holds while the successors of a node are looked at, `seen` being those that have been. -/
structure Scanned (successors : Int → List Int) (start : Int) (nodes path : List Int) (v : Int)
    (s : CycleSearch) (seen : List Int) (r : Bool × CycleSearch) : Prop where
  valid : Valid successors start nodes (path ++ [v]) r.2
  keeps : (s.block v).Keeps r.2
  lists : Lists (fun c => Circuit successors start c ∧ ∃ w ∈ seen, path ++ [v] ++ [w] <+: c) s r
  blocked : r.1 = false → ∀ w ∈ seen, w ≠ start ∧ w ∈ r.2.blocked

section Steps

variable {seen : List Int} {r : Bool × CycleSearch}

theorem searched_attempt (hs : Valid successors start nodes (path ++ [v]) s)
    (htrail : Trail successors start (path ++ [v])) (harc : w ∈ successors v)
    {next? : Int → CycleSearch → Option (Bool × CycleSearch)}
    (hnext : w ∉ s.blocked →
      ∃ r, next? w s = some r ∧ Searched successors start nodes (path ++ [v]) w s r) :
    ∃ r, attempt? start (path ++ [v]) next? s w = some r ∧
      Searched successors start nodes (path ++ [v]) w s r ∧ (r.1 = false → w ≠ start) := by
  simp only [attempt?, List.contains_iff_mem]
  split_ifs with hstart hblocked
  · subst hstart
    refine ⟨_, rfl, ⟨⟨hs.distinct, hs.within, hs.onPath, hs.parked, hs.awaited⟩,
      ⟨fun _ h => h, fun _ _ h _ => h⟩, ⟨[path ++ [v] ++ [w]], rfl, List.nodup_singleton _, ?_, ?_⟩,
      nofun⟩, nofun⟩
    · intro c
      rw [List.mem_singleton]
      constructor
      · rintro rfl
        exact ⟨htrail.circuit harc, List.prefix_refl _⟩
      · exact fun hc => hc.1.eq_of_returns htrail hc.2
    · simp
  · refine ⟨_, rfl, ⟨hs, .refl s, ⟨[], by simp, List.nodup_nil, fun c => ?_, by simp⟩,
      fun _ => hblocked⟩, fun _ => hstart⟩
    simp only [List.not_mem_nil, false_iff, not_and]
    exact fun hc hbegins => hs.not_circuit hblocked hstart hbegins hc
  · obtain ⟨r, hr, hsearched⟩ := hnext hblocked
    exact ⟨r, hr, hsearched, fun _ => hstart⟩

theorem scanned_start (hs : Valid successors start nodes path s) (hv : v ∈ nodes)
    (hfree : v ∉ s.blocked) : Scanned successors start nodes path v s [] (false, s.block v) where
  valid := hs.block hv hfree
  keeps := .refl _
  lists := ⟨[], by simp [block], List.nodup_nil, by simp, by simp⟩
  blocked := by simp

/-- Looking at a successor adds the cycles that go on to it. -/
theorem Scanned.look (h : Scanned successors start nodes path v s seen r)
    (htrail : Trail successors start (path ++ [v])) (harc : w ∈ successors v) (hnew : w ∉ seen)
    {next? : Int → CycleSearch → Option (Bool × CycleSearch)}
    (hnext : w ∉ r.2.blocked →
      ∃ r', next? w r.2 = some r' ∧ Searched successors start nodes (path ++ [v]) w r.2 r') :
    ∃ r', look? start (path ++ [v]) next? r w = some r' ∧
      Scanned successors start nodes path v s (seen ++ [w]) r' := by
  obtain ⟨r', hr', hstep, hstart⟩ := searched_attempt h.valid htrail harc hnext
  refine ⟨_, by rw [look?, hr', Option.map_some], ?_⟩
  refine ⟨hstep.valid, h.keeps.trans hstep.keeps, ?_, ?_⟩
  · refine (h.lists.append hstep.lists ?_).congr fun c => ?_
    · -- two cycles that go on to different nodes differ
      rintro c ⟨-, y, hy, hbegins⟩ ⟨-, hbegins'⟩
      have hlength : (path ++ [v] ++ [y]).length = (path ++ [v] ++ [w]).length := by simp
      have hsame := (List.prefix_of_prefix_length_le hbegins hbegins' hlength.le).eq_of_length
        hlength
      have hyw : y = w := by simpa using hsame
      exact hnew (hyw ▸ hy)
    · simp only [List.mem_append, List.mem_singleton, or_and_right, exists_or, exists_eq_left,
        and_or_left]
  · intro hflag y hy
    rw [Bool.or_eq_false_iff] at hflag
    rcases List.mem_append.mp hy with hy | hy
    · obtain ⟨hne, hblocked⟩ := h.blocked hflag.1 y hy
      exact ⟨hne, hstep.keeps.blocked y hblocked⟩
    · rw [List.mem_singleton.mp hy]
      exact ⟨hstart hflag.2, hstep.blocked hflag.2⟩

/-- The cycles that a node extends are those that go on to one of its successors. -/
theorem Scanned.lists_all (h : Scanned successors start nodes path v s (successors v) r)
    (htrail : Trail successors start (path ++ [v])) :
    Lists (fun c => Circuit successors start c ∧ path ++ [v] <+: c) s r := by
  refine h.lists.congr fun c => and_congr_right fun hc => ?_
  constructor
  · rintro ⟨w, -, hbegins⟩
    exact (List.prefix_append _ _).trans hbegins
  · exact fun hbegins => hc.exists_next htrail hbegins

theorem Scanned.mem_blocked (h : Scanned successors start nodes path v s seen r) :
    v ∈ r.2.blocked := h.keeps.blocked v List.mem_cons_self

/-- A node that lies on a cycle is released, and the path before it stays blocked. -/
theorem Scanned.release (h : Scanned successors start nodes path v s (successors v) (true, t))
    (hs : Valid successors start nodes path s) (hfree : v ∉ s.blocked)
    (htrail : Trail successors start (path ++ [v])) {t' : CycleSearch}
    (hreleasing : Releasing v [] t t') :
    Searched successors start nodes path v s (true, t') := by
  have hkeeps : s.Keeps t := (keeps_block s v).trans h.keeps
  have hstays : ∀ x ∈ s.blocked, x ∈ t'.blocked := by
    intro x hx
    refine hreleasing.spares (· ∈ s.blocked) ?_ hfree x (hkeeps.blocked x hx) hx
    exact fun w y hmem hy => hs.awaited w y (hkeeps.waiting w y hmem hy)
  refine ⟨⟨?_, ?_, ?_, ?_, ?_⟩, ⟨hstays, ?_⟩, ?_, nofun⟩
  · exact (hreleasing.blocked.trans List.filter_sublist).nodup h.valid.distinct
  · exact fun x hx => h.valid.within x (hreleasing.mem_of_mem hx).1
  · exact fun x hx => hstays x (hs.onPath x hx)
  · intro x hx hout w hw
    obtain ⟨hxt, hxv⟩ := hreleasing.mem_of_mem hx
    obtain ⟨hne, hblocked, hmem⟩ := h.valid.parked x hxt (by simp [hout, hxv]) w hw
    have hstill : (w, x) ∈ t'.waiting := by simpa using hreleasing.waits w x hmem hx
    exact ⟨hne, (hreleasing.awaited w x hstill).2 hblocked, hstill⟩
  · intro w x hmem
    exact (hreleasing.awaited w x hmem).2 (h.valid.awaited w x (hreleasing.waiting hmem))
  · exact fun w x hmem hx => hkeeps.waiting w x (hreleasing.waiting hmem) hx
  · obtain ⟨new, hfound, hnew⟩ := h.lists_all htrail
    exact ⟨new, hreleasing.found.trans hfound, hnew⟩

theorem mem_waiting_park {ws : List Int} {x : Int} :
    (w, x) ∈ (t.park v ws).waiting ↔ (w, x) ∈ t.waiting ∨ x = v ∧ w ∈ ws := by
  simp only [park, List.mem_append, List.mem_map, List.mem_filter, Bool.not_eq_true',
    ← Bool.not_eq_true, List.contains_iff_mem, Prod.mk.injEq]
  constructor
  · rintro (hmem | ⟨y, ⟨hy, -⟩, rfl, rfl⟩)
    · exact .inl hmem
    · exact .inr ⟨rfl, hy⟩
  · rintro (hmem | ⟨rfl, hw⟩)
    · exact .inl hmem
    · by_cases hmem : (w, x) ∈ t.waiting
      · exact .inl hmem
      · exact .inr ⟨w, ⟨hw, hmem⟩, rfl, rfl⟩

/-- A node that lies on no cycle waits for its successors. -/
theorem Scanned.park (h : Scanned successors start nodes path v s (successors v) (false, t))
    (hfree : v ∉ s.blocked) (htrail : Trail successors start (path ++ [v])) :
    Searched successors start nodes path v s (false, t.park v (successors v)) := by
  have hkeeps : s.Keeps t := (keeps_block s v).trans h.keeps
  refine ⟨⟨h.valid.distinct, h.valid.within, ?_, ?_, ?_⟩, ⟨hkeeps.blocked, ?_⟩, ?_, ?_⟩
  · exact fun x hx => h.valid.onPath x (List.mem_append_left _ hx)
  · intro x hx hout w hw
    rw [mem_waiting_park]
    by_cases hxv : x = v
    · rw [hxv] at hw
      obtain ⟨hne, hblocked⟩ := h.blocked rfl w hw
      exact ⟨hne, hblocked, .inr ⟨hxv, hw⟩⟩
    · obtain ⟨hne, hblocked, hmem⟩ := h.valid.parked x hx (by simp [hout, hxv]) w hw
      exact ⟨hne, hblocked, .inl hmem⟩
  · intro w x hmem
    rcases mem_waiting_park.mp hmem with hmem | ⟨-, hw⟩
    · exact h.valid.awaited w x hmem
    · exact (h.blocked rfl w hw).2
  · intro w x hmem hx
    rcases mem_waiting_park.mp hmem with hmem | ⟨rfl, -⟩
    · exact hkeeps.waiting w x hmem hx
    · exact absurd hx hfree
  · obtain ⟨new, hfound, hnew⟩ := h.lists_all htrail
    exact ⟨new, hfound, hnew⟩
  · exact fun _ => h.mem_blocked

end Steps

/-! ### 5. The whole search -/

section Search

variable {g : Digraph}

/-- Looking at the successors of a node one after the other. -/
theorem Scanned.foldlM {next? : Int → CycleSearch → Option (Bool × CycleSearch)}
    (htrail : Trail successors start (path ++ [v])) (hdistinct : (successors v).Nodup)
    (hnext : ∀ w t, Valid successors start nodes (path ++ [v]) t → w ∈ successors v →
      w ∉ t.blocked →
      ∃ r, next? w t = some r ∧ Searched successors start nodes (path ++ [v]) w t r)
    {r : Bool × CycleSearch} (h : Scanned successors start nodes path v s [] r) :
    ∃ r', (successors v).foldlM (look? start (path ++ [v]) next?) r = some r' ∧
      Scanned successors start nodes path v s (successors v) r' := by
  refine exists_foldlM (Scanned successors start nodes path v s) ?_ h
  intro seen w rest r hsplit hscanned
  have hw : w ∈ successors v := by simp [hsplit]
  have hnew : w ∉ seen := by
    intro hseen
    rw [hsplit, List.nodup_append] at hdistinct
    exact hdistinct.2.2 w hseen w List.mem_cons_self rfl
  exact hscanned.look htrail hw hnew (hnext w r.2 hscanned.valid hw)

theorem Valid.length_blocked_le (h : Valid successors start nodes path s) :
    s.blocked.length ≤ nodes.length := (h.distinct.subperm h.within).length_le

/-- A path of distinct nodes leaves nodes for its extension. -/
theorem Valid.length_lt (h : Valid successors start nodes path s)
    (htrail : Trail successors start (path ++ [v])) (hv : v ∈ nodes) :
    path.length < nodes.length := by
  have hwithin : path ++ [v] ⊆ nodes := by
    intro x hx
    rcases List.mem_append.mp hx with hx | hx
    · exact h.within x (h.onPath x hx)
    · rw [List.mem_singleton.mp hx]
      exact hv
  have hle := (htrail.distinct.subperm hwithin).length_le
  rw [List.length_append, List.length_singleton] at hle
  omega

variable (hclosed : ∀ x y, y ∈ g.successors x → x ∈ g.keys ∧ y ∈ g.keys)
  (hdistinct : ∀ x, (g.successors x).Nodup)

include hclosed hdistinct

/-- **Extending a path by a node** ends and lists the cycles that begin with it, if the bound is at
    least the number of nodes that are not on the path. -/
theorem circuit?_spec (fuel : Nat) : ∀ {path : List Int} {v : Int} {s : CycleSearch},
    Valid g.successors start g.keys path s → Trail g.successors start (path ++ [v]) →
    v ∈ g.keys → v ∉ s.blocked → g.keys.length ≤ path.length + fuel →
    ∃ r, circuit? g start fuel path v s = some r ∧
      Searched g.successors start g.keys path v s r := by
  induction fuel with
  | zero =>
    intro path v s hs htrail hv _ hfuel
    have hlt := hs.length_lt htrail hv
    omega
  | succ fuel ih =>
    intro path v s hs htrail hv hfree hfuel
    -- the path grows by nodes that are not on it
    have hnext : ∀ w t, Valid g.successors start g.keys (path ++ [v]) t → w ∈ g.successors v →
        w ∉ t.blocked → ∃ r, circuit? g start fuel (path ++ [v]) w t = some r ∧
          Searched g.successors start g.keys (path ++ [v]) w t r := by
      intro w t ht hw hwfree
      refine ih ht (htrail.concat hw fun hmem => hwfree (ht.onPath w hmem)) (hclosed v w hw).2
        hwfree ?_
      rw [List.length_append, List.length_singleton]
      omega
    obtain ⟨⟨closed, t⟩, hr, hscanned⟩ :=
      Scanned.foldlM htrail (hdistinct v) hnext (scanned_start hs hv hfree)
    rw [circuit?, hr, Option.bind_some, leave?]
    cases closed with
    | false => exact ⟨_, rfl, hscanned.park hfree htrail⟩
    | true =>
      obtain ⟨t', ht', hreleasing⟩ := release?_spec (g.keys.length + 1) hscanned.mem_blocked
        (Nat.le_succ_of_le hscanned.valid.length_blocked_le)
      rw [if_pos rfl, ht', Option.map_some]
      exact ⟨_, rfl, hscanned.release hs hfree htrail hreleasing⟩

/-- **The search from a node** ends and lists the cycles through it. -/
theorem lists_circuit (hstart : start ∈ g.keys) :
    ∃ r, circuit? g start (g.keys.length + 1) [] start {} = some r ∧
      Lists (Circuit g.successors start) {} r := by
  obtain ⟨r, hr, hsearched⟩ := circuit?_spec hclosed hdistinct (g.keys.length + 1) valid_empty
    (Trail.singleton g.successors start) hstart (by simp) (by omega)
  refine ⟨r, hr, hsearched.lists.congr fun c => and_iff_left_of_imp fun hc => ?_⟩
  obtain ⟨p, rfl, hp⟩ := hc.closes
  exact hp.begins.trans (List.prefix_append _ _)

end Search

end CycleSearch

end DropFlow.Digraph
