/-
  DropFlow/Proofs/Digraph/Component.lean
  ======================================
  The search with low points finds the strongly connected components.

  While nodes are being visited, the path of these nodes lies on the stack, every node of
  the stack can be reached from all nodes below it and leads back to the path, and the
  closed components are components that lead only to earlier ones (`Search.Valid`).  A
  visit keeps this, and its low point tells how far down what it has left on the stack
  leads (`Search.Visited`).  If that is no further than the visited node itself, the nodes
  above it lead nowhere but to themselves and to closed components; since they all lead
  back to the path, they lead back to the node, and are its component.

  The bound of the visits is never met when it is at least the number of nodes that can
  be reached (`components?_spec`).
-/
import DropFlow.Digraph.Component
import Mathlib.Data.List.Nodup
import Mathlib.Data.List.Induction
import Mathlib.Logic.Relation

namespace DropFlow.Digraph

variable {α : Type}

/-- A fold of which every step succeeds and keeps what holds of the elements before it. -/
theorem exists_foldlM {β : Type} {f : β → α → Option β} {l : List α} (P : List α → β → Prop)
    (hstep : ∀ seen w rest b, l = seen ++ w :: rest → P seen b →
      ∃ b', f b w = some b' ∧ P (seen ++ [w]) b') {b : β} (h : P [] b) :
    ∃ b', l.foldlM f b = some b' ∧ P l b' := by
  have hfrom : ∀ rest seen b, l = seen ++ rest → P seen b →
      ∃ b', rest.foldlM f b = some b' ∧ P l b' := by
    intro rest
    induction rest with
    | nil =>
      intro seen b hsplit hseen
      rw [List.append_nil] at hsplit
      exact ⟨b, rfl, hsplit ▸ hseen⟩
    | cons w rest ih =>
      intro seen b hsplit hseen
      obtain ⟨b', hb', hnext⟩ := hstep seen w rest b hsplit hseen
      obtain ⟨r, hr, hall⟩ := ih (seen ++ [w]) b' (by simp [hsplit]) hnext
      refine ⟨r, ?_, hall⟩
      rw [List.foldlM_cons, hb']
      exact hr
  exact hfrom l [] b rfl h

/-! ### 1. Components -/

/-- One node leads to another one along arcs. -/
def Leads (successors : α → List α) : α → α → Prop :=
  Relation.ReflTransGen fun x y => y ∈ successors x

/-- Lists of nodes that are strongly connected components, each of which leads only to itself and
    to those before it. -/
structure Components (successors : α → List α) (cs : List (List α)) : Prop where
  disjoint : cs.flatten.Nodup
  strong : ∀ c ∈ cs, c ≠ [] ∧
    ∀ x ∈ c, ∀ y, y ∈ c ↔ Leads successors x y ∧ Leads successors y x
  ordered : ∀ before c after, cs = before ++ c :: after →
    ∀ x ∈ c, ∀ y ∈ successors x, y ∈ c ∨ y ∈ before.flatten

namespace Components

variable {successors : α → List α} {cs : List (List α)}

theorem nil : Components successors [] where
  disjoint := List.nodup_nil
  strong := by simp
  ordered := by simp

/-- What a component leads to is in a component. -/
theorem mem_of_leads (h : Components successors cs) {x y : α} (hx : x ∈ cs.flatten)
    (hlead : Leads successors x y) : y ∈ cs.flatten := by
  induction hlead with
  | refl => exact hx
  | tail _ harc ih =>
    obtain ⟨c, hc, hin⟩ := List.mem_flatten.mp ih
    obtain ⟨before, after, rfl⟩ := List.append_of_mem hc
    rcases h.ordered before c after rfl _ hin _ harc with hy | hy
    · exact List.mem_flatten.mpr ⟨c, hc, hy⟩
    · simp only [List.flatten_append, List.mem_append]
      exact .inl hy

theorem mem_or_mem_of_leads (h : Components successors cs) {top : List α}
    (harcs : ∀ x ∈ top, ∀ y ∈ successors x, y ∈ top ∨ y ∈ cs.flatten) {x y : α} (hx : x ∈ top)
    (hlead : Leads successors x y) : y ∈ top ∨ y ∈ cs.flatten := by
  induction hlead with
  | refl => exact .inl hx
  | tail _ harc ih =>
    rcases ih with ih | ih
    · exact harcs _ ih _ harc
    · exact .inr (h.mem_of_leads ih (.single harc))

/-- One more component that leads only to itself and to the others. -/
theorem concat (h : Components successors cs) {c : List α} (hne : c ≠ [])
    (hnodup : c.Nodup) (hnew : ∀ x ∈ c, x ∉ cs.flatten)
    (hstrong : ∀ x ∈ c, ∀ y ∈ c, Leads successors x y)
    (harcs : ∀ x ∈ c, ∀ y ∈ successors x, y ∈ c ∨ y ∈ cs.flatten) :
    Components successors (cs ++ [c]) where
  disjoint := by
    rw [List.flatten_concat, List.nodup_append]
    refine ⟨h.disjoint, hnodup, ?_⟩
    rintro x hx y hy rfl
    exact hnew x hy hx
  strong := by
    intro d hd
    rcases List.mem_append.mp hd with hd | hd
    · exact h.strong d hd
    · rw [List.mem_singleton.mp hd]
      refine ⟨hne, fun x hx y => ⟨fun hy => ⟨hstrong x hx y hy, hstrong y hy x hx⟩, ?_⟩⟩
      -- a way out of the component leads to closed ones, and these do not lead back
      rintro ⟨hlead, hback⟩
      rcases h.mem_or_mem_of_leads harcs hx hlead with hin | hin
      · exact hin
      · exact absurd (h.mem_of_leads hin hback) (hnew x hx)
  ordered := by
    intro before d after heq
    rcases List.eq_nil_or_concat after with rfl | ⟨after, last, rfl⟩
    · obtain ⟨rfl, hd⟩ := List.append_inj' heq rfl
      cases hd
      exact harcs
    · rw [List.concat_eq_append, ← List.cons_append, ← List.append_assoc] at heq
      obtain ⟨heq, _⟩ := List.append_inj' heq rfl
      exact h.ordered before d after heq

end Components

namespace Search

variable [DecidableEq α]

/-! ### 2. The states of a search -/

/-- A node has been met. -/
def Met (s : Search α) (x : α) : Prop := ∃ k, s.number? x = some k

theorem not_met_iff {s : Search α} {x : α} : ¬s.Met x ↔ s.number? x = none := by
  simp [Met, Option.eq_none_iff_forall_ne_some]

/-- A later state: numbers stay, new ones are higher, and nothing is taken from the stack. -/
structure Grows (s t : Search α) : Prop where
  length_le : s.numbers.length ≤ t.numbers.length
  kept : ∀ x k, s.number? x = some k → t.number? x = some k
  fresh : ∀ x k, s.number? x = none → t.number? x = some k → s.numbers.length ≤ k
  stack : s.stack <:+ t.stack
  closed : s.closed <+: t.closed

theorem Grows.trans {s t u : Search α} (h : s.Grows t) (h' : t.Grows u) : s.Grows u where
  length_le := Nat.le_trans h.length_le h'.length_le
  kept := fun x k hk => h'.kept x k (h.kept x k hk)
  fresh := by
    intro x k hnone hsome
    cases hx : t.number? x with
    | none => exact Nat.le_trans h.length_le (h'.fresh x k hx hsome)
    | some j =>
      have hj := h'.kept x j hx
      rw [hsome] at hj
      cases hj
      exact h.fresh x k hnone hx
  stack := h.stack.trans h'.stack
  closed := h.closed.trans h'.closed

theorem Grows.met {s t : Search α} (h : s.Grows t) {x : α} (hx : s.Met x) : t.Met x := by
  obtain ⟨k, hk⟩ := hx
  exact ⟨k, h.kept x k hk⟩

theorem Grows.mem_closed {s t : Search α} (h : s.Grows t) {x : α} (hx : x ∈ s.closed.flatten) :
    x ∈ t.closed.flatten := by
  obtain ⟨more, hmore⟩ := h.closed
  rw [← hmore, List.flatten_append]
  exact List.mem_append_left _ hx

theorem number?_enter (s : Search α) (v x : α) :
    (s.enter v).number? x = if x = v then some s.numbers.length else s.number? x := by
  by_cases hx : x = v
  · simp [enter, number?, hx]
  · simp [enter, number?, hx, List.lookup_cons, beq_false_of_ne hx]

theorem met_enter {s : Search α} {v x : α} : (s.enter v).Met x ↔ x = v ∨ s.Met x := by
  simp only [Met, number?_enter]
  by_cases hx : x = v <;> simp [hx]

theorem grows_enter {s : Search α} {v : α} (h : ¬s.Met v) : s.Grows (s.enter v) where
  length_le := by simp [enter]
  kept := by
    intro x k hk
    have hne : x ≠ v := by
      rintro rfl
      exact h ⟨k, hk⟩
    rw [number?_enter, if_neg hne]
    exact hk
  fresh := by
    intro x k hnone hsome
    rw [number?_enter] at hsome
    split at hsome
    · cases hsome
      exact Nat.le_refl _
    · rw [hnone] at hsome
      exact nomatch hsome
  stack := List.suffix_cons _ _
  closed := List.prefix_refl _

/-- What holds between visits: `R` are the nodes that may be met, and `path` are those that are
    being visited. -/
structure Valid (successors : α → List α) (R : α → Prop) (path : List α) (s : Search α) :
    Prop where
  bounded : ∀ x k, s.number? x = some k → k < s.numbers.length
  met_iff : ∀ x, s.Met x ↔ x ∈ s.stack ∨ x ∈ s.closed.flatten
  distinct : s.stack.Nodup
  apart : ∀ x ∈ s.stack, x ∉ s.closed.flatten
  within : ∀ x, s.Met x → R x
  onPath : ∀ x ∈ path, x ∈ s.stack
  finished : ∀ x, s.Met x → x ∉ path → ∀ y ∈ successors x, s.Met y
  upward : s.stack.Pairwise fun x y => Leads successors y x
  back : ∀ x ∈ s.stack, ∃ g ∈ path, Leads successors x g
  components : Components successors s.closed

variable {successors : α → List α} {R : α → Prop} {path : List α} {s t : Search α} {v w : α}

theorem valid_empty : Valid successors R [] {} where
  bounded := by simp [number?]
  met_iff := by simp [Met, number?]
  distinct := List.nodup_nil
  apart := by simp
  within := by simp [Met, number?]
  onPath := by simp
  finished := by simp [Met, number?]
  upward := List.Pairwise.nil
  back := by simp
  components := .nil

/-- Without a path, all components are closed. -/
theorem Valid.stack_eq_nil (h : Valid successors R [] s) : s.stack = [] := by
  rw [List.eq_nil_iff_forall_not_mem]
  intro x hx
  obtain ⟨g, hg, _⟩ := h.back x hx
  exact nomatch hg

theorem Valid.enter (h : Valid successors R path s) (hnew : ¬s.Met v) (hR : R v)
    (hpath : ∀ g ∈ path, Leads successors g v) : Valid successors R (v :: path) (s.enter v) where
  bounded := by
    intro x k hk
    rw [number?_enter] at hk
    have hlength : (s.enter v).numbers.length = s.numbers.length + 1 := rfl
    rw [hlength]
    split at hk
    · cases hk
      exact Nat.lt_succ_self _
    · exact Nat.lt_succ_of_lt (h.bounded x k hk)
  met_iff := by
    intro x
    rw [met_enter, h.met_iff]
    simp [Search.enter, or_assoc]
  distinct := by
    refine List.nodup_cons.mpr ⟨fun hv => hnew ?_, h.distinct⟩
    exact (h.met_iff v).mpr (.inl hv)
  apart := by
    intro x hx hclosed
    rcases List.mem_cons.mp hx with rfl | hx
    · exact hnew ((h.met_iff x).mpr (.inr hclosed))
    · exact h.apart x hx hclosed
  within := by
    intro x hx
    rcases met_enter.mp hx with rfl | hx
    · exact hR
    · exact h.within x hx
  onPath := by
    intro x hx
    rcases List.mem_cons.mp hx with rfl | hx
    · exact List.mem_cons_self
    · exact List.mem_cons_of_mem _ (h.onPath x hx)
  finished := by
    intro x hx hout y hy
    simp only [List.mem_cons, not_or] at hout
    have hmet := (met_enter.mp hx).resolve_left hout.1
    exact met_enter.mpr (.inr (h.finished x hmet hout.2 y hy))
  upward := by
    refine List.pairwise_cons.mpr ⟨fun x hx => ?_, h.upward⟩
    -- a node of the stack leads back to the path, and the path leads to the new node
    obtain ⟨g, hg, hlead⟩ := h.back x hx
    exact hlead.trans (hpath g hg)
  back := by
    intro x hx
    rcases List.mem_cons.mp hx with rfl | hx
    · exact ⟨x, List.mem_cons_self, .refl⟩
    · obtain ⟨g, hg, hlead⟩ := h.back x hx
      exact ⟨g, List.mem_cons_of_mem _ hg, hlead⟩
  components := h.components

/-- The number of nodes of a list that have not been met. -/
def unmet (s : Search α) (nodes : List α) : Nat :=
  nodes.countP fun x => s.number? x = none

theorem Grows.unmet_le (h : s.Grows t) (nodes : List α) : t.unmet nodes ≤ s.unmet nodes := by
  apply List.countP_mono_left
  intro x _ hx
  simp only [decide_eq_true_eq, ← not_met_iff] at hx ⊢
  exact fun hmet => hx (h.met hmet)

theorem Grows.unmet_lt (h : s.Grows t) {nodes : List α} (hv : v ∈ nodes) (hnew : ¬s.Met v)
    (hmet : t.Met v) : t.unmet nodes < s.unmet nodes := by
  obtain ⟨before, after, rfl⟩ := List.append_of_mem hv
  obtain ⟨k, hk⟩ := hmet
  have hbefore := h.unmet_le before
  have hafter := h.unmet_le after
  simp only [unmet, List.countP_append, List.countP_cons, hk, not_met_iff.mp hnew]
    at hbefore hafter ⊢
  simp only [reduceCtorEq, decide_false, decide_true, Bool.false_eq_true, if_true, if_false]
  omega

/-! ### 3. One visit -/

/-- A number that the stack of a state has below a visit, and to which a node leads. -/
def Below (successors : α → List α) (s : Search α) (v : α) (low : Nat) : Prop :=
  ∃ y ∈ s.stack, s.number? y = some low ∧ Leads successors v y

/-- The arcs from a node into a stack do not go below a number. -/
def Spares (successors : α → List α) (s : Search α) (low : Nat) (x : α) : Prop :=
  ∀ y ∈ successors x, y ∈ s.stack → ∀ k, s.number? y = some k → low ≤ k

/-- What a visit of a node leads to. -/
structure Visited (successors : α → List α) (R : α → Prop) (path : List α) (s : Search α) (v : α)
    (low : Nat) (t : Search α) : Prop where
  valid : Valid successors R path t
  grows : s.Grows t
  met : t.Met v
  low_eq : low = s.numbers.length ∨ Below successors s v low
  spares : ∀ x ∈ t.stack, x ∉ s.stack → Spares successors s low x

/-- What holds while the successors of a node are looked at, `seen` being those that have been. -/
structure Scanned (successors : α → List α) (R : α → Prop) (path : List α) (s : Search α) (v : α)
    (seen : List α) (low : Nat) (t : Search α) : Prop where
  valid : Valid successors R (v :: path) t
  grows : s.Grows t
  number : t.number? v = some s.numbers.length
  stack : v :: s.stack <:+ t.stack
  low_le : low ≤ s.numbers.length
  low_eq : low = s.numbers.length ∨ Below successors s v low
  met : ∀ w ∈ seen, t.Met w
  spares : ∀ x ∈ t.stack, x ∉ s.stack → x ≠ v → Spares successors s low x
  seen_spared : ∀ y ∈ seen, y ∈ s.stack → ∀ k, s.number? y = some k → low ≤ k

theorem Scanned.start (h : Valid successors R path s) (hnew : ¬s.Met v) (hR : R v)
    (hpath : ∀ g ∈ path, Leads successors g v) :
    Scanned successors R path s v [] s.numbers.length (s.enter v) where
  valid := h.enter hnew hR hpath
  grows := grows_enter hnew
  number := by simp [number?_enter]
  stack := List.suffix_refl _
  low_le := Nat.le_refl _
  low_eq := .inl rfl
  met := by simp
  spares := by
    intro x hx hout hne
    rcases List.mem_cons.mp hx with rfl | hx
    · exact absurd rfl hne
    · exact absurd hx hout
  seen_spared := by simp

section Scan

variable {seen : List α} {low : Nat}

theorem Spares.mono {low' : Nat} {x : α} (h : Spares successors s low x) (hle : low' ≤ low) :
    Spares successors s low' x := by
  intro y hy hin k hk
  exact Nat.le_trans hle (h y hy hin k hk)

/-- A number below the node is one of the stack from before the visit. -/
theorem Scanned.number?_of_lt (h : Scanned successors R path s v seen low t)
    (hs : Valid successors R path s) {y : α} {k : Nat} (hy : y ∈ t.stack)
    (hk : t.number? y = some k) (hlt : k < s.numbers.length) :
    y ∈ s.stack ∧ s.number? y = some k := by
  have hold : s.number? y = some k := by
    cases hy : s.number? y with
    | none =>
      have hge := h.grows.fresh y k hy hk
      omega
    | some j =>
      have hj := h.grows.kept y j hy
      rw [hk] at hj
      exact hj.symm
  refine ⟨?_, hold⟩
  rcases (hs.met_iff y).mp ⟨k, hold⟩ with hin | hclosed
  · exact hin
  · exact absurd (h.grows.mem_closed hclosed) (h.valid.apart y hy)

theorem Scanned.min_eq (h : Scanned successors R path s v seen low t) {k : Nat}
    (hbelow : k < s.numbers.length → Below successors s v k) :
    min low k = s.numbers.length ∨ Below successors s v (min low k) := by
  have hlow := h.low_le
  by_cases hle : low ≤ k
  · rw [Nat.min_eq_left hle]
    exact h.low_eq
  · rw [Nat.min_eq_right (by omega)]
    exact .inr (hbelow (by omega))

/-- A smaller number spares more. -/
theorem Scanned.lower (h : Scanned successors R path s v seen low t) {low' : Nat}
    (hle : low' ≤ low) (heq : low' = s.numbers.length ∨ Below successors s v low') :
    Scanned successors R path s v seen low' t :=
  { h with
    low_le := Nat.le_trans hle h.low_le
    low_eq := heq
    spares := fun x hx hout hne => (h.spares x hx hout hne).mono hle
    seen_spared := fun y hy hys k hk => Nat.le_trans hle (h.seen_spared y hy hys k hk) }

/-- A successor that has been met, and whose number is not below what is known, has been seen. -/
theorem Scanned.see (h : Scanned successors R path s v seen low t) (hmet : t.Met w)
    (hspared : w ∈ s.stack → ∀ k, s.number? w = some k → low ≤ k) :
    Scanned successors R path s v (seen ++ [w]) low t :=
  { h with
    met := by
      intro y hy
      rcases List.mem_append.mp hy with hy | hy
      · exact h.met y hy
      · rw [List.mem_singleton.mp hy]
        exact hmet
    seen_spared := by
      intro y hy
      rcases List.mem_append.mp hy with hy | hy
      · exact h.seen_spared y hy
      · rw [List.mem_singleton.mp hy]
        exact hspared }

/-- The visit of a successor keeps what holds. -/
theorem Scanned.advance (h : Scanned successors R path s v seen low t)
    (hs : Valid successors R path s) (hw : w ∈ successors v) {low' : Nat}
    {u : Search α} (hvisit : Visited successors R (v :: path) t w low' u) :
    Scanned successors R path s v seen (min low low') u where
  valid := hvisit.valid
  grows := h.grows.trans hvisit.grows
  number := hvisit.grows.kept v _ h.number
  stack := h.stack.trans hvisit.grows.stack
  low_le := Nat.le_trans (Nat.min_le_left _ _) h.low_le
  low_eq := by
    refine h.min_eq fun hlt => ?_
    have hlength := h.valid.bounded v _ h.number
    rcases hvisit.low_eq with heq | ⟨y, hy, hk, hlead⟩
    · omega
    · obtain ⟨hin, hk⟩ := h.number?_of_lt hs hy hk hlt
      exact ⟨y, hin, hk, .head hw hlead⟩
  met := fun y hy => hvisit.grows.met (h.met y hy)
  spares := by
    intro x hx hout hne
    by_cases hin : x ∈ t.stack
    · exact (h.spares x hin hout hne).mono (Nat.min_le_left _ _)
    · -- what the visit has left on the stack spares all of the stack before it
      intro y hy hys k hk
      have hle := hvisit.spares x hx hin y hy (h.grows.stack.subset hys) k (h.grows.kept y k hk)
      omega
  seen_spared := by
    intro y hy hys k hk
    have hle := h.seen_spared y hy hys k hk
    omega

/-- A successor that is visited. -/
theorem Scanned.visited (h : Scanned successors R path s v seen low t)
    (hs : Valid successors R path s) (hw : w ∈ successors v) (hnew : ¬t.Met w) {low' : Nat}
    {u : Search α} (hvisit : Visited successors R (v :: path) t w low' u) :
    Scanned successors R path s v (seen ++ [w]) (min low low') u :=
  (h.advance hs hw hvisit).see hvisit.met fun _ k hk => absurd (h.grows.met ⟨k, hk⟩) hnew

/-- A successor that is on the stack. -/
theorem Scanned.stacked (h : Scanned successors R path s v seen low t)
    (hs : Valid successors R path s) (hw : w ∈ successors v) {k : Nat}
    (hk : t.number? w = some k) (hin : w ∈ t.stack) :
    Scanned successors R path s v (seen ++ [w]) (min low k) t := by
  have heq : min low k = s.numbers.length ∨ Below successors s v (min low k) := by
    refine h.min_eq fun hlt => ?_
    obtain ⟨hin, hk⟩ := h.number?_of_lt hs hin hk hlt
    exact ⟨w, hin, hk, .single hw⟩
  refine (h.lower (Nat.min_le_left _ _) heq).see ⟨k, hk⟩ fun _ j hj => ?_
  have hsame := h.grows.kept w j hj
  rw [hk] at hsame
  cases hsame
  exact Nat.min_le_right _ _

/-- A successor whose component is closed. -/
theorem Scanned.closed (h : Scanned successors R path s v seen low t) (hmet : t.Met w)
    (hout : w ∉ t.stack) : Scanned successors R path s v (seen ++ [w]) low t :=
  h.see hmet fun hin => absurd (h.grows.stack.subset hin) hout

/-- Looking at a successor. -/
theorem Scanned.look (h : Scanned successors R path s v seen low t)
    (hs : Valid successors R path s) (hw : w ∈ successors v)
    {visitNext? : α → Search α → Option (Nat × Search α)}
    (hvisit : ¬t.Met w →
      ∃ r, visitNext? w t = some r ∧ Visited successors R (v :: path) t w r.1 r.2) :
    ∃ r, look? visitNext? (low, t) w = some r ∧
      Scanned successors R path s v (seen ++ [w]) r.1 r.2 := by
  simp only [look?]
  cases hk : t.number? w with
  | none =>
    have hnew := not_met_iff.mpr hk
    obtain ⟨r, hr, hvisited⟩ := hvisit hnew
    exact ⟨_, by rw [hr]; rfl, h.visited hs hw hnew hvisited⟩
  | some k =>
    refine ⟨_, rfl, ?_⟩
    by_cases hin : w ∈ t.stack
    · simp only [List.contains_iff_mem, hin, if_true]
      exact h.stacked hs hw hk hin
    · simp only [List.contains_iff_mem, hin, if_false]
      exact h.closed ⟨k, hk⟩ hin

end Scan

/-! ### 4. The end of a visit -/

section Leave

variable {low : Nat}

theorem close_eq {above below : List α} (hstack : t.stack = above ++ v :: below) (hv : v ∉ above) :
    t.close v = { t with stack := below, closed := t.closed ++ [above ++ [v]] } := by
  have hpass : ∀ x ∈ above, decide (x ≠ v) = true := by
    intro x hx
    have hne : x ≠ v := by
      rintro rfl
      exact hv hx
    simpa using hne
  simp only [close, hstack, List.takeWhile_append_of_pos hpass, List.dropWhile_append_of_pos hpass]
  simp

/-- The nodes that the visit of a node has left on the stack, with the node itself last. -/
theorem Scanned.exists_above {seen : List α} (h : Scanned successors R path s v seen low t) :
    ∃ above, t.stack = above ++ v :: s.stack ∧ (above ++ [v]).Nodup ∧
      ∀ x ∈ above ++ [v], x ∉ s.stack := by
  obtain ⟨above, habove⟩ := h.stack
  have hdistinct := h.valid.distinct
  rw [← habove, List.append_cons, List.nodup_append] at hdistinct
  refine ⟨above, habove.symm, hdistinct.1, fun x hx hin => ?_⟩
  exact hdistinct.2.2 x hx x hin rfl

theorem Scanned.met_successors (h : Scanned successors R path s v (successors v) low t) {x y : α}
    (hx : t.Met x) (hout : x ∉ path) (hy : y ∈ successors x) : t.Met y := by
  by_cases hv : x = v
  · rw [hv] at hy
    exact h.met y hy
  · exact h.valid.finished x hx (by simp [hv, hout]) y hy

theorem Scanned.spares_of_ne (h : Scanned successors R path s v (successors v) low t) {x : α}
    (hx : x ∈ t.stack) (hout : x ∉ s.stack) : Spares successors s low x := by
  by_cases hv : x = v
  · rw [hv]
    exact h.seen_spared
  · exact h.spares x hx hout hv

/-- A node that leads below itself stays on the stack. -/
theorem Scanned.stay (h : Scanned successors R path s v (successors v) low t)
    (hs : Valid successors R path s) (hbelow : Below successors s v low) :
    Visited successors R path s v low t where
  valid := { h.valid with
    onPath := fun x hx => h.grows.stack.subset (hs.onPath x hx)
    finished := fun x hx hout y hy => h.met_successors hx hout hy
    back := by
      -- the node leads to one below it, which leads back to the rest of the path
      obtain ⟨y, hy, _, hlead⟩ := hbelow
      obtain ⟨g, hg, hback⟩ := hs.back y hy
      intro x hx
      obtain ⟨g', hg', hlead'⟩ := h.valid.back x hx
      rcases List.mem_cons.mp hg' with rfl | hg'
      · exact ⟨g, hg, (hlead'.trans hlead).trans hback⟩
      · exact ⟨g', hg', hlead'⟩ }
  grows := h.grows
  met := ⟨_, h.number⟩
  low_eq := .inr hbelow
  spares := fun x hx hout => h.spares_of_ne hx hout

/-- The arcs from what a node leaves on the stack, if it leads nowhere below itself. -/
theorem Scanned.arcs_above (h : Scanned successors R path s v (successors v) low t)
    (hs : Valid successors R path s) (hlow : low = s.numbers.length) {above : List α}
    (hstack : t.stack = above ++ v :: s.stack) (hout : ∀ x ∈ above ++ [v], x ∉ s.stack) {x y : α}
    (hx : x ∈ above ++ [v]) (hy : y ∈ successors x) :
    y ∈ above ++ [v] ∨ y ∈ t.closed.flatten := by
  rw [List.append_cons] at hstack
  have hin : x ∈ t.stack := by
    rw [hstack]
    exact List.mem_append_left _ hx
  have hpath : x ∉ path := fun hpath => hout x hx (hs.onPath x hpath)
  have hmet : t.Met x := (h.valid.met_iff x).mpr (.inl hin)
  rcases (h.valid.met_iff y).mp (h.met_successors hmet hpath hy) with hys | hys
  · rw [hstack] at hys
    rcases List.mem_append.mp hys with hys | hys
    · exact .inl hys
    · -- an arc to the stack below would have lowered the low point
      obtain ⟨k, hk⟩ := (hs.met_iff y).mpr (.inl hys)
      have hle := h.spares_of_ne hin (hout x hx) y hy hys k hk
      have hlt := hs.bounded y k hk
      omega
  · exact .inr hys

/-- What a node leaves on the stack is its component, if it leads nowhere below itself. -/
theorem Scanned.components_close (h : Scanned successors R path s v (successors v) low t)
    (hs : Valid successors R path s) (hlow : low = s.numbers.length) {above : List α}
    (hstack : t.stack = above ++ v :: s.stack) (hnodup : (above ++ [v]).Nodup)
    (hout : ∀ x ∈ above ++ [v], x ∉ s.stack) :
    Components successors (t.closed ++ [above ++ [v]]) := by
  have harcs : ∀ x ∈ above ++ [v], ∀ y ∈ successors x,
      y ∈ above ++ [v] ∨ y ∈ t.closed.flatten :=
    fun x hx y hy => h.arcs_above hs hlow hstack hout hx hy
  have hin : ∀ x ∈ above ++ [v], x ∈ t.stack := by
    intro x hx
    rw [hstack, List.append_cons]
    exact List.mem_append_left _ hx
  have hfrom : ∀ x ∈ above ++ [v], Leads successors v x := by
    intro x hx
    have hupward := h.valid.upward
    rw [hstack, List.pairwise_append] at hupward
    rcases List.mem_append.mp hx with hx | hx
    · exact hupward.2.2 x hx v List.mem_cons_self
    · rw [List.mem_singleton.mp hx]
      exact .refl
  have hto : ∀ x ∈ above ++ [v], Leads successors x v := by
    intro x hx
    obtain ⟨g, hg, hlead⟩ := h.valid.back x (hin x hx)
    rcases List.mem_cons.mp hg with rfl | hg
    · exact hlead
    · -- a way to the rest of the path would leave the nodes above
      have hgs := hs.onPath g hg
      rcases h.valid.components.mem_or_mem_of_leads harcs hx hlead with hg' | hg'
      · exact absurd hgs (hout g hg')
      · exact absurd hg' (h.valid.apart g (h.grows.stack.subset hgs))
  refine h.valid.components.concat (by simp) hnodup ?_ ?_ harcs
  · exact fun x hx => h.valid.apart x (hin x hx)
  · exact fun x hx y hy => (hto x hx).trans (hfrom y hy)

/-- A node that leads nowhere below itself closes its component. -/
theorem Scanned.close (h : Scanned successors R path s v (successors v) low t)
    (hs : Valid successors R path s) (hlow : low = s.numbers.length) :
    Visited successors R path s v low (t.close v) := by
  obtain ⟨above, hstack, hnodup, hout⟩ := h.exists_above
  have hcomponents := h.components_close hs hlow hstack hnodup hout
  have hv : v ∉ above := by
    rw [List.nodup_append] at hnodup
    exact fun hv => hnodup.2.2 v hv v List.mem_cons_self rfl
  have hsub : s.stack ⊆ t.stack := h.grows.stack.subset
  rw [close_eq hstack hv]
  refine ⟨⟨h.valid.bounded, ?_, hs.distinct, ?_, h.valid.within, hs.onPath, ?_, hs.upward, hs.back,
    hcomponents⟩, ?_, ⟨_, h.number⟩, .inl hlow, ?_⟩
  · intro x
    have hmet := h.valid.met_iff x
    rw [hstack, List.append_cons, List.mem_append] at hmet
    rw [List.flatten_concat, List.mem_append]
    refine hmet.trans ?_
    constructor
    · rintro ((hx | hx) | hx)
      · exact .inr (.inr hx)
      · exact .inl hx
      · exact .inr (.inl hx)
    · rintro (hx | hx | hx)
      · exact .inl (.inr hx)
      · exact .inr hx
      · exact .inl (.inl hx)
  · intro x hx hclosed
    rw [List.flatten_concat, List.mem_append] at hclosed
    rcases hclosed with hclosed | hclosed
    · exact h.valid.apart x (hsub hx) hclosed
    · exact hout x hclosed hx
  · exact fun x hx hpath y hy => h.met_successors hx hpath hy
  · exact ⟨h.grows.length_le, h.grows.kept, h.grows.fresh, List.suffix_refl _,
      h.grows.closed.trans (List.prefix_append _ _)⟩
  · exact fun x hx hnot => absurd hx hnot

theorem Scanned.leave (h : Scanned successors R path s v (successors v) low t)
    (hs : Valid successors R path s) :
    Visited successors R path s v (leave v s.numbers.length (low, t)).1
      (leave v s.numbers.length (low, t)).2 := by
  simp only [Search.leave]
  split
  · rename_i hlow
    exact h.close hs hlow
  · rename_i hlow
    exact h.stay hs (h.low_eq.resolve_left hlow)

end Leave

/-! ### 5. All visits -/

section Visit

variable {nodes : List α}

/-- Looking at the successors of a node one after the other. -/
theorem Scanned.foldlM {visitNext? : α → Search α → Option (Nat × Search α)}
    (hs : Valid successors R path s)
    (hvisit : ∀ w t, Valid successors R (v :: path) t → s.Grows t → w ∈ successors v → ¬t.Met w →
      ∃ r, visitNext? w t = some r ∧ Visited successors R (v :: path) t w r.1 r.2)
    {low : Nat} {t : Search α} (h : Scanned successors R path s v [] low t) :
    ∃ r, (successors v).foldlM (look? visitNext?) (low, t) = some r ∧
      Scanned successors R path s v (successors v) r.1 r.2 := by
  refine exists_foldlM (fun seen (acc : Nat × Search α) =>
    Scanned successors R path s v seen acc.1 acc.2) ?_ h
  intro seen w rest acc hsplit hscanned
  have hw : w ∈ successors v := by simp [hsplit]
  exact hscanned.look hs hw (hvisit w acc.2 hscanned.valid hscanned.grows hw)

/-- **A visit** ends and keeps what holds between visits, if the bound is at least the number of
    nodes that may still be met. -/
theorem visit?_spec (hclosed : ∀ x y, R x → y ∈ successors x → R y)
    (hnodes : ∀ x, R x → x ∈ nodes) (fuel : Nat) :
    ∀ {path : List α} {s : Search α} {v : α}, Valid successors R path s → ¬s.Met v → R v →
      (∀ g ∈ path, Leads successors g v) → s.unmet nodes ≤ fuel →
      ∃ r, visit? successors fuel v s = some r ∧ Visited successors R path s v r.1 r.2 := by
  induction fuel with
  | zero =>
    intro path s v _ hnew hR _ hfuel
    have hlt := (grows_enter hnew).unmet_lt (hnodes v hR) hnew (met_enter.mpr (.inl rfl))
    omega
  | succ fuel ih =>
    intro path s v hs hnew hR hpath hfuel
    -- the next visits have a longer path and fewer nodes to meet
    have hnext : ∀ w t, Valid successors R (v :: path) t → s.Grows t → w ∈ successors v →
        ¬t.Met w → ∃ r, visit? successors fuel w t = some r ∧
          Visited successors R (v :: path) t w r.1 r.2 := by
      intro w t ht hgrows hw hwnew
      have hmet : t.Met v := (ht.met_iff v).mpr (.inl (ht.onPath v List.mem_cons_self))
      have hlt := hgrows.unmet_lt (hnodes v hR) hnew hmet
      refine ih ht hwnew (hclosed v w hR hw) ?_ (by omega)
      intro g hg
      rcases List.mem_cons.mp hg with rfl | hg
      · exact .single hw
      · exact (hpath g hg).tail hw
    obtain ⟨r, hr, hscanned⟩ := Scanned.foldlM hs hnext (Scanned.start hs hnew hR hpath)
    exact ⟨_, by rw [visit?, hr, Option.map_some], hscanned.leave hs⟩

/-- Visiting nodes one after the other, with nothing left open in between. -/
theorem valid_foldlM_visitNew? {bound : Nat} (hclosed : ∀ x y, R x → y ∈ successors x → R y)
    (hnodes : ∀ x, R x → x ∈ nodes) (hbound : nodes.length ≤ bound) {todo : List α}
    (hs : Valid successors R [] s) (htodo : ∀ x ∈ todo, R x) :
    ∃ t, todo.foldlM (visitNew? successors bound) s = some t ∧ Valid successors R [] t ∧
      ∀ x ∈ todo, t.Met x := by
  refine exists_foldlM (fun seen t => Valid successors R [] t ∧ ∀ x ∈ seen, t.Met x) ?_
    ⟨hs, by simp⟩
  rintro seen v rest t hsplit ⟨ht, hmet⟩
  simp only [visitNew?]
  cases hk : t.number? v with
  | some k => exact ⟨t, rfl, ht, List.forall_mem_append.mpr ⟨hmet, by simp [Met, hk]⟩⟩
  | none =>
    have hle : t.unmet nodes ≤ nodes.length := List.countP_le_length
    obtain ⟨r, hr, hvisited⟩ := visit?_spec hclosed hnodes bound ht (not_met_iff.mpr hk)
      (htodo v (by simp [hsplit])) (by simp) (Nat.le_trans hle hbound)
    refine ⟨r.2, by rw [hr, Option.map_some], hvisited.valid, ?_⟩
    rw [List.forall_mem_append, List.forall_mem_singleton]
    exact ⟨fun x hx => hvisited.grows.met (hmet x hx), hvisited.met⟩

end Visit

end Search

/-! ### 6. The components of what can be reached -/

section Reached

variable {successors : α → List α} {starts : List α}

/-- A node that can be reached from one of some nodes. -/
def ReachedFrom (successors : α → List α) (starts : List α) (x : α) : Prop :=
  ∃ n ∈ starts, Leads successors n x

theorem ReachedFrom.tail {x y : α} (h : ReachedFrom successors starts x)
    (harc : y ∈ successors x) : ReachedFrom successors starts y := by
  obtain ⟨n, hn, hlead⟩ := h
  exact ⟨n, hn, Relation.ReflTransGen.tail hlead harc⟩

variable [DecidableEq α] {nodes : List α} {bound : Nat}

/-- **The search ends with the components** of the nodes that can be reached, if its bound is at
    least the number of these nodes. -/
theorem components?_spec (hnodes : ∀ x, ReachedFrom successors starts x → x ∈ nodes)
    (hbound : nodes.length ≤ bound) :
    components? bound starts successors = some (components bound starts successors) ∧
      Components successors (components bound starts successors) ∧
      ∀ x, x ∈ (components bound starts successors).flatten ↔
        ReachedFrom successors starts x := by
  obtain ⟨s, hs, hvalid, hmet⟩ := Search.valid_foldlM_visitNew?
    (fun x y hx hy => ReachedFrom.tail hx hy) hnodes hbound Search.valid_empty
    fun x hx => ⟨x, hx, .refl⟩
  have hresult : components? bound starts successors = some s.closed := by
    rw [components?, hs, Option.map_some]
  have hclosed : ∀ x, s.Met x ↔ x ∈ s.closed.flatten := by
    intro x
    rw [hvalid.met_iff, hvalid.stack_eq_nil]
    simp
  rw [components, hresult, Option.getD_some]
  refine ⟨rfl, hvalid.components, fun x => ⟨fun hx => hvalid.within x ((hclosed x).mpr hx), ?_⟩⟩
  rintro ⟨n, hn, hlead⟩
  exact hvalid.components.mem_of_leads ((hclosed n).mp (hmet n hn)) hlead

end Reached

end DropFlow.Digraph
