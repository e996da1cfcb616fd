/-
  DropFlow/Proofs/Yaml/Decoding.lean
  ==================================
  What readers give, and what they give back.

  A reader keeps a property of its values when no node makes it lose the property
  (`Keeps`); a list, an option or a record of such values keeps what its parts keep, also
  through merges.  A reader recovers a value from a tree when it gives that value for every
  node that shows the tree (`Recovers`), wherever the node stands and however its scalars are
  quoted; a list, an option or a record is recovered from its parts.  Nothing is assumed of the
  library that reads and prints the texts, but that it reads a text which it prints for a tree
  as a document that shows the tree (`Library.Restores`).
-/
import DropFlow.Proofs.Projection
import DropFlow.Yaml.Decoding
import Mathlib.Data.List.Forall2

namespace DropFlow.Yaml

open DropFlow.Text

/-! ### 1. What a pass can give -/

/-- What a pass gives, if it gives anything, has a property. -/
def Ensures {α : Type} (pass : DecodeM α) (Q : α → Prop) : Prop :=
  ∀ context faults a faults', pass context faults = .ok (a, faults') → Q a

namespace Ensures

variable {α β : Type} {pass : DecodeM α} {P Q : α → Prop}

theorem of_pure {a : α} (h : Q a) : Ensures (pure a) Q := by
  intro context faults b faults' hb
  cases hb
  exact h

theorem of_throw {e : DecodeError} : Ensures (throw e : DecodeM α) Q := by
  intro context faults b faults' hb
  exact nomatch hb

theorem any : Ensures pass fun _ => True := fun _ _ _ _ _ => trivial

theorem bind {next : α → DecodeM β} {R : β → Prop} (h : Ensures pass P)
    (hnext : ∀ a, P a → Ensures (next a) R) : Ensures (pass >>= next) R := by
  intro context faults b faults' hb
  change (pass context faults >>= fun x => next x.1 context x.2) = _ at hb
  cases hpass : pass context faults with
  | error e =>
    rw [hpass] at hb
    exact nomatch hb
  | ok x =>
    rw [hpass] at hb
    exact hnext x.1 (h context faults x.1 x.2 hpass) context x.2 b faults' hb

/-- After a step whose outcome does not matter. -/
theorem after {next : α → DecodeM β} {R : β → Prop} (hnext : ∀ a, Ensures (next a) R) :
    Ensures (pass >>= next) R :=
  any.bind fun a _ => hnext a

theorem foldlM {step : α → β → DecodeM α} {items : List β}
    (hstep : ∀ a x, P a → Ensures (step a x) P) :
    ∀ {a : α}, P a → Ensures (items.foldlM step a) P := by
  induction items with
  | nil => exact fun ha => of_pure ha
  | cons x rest ih =>
    intro a ha
    rw [List.foldlM_cons]
    exact (hstep a x ha).bind fun b hb => ih hb

end Ensures

/-- A reader that turns values with a property into values with that property. -/
def Keeps {α : Type} (P : α → Prop) (reader : FieldReader α) : Prop :=
  ∀ n old, P old → Ensures (reader n old) fun r => P r.1

/-- A field that keeps a property of the record. -/
def Field.Keeps {α : Type} (P : α → Prop) (field : Field α) : Prop :=
  ∀ n a, P a → Ensures (field.readInto n a) P

section Keeping

variable {α β : Type} {P : α → Prop} {Q : β → Prop}

theorem keeps_any (reader : FieldReader α) : Keeps (fun _ => True) reader :=
  fun _ _ _ => Ensures.any

theorem keeps_readInt (type : String) : Keeps IsWord (readInt type) := by
  have hmin : minWord ≤ minWord ∧ minWord ≤ maxWord := by decide
  intro n old hold
  simp only [readInt]
  apply Ensures.after
  intro n
  split
  · apply Ensures.after
    intro scalar
    split
    · rename_i i hi
      apply Ensures.of_pure
      split at hi
      · obtain ⟨hword, rfl⟩ := Text.word?_eq_some_iff.mp hi
        exact hword
      · rw [Option.ite_none_right_eq_some] at hi
        cases hi.2
        dsimp only
        split
        · assumption
        · exact hmin
      · rw [Option.ite_none_right_eq_some] at hi
        cases hi.2
        exact hmin
      · exact nomatch hi
    · split
      · exact Ensures.after fun _ => Ensures.of_pure hold
      · exact Ensures.of_pure hold
  · exact Ensures.after fun _ => Ensures.of_pure hold

theorem keeps_readWith {shape : String} {parse : String → Except String α}
    (h : ∀ s a, parse s = .ok a → P a) : Keeps P (readWith shape parse) := by
  intro n old hold
  simp only [readWith]
  apply Ensures.after
  intro n
  split
  · exact Ensures.of_pure hold
  · split
    · split
      · exact Ensures.of_pure (h _ _ ‹_›)
      · exact Ensures.of_throw
    · exact Ensures.of_throw

theorem ensures_readItems {item : FieldReader α} {fresh : α} (h : Keeps P item) (hfresh : P fresh)
    (nodes : List Node) : Ensures (readItems item fresh nodes) fun as => ∀ a ∈ as, P a := by
  induction nodes with
  | nil => exact Ensures.of_pure (by simp)
  | cons n rest ih =>
    rw [readItems]
    refine (h n fresh hfresh).bind fun r hr => ih.bind fun more hmore => Ensures.of_pure ?_
    split
    · exact List.forall_mem_cons.mpr ⟨hr, hmore⟩
    · exact hmore

theorem keeps_readList {type : String} {item : FieldReader α} {fresh : α} (h : Keeps P item)
    (hfresh : P fresh) : Keeps (fun as => ∀ a ∈ as, P a) (readList type item fresh) := by
  intro n old hold
  simp only [readList]
  apply Ensures.after
  intro n
  split
  · exact (ensures_readItems h hfresh _).bind fun as has => Ensures.of_pure has
  · split
    · exact Ensures.of_pure (by simp)
    · exact Ensures.after fun _ => Ensures.of_pure hold

theorem keeps_readOption {part : FieldReader α} {fresh : α} (h : Keeps P part) (hfresh : P fresh) :
    Keeps (fun o => ∀ a, o = some a → P a) (readOption part fresh) := by
  intro n old hold
  simp only [readOption]
  apply Ensures.after
  intro n
  split
  · exact Ensures.of_pure (by simp)
  · have hstart : P (old.getD fresh) := by
      cases old with
      | none => exact hfresh
      | some a => exact hold a rfl
    refine (h n _ hstart).bind fun r hr => Ensures.of_pure ?_
    intro a ha
    cases ha
    exact hr

theorem Field.Keeps.of {name : String} {reader : FieldReader β} {get : α → β} {set : α → β → α}
    (h : Yaml.Keeps Q reader) (hget : ∀ a, P a → Q (get a))
    (hset : ∀ a b, P a → Q b → P (set a b)) : (Field.of name reader get set).Keeps P := by
  intro n a ha
  exact (h n (get a) (hget a ha)).bind fun r hr => Ensures.of_pure (hset a r.1 ha hr)

/-- A field that has nothing to do with a property keeps it. -/
theorem Field.Keeps.free {name : String} {reader : FieldReader β} {get : α → β} {set : α → β → α}
    (hset : ∀ a b, P a → P (set a b)) : (Field.of name reader get set).Keeps P :=
  .of (keeps_any reader) (fun _ _ => trivial) fun a b ha _ => hset a b ha

variable {type : String} {fields : List (Field α)}

theorem ensures_readEntries (h : ∀ field ∈ fields, field.Keeps P) {entries : List (Node × Node)} :
    ∀ {taken : Option (List String)} {done : List String} {a : α}, P a →
      Ensures (readEntries type fields entries taken done a) fun r => P r.1 := by
  induction entries with
  | nil => exact fun ha => Ensures.of_pure ha
  | cons entry rest ih =>
    obtain ⟨k, v⟩ := entry
    intro taken done a ha
    rw [readEntries]
    split
    · exact ih ha
    · apply Ensures.after
      rintro ⟨name, fits⟩
      dsimp only
      split
      · exact ih ha
      · split
        · exact ih ha
        · split
          · rename_i field hfind
            split
            · exact Ensures.after fun _ => ih ha
            · exact (h field (List.mem_of_find?_eq_some hfind) v a ha).bind fun b hb => ih hb
          · apply Ensures.after
            intro context
            split
            · exact Ensures.after fun _ => ih ha
            · exact ih ha

/-- A mapping keeps what its fields keep, and so do the mappings that it merges. -/
theorem ensures_readMapping (h : ∀ field ∈ fields, field.Keeps P) (fuel : Nat) :
    ∀ {entries : List (Node × Node)} {taken : Option (List String)} {a : α}, P a →
      Ensures (readMapping type fields fuel entries taken a) fun r => P r.1 := by
  induction fuel with
  | zero => exact fun _ => Ensures.of_throw
  | succ fuel ih =>
    intro entries taken a ha
    rw [readMapping]
    apply Ensures.after
    intro distinct
    split
    · refine (ensures_readEntries h ha).bind ?_
      rintro ⟨b, taken'⟩ hb
      dsimp only
      split
      · exact Ensures.of_pure hb
      · apply Ensures.after
        intro context
        apply Ensures.after
        intro sources
        refine (Ensures.foldlM (P := fun r => P r.1) ?_ hb).bind fun r hr => Ensures.of_pure hr
        rintro ⟨c, names⟩ source hc
        dsimp only
        split
        · exact (ih hc).bind fun r hr => Ensures.of_pure hr
        · exact Ensures.of_pure hc
    · exact Ensures.of_pure ha

theorem keeps_readRecord (h : ∀ field ∈ fields, field.Keeps P) :
    Keeps P (readRecord type fields) := by
  intro n old hold
  simp only [readRecord]
  apply Ensures.after
  intro n
  split
  · apply Ensures.after
    intro context
    exact (ensures_readMapping h _ hold).bind fun r hr => Ensures.of_pure hr
  · split
    · exact Ensures.of_pure hold
    · exact Ensures.after fun _ => Ensures.of_pure hold

end Keeping

/-! ### 2. Nodes that show a tree -/

/-- Whether a node of a document shows a tree.  Lines, tags and styles do not count, but that a
    text must not be taken for a null; a reference shows nothing. -/
def Node.shows : Node → Tree → Bool
  | .scalar _ tag text meaning, .text s =>
    text == s && meaning == some (.text s) && tag != "!!null"
  | .scalar _ _ _ meaning, .int i => meaning == some (.int i)
  | .scalar _ _ _ meaning, .bool b => meaning == some (.bool b)
  | .sequence _ _ items, .list trees => showItems items trees
  | .mapping _ _ entries, .fields fields => showFields entries fields
  | _, _ => false
where
  showItems : List Node → List Tree → Bool
    | [], [] => true
    | n :: rest, t :: rest' => n.shows t && showItems rest rest'
    | _, _ => false
  showFields : List (Node × Node) → List (String × Tree) → Bool
    | [], [] => true
    | (k, n) :: rest, (name, t) :: rest' =>
      k.shows (.text name) && n.shows t && showFields rest rest'
    | _, _ => false

/-- The library reads the text that it prints for a tree as a document that shows the tree. -/
def Library.Restores (yaml : Library) (step : Nat) (t : Tree) : Prop :=
  ∃ doc, yaml.read? (yaml.print step t) = some (some doc) ∧ doc.root.shows t = true

namespace Node

variable {n : Node}

theorem exists_of_shows_text {s : String} (h : n.shows (.text s) = true) :
    ∃ line tag, n = .scalar line tag s (some (.text s)) ∧ tag ≠ "!!null" := by
  cases n with
  | scalar line tag text meaning =>
    simp only [shows, Bool.and_eq_true, beq_iff_eq, bne_iff_ne] at h
    obtain ⟨⟨rfl, rfl⟩, htag⟩ := h
    exact ⟨line, tag, rfl, htag⟩
  | _ => simp [shows] at h

theorem exists_of_shows_int {i : Int} (h : n.shows (.int i) = true) :
    ∃ line tag text, n = .scalar line tag text (some (.int i)) := by
  cases n with
  | scalar line tag text meaning =>
    simp only [shows, beq_iff_eq] at h
    exact ⟨line, tag, text, by rw [h]⟩
  | _ => simp [shows] at h

theorem exists_of_shows_bool {b : Bool} (h : n.shows (.bool b) = true) :
    ∃ line tag text, n = .scalar line tag text (some (.bool b)) := by
  cases n with
  | scalar line tag text meaning =>
    simp only [shows, beq_iff_eq] at h
    exact ⟨line, tag, text, by rw [h]⟩
  | _ => simp [shows] at h

theorem showItems_iff {items : List Node} {trees : List Tree} :
    shows.showItems items trees = true ↔
      List.Forall₂ (fun t n => n.shows t = true) trees items := by
  induction items generalizing trees with
  | nil => cases trees <;> simp [shows.showItems]
  | cons n rest ih => cases trees <;> simp [shows.showItems, ih]

theorem showFields_iff {entries : List (Node × Node)} {fields : List (String × Tree)} :
    shows.showFields entries fields = true ↔
      List.Forall₂ (fun f e => e.1.shows (.text f.1) = true ∧ e.2.shows f.2 = true)
        fields entries := by
  induction entries generalizing fields with
  | nil => cases fields <;> simp [shows.showFields]
  | cons e rest ih => cases fields <;> simp [shows.showFields, ih]

theorem exists_of_shows_list {trees : List Tree} (h : n.shows (.list trees) = true) :
    ∃ line tag items, n = .sequence line tag items ∧
      List.Forall₂ (fun t n => n.shows t = true) trees items := by
  cases n with
  | sequence line tag items =>
    rw [shows, showItems_iff] at h
    exact ⟨line, tag, items, rfl, h⟩
  | _ => simp [shows] at h

theorem exists_of_shows_fields {fields : List (String × Tree)}
    (h : n.shows (.fields fields) = true) :
    ∃ line tag entries, n = .mapping line tag entries ∧
      List.Forall₂ (fun f e => e.1.shows (.text f.1) = true ∧ e.2.shows f.2 = true)
        fields entries := by
  cases n with
  | mapping line tag entries =>
    rw [shows, showFields_iff] at h
    exact ⟨line, tag, entries, rfl, h⟩
  | _ => simp [shows] at h

end Node

/-! ### 3. Values from trees -/

/-- A reader that gives a value, without a fault, for every node that shows the given tree. -/
def Recovers {α : Type} (reader : FieldReader α) (start : α) (t : Tree) (a : α) : Prop :=
  ∀ n, n.shows t = true → reader n start = pure (a, true)

theorem target_scalar (line : Nat) (tag text : String) (meaning : Option Scalar) :
    target (.scalar line tag text meaning) = pure (.scalar line tag text meaning) := rfl

theorem target_sequence (line : Nat) (tag : Option String) (items : List Node) :
    target (.sequence line tag items) = pure (.sequence line tag items) := rfl

theorem target_mapping (line : Nat) (tag : Option String) (entries : List (Node × Node)) :
    target (.mapping line tag entries) = pure (.mapping line tag entries) := rfl

theorem settled_some (s : Scalar) : settled (some s) = pure s := rfl

section Recovery

variable {α : Type}

theorem recovers_readText (s old : String) : Recovers readText old (.text s) s := by
  intro n hn
  obtain ⟨line, tag, rfl, _⟩ := Node.exists_of_shows_text hn
  simp only [readText, target_scalar, pure_bind, settled_some]

theorem recovers_readInt {i : Int} (h : IsWord i) (type : String) (old : Int) :
    Recovers (readInt type) old (.int i) i := by
  intro n hn
  obtain ⟨line, tag, text, rfl⟩ := Node.exists_of_shows_int hn
  have hword : Text.word? i = some i := Text.word?_eq_some_iff.mpr ⟨h, rfl⟩
  simp only [readInt, target_scalar, pure_bind, settled_some, hword]

theorem recovers_readBool (b old : Bool) : Recovers readBool old (.bool b) b := by
  intro n hn
  obtain ⟨line, tag, text, rfl⟩ := Node.exists_of_shows_bool hn
  simp only [readBool, target_scalar, pure_bind, settled_some, truth?]

theorem recovers_readWith {shape : String} {parse : String → Except String α} {s : String} {a : α}
    (h : parse s = .ok a) (old : α) : Recovers (readWith shape parse) old (.text s) a := by
  intro n hn
  obtain ⟨line, tag, rfl, htag⟩ := Node.exists_of_shows_text hn
  have hnull : isNull (.scalar line tag s (some (.text s))) = false := beq_eq_false_iff_ne.mpr htag
  simp only [readWith, target_scalar, pure_bind, hnull, h]
  rfl

theorem readItems_of_forall₂ {item : FieldReader α} {fresh : α} {as : List α} {nodes : List Node}
    (h : List.Forall₂ (fun a n => item n fresh = pure (a, true)) as nodes) :
    readItems item fresh nodes = pure as := by
  induction h with
  | nil => rfl
  | cons hhead _ ih =>
    rw [readItems, hhead, pure_bind]
    simp only [ih, pure_bind]
    rfl

theorem recovers_readList {type : String} {item : FieldReader α} {fresh : α} {tree : α → Tree}
    {as : List α} (h : ∀ a ∈ as, Recovers item fresh (tree a) a) (old : List α) :
    Recovers (readList type item fresh) old (.list (as.map tree)) as := by
  intro n hn
  obtain ⟨line, tag, items, rfl, hitems⟩ := Node.exists_of_shows_list hn
  rw [List.forall₂_map_left_iff] at hitems
  have hread : List.Forall₂ (fun a n => item n fresh = pure (a, true)) as items := by
    rw [List.forall₂_iff_get] at hitems ⊢
    refine ⟨hitems.1, fun i hi hi' => h _ (List.getElem_mem hi) _ (hitems.2 i hi hi')⟩
  simp only [readList, target_sequence, pure_bind, readItems_of_forall₂ hread]

theorem recovers_readOption {part : FieldReader α} {fresh : α} {fields : List (String × Tree)}
    {a : α} (h : Recovers part fresh (.fields fields) a) :
    Recovers (readOption part fresh) none (.fields fields) (some a) := by
  intro n hn
  obtain ⟨line, tag, entries, rfl, _⟩ := Node.exists_of_shows_fields hn
  have hread := h _ hn
  simp only [readOption, target_mapping, pure_bind, isNull, Option.getD_none, hread]
  rfl

end Recovery

/-! ### 4. Records from trees -/

/-- What is written for a field, nothing or one entry, is read back into a record. -/
inductive Field.Refills {α : Type} (field : Field α) : List (String × Tree) → α → α → Prop
  | skipped {a : α} : Refills field [] a a
  | written {t : Tree} {a b : α} : (∀ n, n.shows t = true → field.readInto n a = pure b) →
      Refills field [(field.name, t)] a b

/-- What is written for some fields, in their order, is read back into a record. -/
inductive Refill {α : Type} : List (Field α) → List (String × Tree) → α → α → Prop
  | nil {a : α} : Refill [] [] a a
  | cons {field : Field α} {fields : List (Field α)} {part rest : List (String × Tree)}
      {a b c : α} : field.Refills part a b → Refill fields rest b c →
      Refill (field :: fields) (part ++ rest) a c

/-- Names that can be the names of fields: distinct, and none of them that of a merge. -/
def Legible (names : List String) : Prop := names.Nodup ∧ "<<" ∉ names

instance (names : List String) : Decidable (Legible names) :=
  inferInstanceAs (Decidable (_ ∧ _))

theorem Field.Refills.sublist {α : Type} {field : Field α} {part : List (String × Tree)} {a b : α}
    (h : field.Refills part a b) : (part.map Prod.fst).Sublist [field.name] := by
  cases h with
  | skipped => exact List.nil_sublist _
  | written _ => exact List.Sublist.refl _

theorem Refill.sublist {α : Type} {fields : List (Field α)} {written : List (String × Tree)}
    {a b : α} (h : Refill fields written a b) :
    (written.map Prod.fst).Sublist (fields.map Field.name) := by
  induction h with
  | nil => exact List.nil_sublist _
  | cons hfield _ ih =>
    rw [List.map_append, List.map_cons, ← List.singleton_append]
    exact hfield.sublist.append ih

theorem repeatedKeys_eq_nil {keys : List Node} (h : (keys.map keyMark).Nodup) :
    repeatedKeys keys = [] := by
  induction keys with
  | nil => rfl
  | cons k rest ih =>
    rw [List.map_cons, List.nodup_cons] at h
    have hnone : (rest.filter fun k' => keyMark k == keyMark k') = [] := by
      rw [List.filter_eq_nil_iff]
      intro k' hk' heq
      exact h.1 (List.mem_map.mpr ⟨k', hk', (beq_iff_eq.mp heq).symm⟩)
    rw [repeatedKeys, hnone, ih h.2]
    rfl

section Records

variable {α : Type} {type : String} {fields : List (Field α)}

theorem Node.read_of_shows {name : String} {k : Node} (hk : k.shows (.text name) = true)
    (hname : name ≠ "<<") :
    isMergeKey k = false ∧ readText k "" = pure (name, true) ∧ keyMark k = (0, name) := by
  have hread := recovers_readText name "" k hk
  obtain ⟨line, tag, rfl, _⟩ := Node.exists_of_shows_text hk
  refine ⟨?_, hread, rfl⟩
  rw [isMergeKey, beq_eq_false_iff_ne.mpr hname, Bool.false_and]

/-- An entry of a field that has not been met is read into the record. -/
theorem readEntries_cons {name : String} {field : Field α} {k v : Node}
    {rest : List (Node × Node)} {done : List String} {a b : α}
    (hk : k.shows (.text name) = true) (hname : name ≠ "<<")
    (hfind : fields.find? (·.name == name) = some field) (hdone : name ∉ done)
    (hread : field.readInto v a = pure b) :
    readEntries type fields ((k, v) :: rest) none done a =
      readEntries type fields rest none (name :: done) b := by
  obtain ⟨hmerge, htext, _⟩ := Node.read_of_shows hk hname
  have hmet : done.contains name = false := by simpa using hdone
  rw [readEntries, hmerge, htext]
  simp only [pure_bind, hfind, hmet, hread]
  rfl

/-- What is written for the last of some fields is read back, once the others are done. -/
theorem Refill.readEntries_eq {before rest : List (Field α)}
    (hnames : Legible ((before ++ rest).map Field.name)) {written : List (String × Tree)}
    {a b : α} (h : Refill rest written a b) :
    ∀ {done : List String} {entries : List (Node × Node)},
      (∀ name ∈ done, name ∈ before.map Field.name) →
      List.Forall₂ (fun f e => e.1.shows (.text f.1) = true ∧ e.2.shows f.2 = true)
        written entries →
      readEntries type (before ++ rest) entries none done a = pure (b, none) := by
  induction h generalizing before with
  | nil =>
    intro done entries _ hentries
    cases hentries
    rfl
  | @cons field fields part rest a b c hfield _ ih =>
    have hsplit : before ++ field :: fields = (before ++ [field]) ++ fields := by simp
    intro done entries hdone hentries
    have hbefore : ∀ name ∈ done, name ∈ (before ++ [field]).map Field.name := by
      intro name hname
      rw [List.map_append]
      exact List.mem_append_left _ (hdone name hname)
    rw [hsplit] at hnames
    cases hfield with
    | skipped =>
      rw [hsplit]
      exact ih hnames hbefore hentries
    | @written t _ _ hread =>
      obtain ⟨⟨k, v⟩, entries', ⟨hk, hshows⟩, hrest, rfl⟩ := List.forall₂_cons_left_iff.mp hentries
      have hnew : field.name ∉ before.map Field.name := by
        have hnodup := hnames.1
        rw [List.map_append, List.map_append, List.nodup_append, List.nodup_append] at hnodup
        intro hin
        exact hnodup.1.2.2 _ hin _ (List.mem_singleton.mpr rfl) rfl
      have hfind : ((before ++ [field]) ++ fields).find? (·.name == field.name) = some field := by
        have hnone : before.find? (·.name == field.name) = none := by
          rw [List.find?_eq_none]
          intro g hg heq
          exact hnew (List.mem_map.mpr ⟨g, hg, beq_iff_eq.mp heq⟩)
        simp [List.find?_append, hnone]
      have hlegible : field.name ≠ "<<" := fun heq => hnames.2 (by simp [← heq])
      rw [hsplit, readEntries_cons hk hlegible hfind (fun hin => hnew (hdone _ hin))
        (hread v hshows)]
      refine ih hnames ?_ hrest
      intro name hname
      rcases List.mem_cons.mp hname with rfl | hname
      · simp
      · exact hbefore name hname

theorem keys_of_forall₂ {written : List (String × Tree)} {entries : List (Node × Node)}
    (hnames : ∀ f ∈ written, f.1 ≠ "<<")
    (h : List.Forall₂ (fun f e => e.1.shows (.text f.1) = true ∧ e.2.shows f.2 = true)
      written entries) :
    (entries.map Prod.fst).map keyMark = written.map (fun f => (0, f.1)) ∧
      (entries.filter fun e => isMergeKey e.1) = [] := by
  induction h with
  | nil => exact ⟨rfl, rfl⟩
  | cons hhead _ ih =>
    rw [List.forall_mem_cons] at hnames
    obtain ⟨hmerge, _, hmark⟩ := Node.read_of_shows hhead.1 hnames.1
    obtain ⟨hmarks, hmerges⟩ := ih hnames.2
    rw [List.map_cons, List.map_cons, hmark, hmarks, List.filter_cons, hmerge, hmerges]
    exact ⟨rfl, rfl⟩

theorem distinctKeys_of_nodup {entries : List (Node × Node)}
    (h : ((entries.map Prod.fst).map keyMark).Nodup) : distinctKeys entries = pure true := by
  simp only [distinctKeys, repeatedKeys_eq_nil h]
  rfl

/-- **A record is recovered** from what is written for its fields. -/
theorem recovers_readRecord {written : List (String × Tree)} {a b : α}
    (hnames : Legible (fields.map Field.name)) (h : Refill fields written a b) :
    Recovers (readRecord type fields) a (.fields written) b := by
  intro n hn
  obtain ⟨line, tag, entries, rfl, hentries⟩ := Node.exists_of_shows_fields hn
  have hlegible : ∀ f ∈ written, f.1 ≠ "<<" := by
    intro f hf heq
    exact hnames.2 (heq ▸ h.sublist.subset (List.mem_map.mpr ⟨f, hf, rfl⟩))
  obtain ⟨hmarks, hmerge⟩ := keys_of_forall₂ hlegible hentries
  have hdistinct : distinctKeys entries = pure true := by
    apply distinctKeys_of_nodup
    have hnodup := h.sublist.nodup hnames.1
    rw [hmarks, List.Nodup, List.pairwise_map]
    rw [List.Nodup, List.pairwise_map] at hnodup
    exact hnodup.imp fun hne heq => hne (Prod.mk.inj heq).2
  have hread : readEntries type ([] ++ fields) entries none [] a = pure (b, none) :=
    h.readEntries_eq hnames (fun _ hin => nomatch hin) hentries
  rw [List.nil_append] at hread
  have hmapping : ∀ fuel, readMapping type fields (fuel + 1) entries none a =
      pure (b, none, true) := by
    intro fuel
    rw [readMapping, hdistinct, pure_bind, if_pos rfl, hread, pure_bind, hmerge]
    rfl
  simp only [readRecord, target_mapping, pure_bind, hmapping]
  rfl

end Records

/-! ### 5. Texts -/

theorem of_decodeDocument {α : Type} {P : α → Prop} {reader : FieldReader α} {start a : α}
    {strict : Bool} {doc : Document} (hkeeps : Keeps P reader) (hstart : P start)
    (h : decodeDocument strict reader start doc = .ok a) : P a := by
  simp only [decodeDocument] at h
  split at h
  · exact nomatch h
  · rename_i b fits hread
    cases h
    exact hkeeps doc.root start hstart _ _ _ _ hread
  · exact nomatch h

theorem of_decodeText {α : Type} {P : α → Prop} {yaml : Library} {reader : FieldReader α}
    {start a : α} {strict : Bool} {text : String} (hkeeps : Keeps P reader) (hstart : P start)
    (h : decodeText yaml strict reader start text = .ok a) : P a := by
  simp only [decodeText] at h
  split at h
  · exact nomatch h
  · cases h
    exact hstart
  · exact of_decodeDocument hkeeps hstart h

theorem Recovers.decodeDocument {α : Type} {reader : FieldReader α} {start a : α} {t : Tree}
    (h : Recovers reader start t a) {doc : Document} (hshows : doc.root.shows t = true)
    (strict : Bool) : decodeDocument strict reader start doc = .ok a := by
  simp only [Yaml.decodeDocument, h doc.root hshows]
  rfl

theorem Recovers.decodeText {α : Type} {yaml : Library} {reader : FieldReader α} {start a : α}
    {t : Tree} (h : Recovers reader start t a) {step : Nat} (hyaml : yaml.Restores step t)
    (strict : Bool) : decodeText yaml strict reader start (yaml.print step t) = .ok a := by
  obtain ⟨doc, hdoc, hshows⟩ := hyaml
  rw [Yaml.decodeText, hdoc]
  exact h.decodeDocument hshows strict

end DropFlow.Yaml
