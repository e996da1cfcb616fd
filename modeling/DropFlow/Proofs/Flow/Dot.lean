/-
  DropFlow/Proofs/Flow/Dot.lean
  =============================
  What a listing and a drawing show is what is there.

  In a drawing the labels stand between double quotes, and their text is escaped.  `Reader`
  reads a drawing from left to right as a layout program does.  It is still inside a label
  when it has read an escaped text, and has found just that text there (`Holds.escape`); so in
  a whole drawing it finds the labels that were put in, and around them a text that is the same
  for all names (`Graph.draws_drawing`).

  A line about a cell names its place, and two lines about cells of one function that agree
  name the same place (`Cell.place_eq_of_label`).
-/
import DropFlow.Flow.Dot
import DropFlow.Proofs.Place.Compact

namespace DropFlow.Flow

open DropFlow.Text

/-! ### 1. Reading a drawing -/

/-- Where a reader is: outside of the labels, or inside one with what it has read of it, the
    next character being escaped or not. -/
inductive Spot where
  | outside
  | inside (text : List Char)
  | escaped (text : List Char)
  deriving DecidableEq

/-- What a reader has read: the text outside of the labels, and the labels. -/
structure Reader where
  code : List Char := []
  labels : List (List Char) := []
  spot : Spot := .outside
  deriving DecidableEq

namespace Reader

/-- Reads a character.  A double quote begins a label; in a label, a backslash makes the next
    character stand for itself, and a double quote ends the label. -/
def next (r : Reader) (c : Char) : Reader :=
  match r.spot with
  | .outside =>
    if c = '"' then { r with spot := .inside [] } else { r with code := r.code ++ [c] }
  | .inside text =>
    if c = '\\' then { r with spot := .escaped text }
    else if c = '"' then { r with labels := r.labels ++ [text], spot := .outside }
    else { r with spot := .inside (text ++ [c]) }
  | .escaped text => { r with spot := .inside (text ++ [c]) }

def readAll (r : Reader) (cs : List Char) : Reader := cs.foldl next r

@[simp] theorem readAll_nil (r : Reader) : r.readAll [] = r := rfl

@[simp] theorem readAll_cons (r : Reader) (c : Char) (cs : List Char) :
    r.readAll (c :: cs) = (r.next c).readAll cs := rfl

@[simp] theorem readAll_append (r : Reader) (cs ds : List Char) :
    r.readAll (cs ++ ds) = (r.readAll cs).readAll ds := List.foldl_append

end Reader

/-! ### 2. Inside a label -/

/-- A text without backslashes and double quotes. -/
def Harmless (cs : List Char) : Prop := '\\' ∉ cs ∧ '"' ∉ cs

instance (cs : List Char) : Decidable (Harmless cs) :=
  inferInstanceAs (Decidable ('\\' ∉ cs ∧ '"' ∉ cs))

theorem Harmless.append {cs ds : List Char} (hcs : Harmless cs) (hds : Harmless ds) :
    Harmless (cs ++ ds) := by
  simp only [Harmless, List.mem_append, not_or]
  exact ⟨⟨hcs.1, hds.1⟩, hcs.2, hds.2⟩

theorem harmless_decimalChars (i : Int) : Harmless (decimalChars i) :=
  ⟨not_mem_decimalChars (by decide) (by decide) i, not_mem_decimalChars (by decide) (by decide) i⟩

/-- Reading `body` inside a label adds `text` to the label. -/
def Holds (body text : List Char) : Prop :=
  ∀ (code : List Char) (labels : List (List Char)) (front : List Char),
    Reader.readAll ⟨code, labels, .inside front⟩ body = ⟨code, labels, .inside (front ++ text)⟩

namespace Holds

theorem nil : Holds [] [] := by
  intro code labels front
  rw [Reader.readAll_nil, List.append_nil]

theorem append {body text body' text' : List Char} (h : Holds body text)
    (h' : Holds body' text') : Holds (body ++ body') (text ++ text') := by
  intro code labels front
  rw [Reader.readAll_append, h, h', List.append_assoc]

theorem char {c : Char} (hslash : c ≠ '\\') (hquote : c ≠ '"') : Holds [c] [c] := by
  intro code labels front
  simp [Reader.next, hslash, hquote]

theorem escapedChar (c : Char) : Holds ['\\', c] [c] := by
  intro code labels front
  simp [Reader.next]

theorem plain {cs : List Char} (h : Harmless cs) : Holds cs cs := by
  induction cs with
  | nil => exact nil
  | cons c rest ih =>
    simp only [Harmless, List.mem_cons, not_or] at h
    obtain ⟨⟨hslash, hslash'⟩, hquote, hquote'⟩ := h
    exact (char (Ne.symm hslash) (Ne.symm hquote)).append (ih ⟨hslash', hquote'⟩)

theorem escape (cs : List Char) : Holds (escapeLabelChars cs) cs := by
  induction cs with
  | nil => exact nil
  | cons c rest ih =>
    rw [escapeLabelChars]
    split
    · exact (escapedChar c).append ih
    · rename_i hplain
      rw [not_or] at hplain
      exact (char hplain.1 hplain.2).append ih

theorem unique {body text text' : List Char} (h : Holds body text) (h' : Holds body text') :
    text = text' := by
  have hsame := (h [] [] []).symm.trans (h' [] [] [])
  simpa using hsame

end Holds

theorem holds_escapeLabel (s : String) : Holds (escapeLabel s).toList s.toList := by
  rw [escapeLabel, String.toList_ofList]
  exact Holds.escape s.toList

theorem escapeLabel_inj {s t : String} : escapeLabel s = escapeLabel t ↔ s = t := by
  constructor
  · intro h
    have htext := holds_escapeLabel s
    rw [h] at htext
    exact String.toList_injective (htext.unique (holds_escapeLabel t))
  · exact congrArg escapeLabel

/-- Whoever comes to a quote of an escaped text has just read the backslash in front of it. -/
theorem escaped_of_quote (code : List Char) (labels : List (List Char)) {after : List Char} :
    ∀ {cs before : List Char}, escapeLabelChars cs = before ++ '"' :: after → ∀ front : List Char,
      ∃ text, Reader.readAll ⟨code, labels, .inside front⟩ before =
        ⟨code, labels, .escaped text⟩ := by
  intro cs
  induction cs with
  | nil => simp [escapeLabelChars]
  | cons c rest ih =>
    intro before h front
    rw [escapeLabelChars] at h
    split at h
    · match before with
      | [] => simp at h
      | [d] =>
        obtain ⟨rfl, _⟩ := List.cons.inj h
        exact ⟨front, by simp [Reader.next]⟩
      | d :: e :: before' =>
        simp only [List.cons_append, List.cons.injEq] at h
        obtain ⟨rfl, rfl, hrest⟩ := h
        obtain ⟨text, htext⟩ := ih hrest (front ++ [c])
        refine ⟨text, ?_⟩
        rw [← htext]
        simp [Reader.next]
    · rename_i hplain
      rw [not_or] at hplain
      match before with
      | [] => exact absurd (List.cons.inj h).1 hplain.2
      | d :: before' =>
        obtain ⟨rfl, hrest⟩ := List.cons.inj h
        obtain ⟨text, htext⟩ := ih hrest (front ++ [c])
        refine ⟨text, ?_⟩
        rw [← htext]
        simp [Reader.next, hplain.1, hplain.2]

/-- Escaping is replacing the backslashes, and then the quotes. -/
theorem escapeLabelChars_eq (cs : List Char) : escapeLabelChars cs =
    (cs.flatMap fun c => if c = '\\' then ['\\', '\\'] else [c]).flatMap
      fun c => if c = '"' then ['\\', '"'] else [c] := by
  induction cs with
  | nil => rfl
  | cons c rest ih =>
    rw [escapeLabelChars, List.flatMap_cons, List.flatMap_append, ← ih]
    by_cases hslash : c = '\\'
    · simp [hslash]
    · by_cases hquote : c = '"'
      · simp [hquote]
      · simp [hslash, hquote]

/-! ### 3. Lines about cells -/

theorem blank_not_mem_activation (a : Activation) : ' ' ∉ a.text.toList := by
  have hnumber := not_mem_decimalChars (c := ' ') (by decide) (by decide)
  obtain ⟨function, context⟩ := a
  cases context with
  | entry => simp [Activation.text, Context.text, decimal, hnumber]
  | call caller block =>
    simp [Activation.text, Context.text, BlockRef.text, decimal, hnumber]

theorem Cell.place_eq_of_text {c d : Cell} {i j : Int} (h : c.text i = d.text j) :
    c.place = d.place := by
  have hsplit : ∀ (c : Cell) (i : Int), ∃ front, ' ' ∉ front ∧
      (c.text i).toList = front ++ ' ' :: (c.place.textChars ++ [']']) := by
    intro c i
    refine ⟨'n' :: decimalChars i ++ '[' :: c.activation.text.toList, ?_, ?_⟩
    · have hnumber := not_mem_decimalChars (c := ' ') (by decide) (by decide) i
      simp [hnumber, blank_not_mem_activation]
    · simp [Cell.text, decimal, Place.text]
  obtain ⟨front, hfront, hc⟩ := hsplit c i
  obtain ⟨front', hfront', hd⟩ := hsplit d j
  rw [h, hd] at hc
  -- the first blank stands before the place: it is the last one from the other end
  have hreversed := congrArg List.reverse hc
  rw [List.reverse_append, List.reverse_append, List.reverse_cons, List.reverse_cons,
    List.append_assoc, List.append_assoc] at hreversed
  obtain ⟨hplace, _⟩ := eq_of_append_cons_eq (mt List.mem_reverse.mp hfront')
    (mt List.mem_reverse.mp hfront) hreversed
  have htext := List.append_cancel_right (List.reverse_injective hplace)
  exact Place.text_inj.mp (congrArg String.ofList htext.symm)

/-- A label is the name of a function, a place and what may trail it. -/
theorem Cell.exists_label (name : Int → String) (c : Cell) : ∃ after, Place.Trailing after ∧
    (c.label name).toList =
      (name c.activation.function).toList ++ ' ' :: (c.place.textChars ++ after) := by
  obtain ⟨⟨function, context⟩, place, variable', drops, objects⟩ := c
  have hbracket : ∀ rest, Place.Trailing (' ' :: '(' :: rest) :=
    fun rest => Or.inr ⟨'(', rest, rfl, Or.inr rfl⟩
  have hat : ∀ rest, Place.Trailing (' ' :: '@' :: rest) :=
    fun rest => Or.inr ⟨'@', rest, rfl, Or.inl rfl⟩
  cases context with
  | entry =>
    by_cases hname : variable' = ""
    · exact ⟨[], Or.inl rfl, by simp [Cell.label, hname, Place.text]⟩
    · exact ⟨_, hbracket (variable'.toList ++ [')']), by simp [Cell.label, hname, Place.text]⟩
  | call caller block =>
    by_cases hname : variable' = ""
    · exact ⟨_, hat ((name caller).toList ++ ":bb".toList ++ decimalChars block),
        by simp [Cell.label, hname, Place.text, decimal]⟩
    · exact ⟨_, hat ((name caller).toList ++ ":bb".toList ++ decimalChars block ++
          " (".toList ++ variable'.toList ++ [')']),
        by simp [Cell.label, hname, Place.text, decimal]⟩

theorem Cell.place_eq_of_label {name : Int → String} {c d : Cell}
    (hfunction : c.activation.function = d.activation.function)
    (h : c.label name = d.label name) : c.place = d.place := by
  obtain ⟨after, hafter, hc⟩ := c.exists_label name
  obtain ⟨after', hafter', hd⟩ := d.exists_label name
  rw [h, hd, hfunction] at hc
  have hline := (List.cons.inj (List.append_cancel_left hc)).2
  exact Place.eq_of_line_eq hafter hafter' hline.symm

/-! ### 4. Whole drawings -/

/-- Whatever the names in a text are, a reader finds these labels in it, and around them a text
    that does not depend on the names. -/
def Draws {N : Type} (text : N → List Char) (labels : N → List (List Char)) : Prop :=
  ∃ code, ∀ (n : N) (front : List Char) (found : List (List Char)),
    Reader.readAll ⟨front, found, .outside⟩ (text n) = ⟨front ++ code, found ++ labels n, .outside⟩

namespace Draws

variable {N : Type} {text text' : N → List Char} {labels labels' : N → List (List Char)}

theorem congr (h : Draws text labels) (htext : ∀ n, text' n = text n)
    (hlabels : ∀ n, labels' n = labels n) : Draws text' labels' := by
  obtain ⟨code, hcode⟩ := h
  refine ⟨code, fun n front found => ?_⟩
  rw [htext, hlabels, hcode]

theorem append (h : Draws text labels) (h' : Draws text' labels') :
    Draws (fun n => text n ++ text' n) fun n => labels n ++ labels' n := by
  obtain ⟨code, hcode⟩ := h
  obtain ⟨code', hcode'⟩ := h'
  refine ⟨code ++ code', fun n front found => ?_⟩
  rw [Reader.readAll_append, hcode, hcode', List.append_assoc, List.append_assoc]

theorem plain {cs : List Char} (h : '"' ∉ cs) :
    Draws (fun _ : N => cs) fun _ => [] := by
  refine ⟨cs, fun _ front found => ?_⟩
  rw [List.append_nil]
  induction cs generalizing front with
  | nil => rw [Reader.readAll_nil, List.append_nil]
  | cons c rest ih =>
    rw [List.mem_cons, not_or] at h
    have hc : Reader.next ⟨front, found, .outside⟩ c = ⟨front ++ [c], found, .outside⟩ := by
      simp [Reader.next, Ne.symm h.1]
    rw [Reader.readAll_cons, hc, ih h.2, List.append_assoc, List.singleton_append]

theorem label {body label : N → List Char} (h : ∀ n, Holds (body n) (label n)) :
    Draws (fun n => '"' :: (body n ++ ['"'])) fun n => [label n] := by
  refine ⟨[], fun n front found => ?_⟩
  have hopen : Reader.next ⟨front, found, .outside⟩ '"' = ⟨front, found, .inside []⟩ := by
    simp [Reader.next]
  rw [Reader.readAll_cons, hopen, Reader.readAll_append, h n]
  simp [Reader.next]

theorem flatMap {α : Type} {text : N → α → List Char} {labels : N → α → List (List Char)}
    (list : List α) (h : ∀ x, Draws (text · x) (labels · x)) :
    Draws (fun n => list.flatMap (text n)) fun n => list.flatMap (labels n) := by
  induction list with
  | nil => exact plain (by decide)
  | cons x rest ih =>
    simp only [List.flatMap_cons]
    exact (h x).append ih

end Draws

theorem mem_intercalate {c : Char} {sep : List Char} : ∀ {list : List (List Char)},
    c ∈ sep.intercalate list → c ∈ sep ∨ ∃ cs ∈ list, c ∈ cs
  | [], h => by simp [List.intercalate] at h
  | [cs], h => Or.inr ⟨cs, List.mem_singleton.mpr rfl, by simpa [List.intercalate] using h⟩
  | cs :: ds :: rest, h => by
    have hcons : sep.intercalate (cs :: ds :: rest) =
        cs ++ (sep ++ sep.intercalate (ds :: rest)) := by
      simp [List.intercalate]
    rw [hcons, List.mem_append, List.mem_append] at h
    rcases h with h | h | h
    · exact Or.inr ⟨cs, List.mem_cons_self .., h⟩
    · exact Or.inl h
    · rcases mem_intercalate h with h | ⟨es, hes, h⟩
      · exact Or.inl h
      · exact Or.inr ⟨es, List.mem_cons_of_mem _ hes, h⟩

theorem harmless_objectList (s : IdSet) : Harmless (objectList s).toList := by
  have hobject : ∀ x, Harmless ('n' :: decimalChars x) :=
    fun x => Harmless.append (show Harmless ['n'] by decide) (harmless_decimalChars x)
  have habsent : ∀ c, c ∉ ", ".toList → (∀ x, c ∉ 'n' :: decimalChars x) →
      c ∉ (objectList s).toList := by
    intro c hcomma hnumber hc
    rw [objectList, String.toList_intercalate, List.map_map] at hc
    rcases mem_intercalate hc with hc | ⟨cs, hcs, hc⟩
    · exact hcomma hc
    · obtain ⟨x, _, rfl⟩ := List.mem_map.mp hcs
      apply hnumber x
      simpa [decimal] using hc
  exact ⟨habsent _ (by decide) fun x => (hobject x).1, habsent _ (by decide) fun x => (hobject x).2⟩

/-- The label of a cell in a drawing.  The line break before its objects is an escape, and is read
    as the letter of this escape. -/
def Cell.drawnLabel (name : Int → String) (id : Int) (c : Cell) : String :=
  "n" ++ decimal id ++ ": " ++ c.label name ++
    if c.objects.isEmpty then "" else "n\x7b" ++ objectList c.objects ++ "\x7d"

/-- The labels of a drawing, in the order of reading. -/
def Graph.drawnLabels (g : Graph) (label : String) (name : Int → String) : List (List Char) :=
  label.toList :: g.activations.flatMap fun a =>
    a.text.toList :: (g.cellsOf a).map fun (id, c) => (c.drawnLabel name id).toList

/-- The names that a drawing shows: its label, and the names of the functions. -/
abbrev Names := String × (Int → String)

/-- What stands behind the name of a cell in a label: its objects, on a line of their own. -/
theorem holds_objects (s : IdSet) :
    Holds (if s.isEmpty then "" else "\\n\x7b" ++ objectList s ++ "\x7d").toList
      (if s.isEmpty then "" else "n\x7b" ++ objectList s ++ "\x7d").toList := by
  by_cases hempty : s.isEmpty = true
  · rw [if_pos hempty, if_pos hempty]
    exact Holds.nil
  · rw [if_neg hempty, if_neg hempty]
    have hlist := (harmless_objectList s).append (show Harmless ['\x7d'] by decide)
    have hopen := (show Harmless ['\x7b'] by decide).append hlist
    simpa using (Holds.escapedChar 'n').append (Holds.plain hopen)

theorem Cell.holds_label (name : Int → String) (id : Int) (c : Cell) :
    Holds (("n" ++ decimal id ++ ": ").toList ++ (escapeLabel (c.label name)).toList ++
        (if c.objects.isEmpty then "" else "\\n\x7b" ++ objectList c.objects ++ "\x7d").toList)
      (c.drawnLabel name id).toList := by
  have hnumber : Harmless ("n" ++ decimal id ++ ": ").toList := by
    have hid := harmless_decimalChars id
    simpa [Harmless, decimal] using hid
  have hname := holds_escapeLabel (c.label name)
  have hwhole := ((Holds.plain hnumber).append hname).append (holds_objects c.objects)
  simpa only [Cell.drawnLabel, String.toList_append] using hwhole

namespace Graph

theorem draws_cellDrawing (g : Graph) (id : Int) (c : Cell) :
    Draws (fun n : Names => (g.cellDrawing n.2 id c).toList)
      fun n => [(c.drawnLabel n.2 id).toList] := by
  have hfront : '"' ∉ (decimal id ++ " [label=").toList := by
    have hid := (harmless_decimalChars id).2
    simpa [decimal] using hid
  have hback : '"' ∉ (" shape=rect" ++ (if c.isObject then " peripheries=2" else "") ++
      (if id ∈ g.multiDrop then " color=red" else "") ++ "];\n").toList := by
    split <;> split <;> decide
  have hlabel := Draws.label fun n : Names => c.holds_label n.2 id
  apply (((Draws.plain hfront).append hlabel).append (Draws.plain hback)).congr
  · intro n
    simp [cellDrawing]
  · intro n
    rfl

theorem draws_clusterDrawing (g : Graph) (index : Nat) (a : Activation) :
    Draws (fun n : Names => (g.clusterDrawing n.2 index a).toList)
      fun n => a.text.toList :: (g.cellsOf a).map fun (id, c) => (c.drawnLabel n.2 id).toList := by
  have hfront : '"' ∉ ("subgraph cluster_" ++ decimal index ++ " \x7b\nlabel=").toList := by
    have hindex := (harmless_decimalChars index).2
    simpa [decimal] using hindex
  have hlabel := Draws.label fun _ : Names => holds_escapeLabel a.text
  have hline : '"' ∉ ";\n".toList := by decide
  have hcells := Draws.flatMap (g.cellsOf a) fun x => g.draws_cellDrawing x.1 x.2
  have hback : '"' ∉ "\x7d // subgraph\n".toList := by decide
  have hwhole := ((((Draws.plain hfront).append hlabel).append (Draws.plain hline)).append
    hcells).append (Draws.plain hback)
  refine hwhole.congr ?_ ?_
  · intro n
    unfold clusterDrawing
    simp [String.toList_join, List.flatMap_map]
  · intro n
    simp [List.map_eq_flatMap]

theorem draws_edgeDrawing (e : Edge) :
    Draws (fun _ : Names => (edgeDrawing e).toList) fun _ => [] := by
  apply Draws.plain
  have hsource := (harmless_decimalChars e.source).2
  have htarget := (harmless_decimalChars e.target).2
  have hstyle : '"' ∉ (if e.isDeref then " [style=dashed]" else "").toList := by
    split <;> decide
  simp [edgeDrawing, decimal, hsource, htarget, hstyle]

theorem draws_drawing (g : Graph) :
    Draws (fun n : Names => (g.drawing n.1 n.2).toList) fun n => g.drawnLabels n.1 n.2 := by
  have hfront : '"' ∉
      ("digraph \x7b // start of digraph\nrankdir = LR;\n" ++ "graph[label=").toList := by
    decide
  have hlabel := Draws.label fun n : Names => holds_escapeLabel n.1
  have hline : '"' ∉ "];\n".toList := by decide
  have hclusters := Draws.flatMap g.activations.zipIdx fun x => g.draws_clusterDrawing x.2 x.1
  have hedges := Draws.flatMap g.allEdges draws_edgeDrawing
  have hback : '"' ∉ "\x7d // end of digraph\n".toList := by decide
  have hwhole := (((((Draws.plain hfront).append hlabel).append (Draws.plain hline)).append
    hclusters).append hedges).append (Draws.plain hback)
  refine hwhole.congr ?_ ?_
  · intro n
    unfold drawing
    simp [String.toList_join, List.flatMap_map]
  · intro n
    have hplain : (g.allEdges.flatMap fun _ => ([] : List (List Char))) = [] :=
      List.flatMap_eq_nil_iff.mpr fun _ _ => rfl
    simp only [drawnLabels, hplain, List.nil_append, List.append_nil, List.singleton_append]
    rw [← List.zipIdx_map_fst 0 g.activations, List.flatMap_map, List.zipIdx_map_fst]

end Graph

/-! ### 5. No label is broken, and no two places look alike -/

/-- Escaping, which is replacing the backslashes and then the quotes, keeps a text in its label:
    whoever reads it there is in an escape at each quote, is not in an escape at the end, and has
    found the text.  So two texts are told apart when they are escaped, and in a drawing the labels
    are those that were put in, whatever the functions and variables are called. -/
theorem labels_unbroken :
    (∀ s : String, (escapeLabel s).toList =
      (s.toList.flatMap fun c => if c = '\\' then ['\\', '\\'] else [c]).flatMap
        fun c => if c = '"' then ['\\', '"'] else [c]) ∧
    (∀ (s : String) (code : List Char) (labels : List (List Char)) (front : List Char),
      Reader.readAll ⟨code, labels, .inside front⟩ (escapeLabel s).toList =
        ⟨code, labels, .inside (front ++ s.toList)⟩) ∧
    (∀ (s : String) (code : List Char) (labels : List (List Char)) (front before after : List Char),
      (escapeLabel s).toList = before ++ '"' :: after →
      ∃ text, Reader.readAll ⟨code, labels, .inside front⟩ before = ⟨code, labels, .escaped text⟩) ∧
    (∀ s t : String, escapeLabel s = escapeLabel t ↔ s = t) ∧
    ∀ g : Graph, ∃ code, ∀ (label : String) (name : Int → String),
      Reader.readAll {} (g.drawing label name).toList =
        ⟨code, g.drawnLabels label name, .outside⟩ := by
  refine ⟨fun s => ?_, fun s => ?_, fun s code labels front before after h => ?_,
    fun s t => escapeLabel_inj, fun g => ?_⟩
  · rw [escapeLabel, String.toList_ofList, escapeLabelChars_eq]
  · exact holds_escapeLabel s
  · rw [escapeLabel, String.toList_ofList] at h
    exact escaped_of_quote code labels h front
  · obtain ⟨code, hcode⟩ := g.draws_drawing
    exact ⟨code, fun label name => hcode (label, name) [] []⟩

theorem labels_unbroken_quote :
    ∃ text, Reader.readAll ⟨[], [], .inside []⟩ ['\\', '\\', '\\'] = ⟨[], [], .escaped text⟩ :=
  labels_unbroken.2.2.1 "\\\"" [] [] [] ['\\', '\\', '\\'] [] (by decide)

/-- The compact notation of a place, the text of a cell and the label of a cell each tell the
    place; the label does so among the cells of one function. -/
theorem text_tells_places :
    (∀ p q : Place, p.text = q.text → p = q) ∧
    (∀ (c d : Cell) (i j : Int), c.text i = d.text j → c.place = d.place) ∧
    ∀ (name : Int → String) (c d : Cell), c.activation.function = d.activation.function →
      (c.label name = d.label name ∨ escapeLabel (c.label name) = escapeLabel (d.label name)) →
      c.place = d.place := by
  refine ⟨fun p q => Place.text_inj.mp, fun c d i j => Cell.place_eq_of_text, ?_⟩
  rintro name c d hfunction (h | h)
  · exact Cell.place_eq_of_label hfunction h
  · exact Cell.place_eq_of_label hfunction (escapeLabel_inj.mp h)

/-- A label does not tell two callers of one name apart, but it tells the place. -/
theorem text_tells_places_callers :
    let c : Cell := { activation := ⟨1, .call 2 3⟩, place := ⟨1, [.deref, .field 0]⟩ }
    let d : Cell := { activation := ⟨1, .call 4 3⟩, place := ⟨1, [.deref, .field 0]⟩ }
    c ≠ d ∧ c.label (fun _ => "f") = d.label (fun _ => "f") ∧ c.place = d.place :=
  ⟨by decide, rfl, text_tells_places.2.2 (fun _ => "f") _ _ rfl (Or.inl rfl)⟩

end DropFlow.Flow
