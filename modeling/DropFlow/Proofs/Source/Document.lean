/-
  DropFlow/Proofs/Source/Document.lean
  ====================================
  Source files survive being written and read again.

  Every number of a file that was read fits a signed word, and nothing else can go wrong
  when it is written: the names of steps and of kinds are canonical, and a field that is
  left out has the value with which reading starts.  `Faithful` says both for one type, and
  each type of a file is faithful because its parts are.  The text of a file is not looked
  at: all that counts is that the library reads it as the tree for which it was printed.
-/
import DropFlow.Proofs.Program.Store
import DropFlow.Proofs.Yaml.Decoding
import DropFlow.Source.Document

namespace DropFlow

open DropFlow.Text DropFlow.Yaml

/-! ### 1. Faithful readers -/

/-- A reader that gives only values with a property, and that recovers every such value from the
    tree of the value. -/
structure Faithful {α : Type} (P : α → Prop) (reader : FieldReader α) (fresh : α)
    (tree : α → Tree) : Prop where
  start : P fresh
  keeps : Keeps P reader
  recovers : ∀ a, P a → Recovers reader fresh (tree a) a

section Fields

variable {α β : Type} {name : String} {fields : List (Yaml.Field α)} {rest : List (String × Tree)}
  {a c : α}

/-- A field that is always written. -/
theorem Yaml.Refill.always {reader : FieldReader β} {get : α → β} {set : α → β → α} {t : Tree}
    {b : β} (h : Recovers reader (get a) t b) (hrest : Refill fields rest (set a b) c) :
    Refill (.of name reader get set :: fields) ((name, t) :: rest) a c := by
  refine .cons (.written ?_) hrest
  intro n hn
  simp only [Yaml.Field.of, h n hn, pure_bind]

/-- A field that is left out has the value with which reading starts. -/
theorem Yaml.Refill.optional [DecidableEq β] {reader : FieldReader β} {get : α → β}
    {set : α → β → α} {empty : β} {tree : β → Tree} {b : β} (hempty : set a empty = a)
    (h : Recovers reader (get a) (tree b) b) (hrest : Refill fields rest (set a b) c) :
    Refill (.of name reader get set :: fields) (optional name empty tree b ++ rest) a c := by
  by_cases hb : b = empty
  · rw [hb, hempty] at hrest
    rw [DropFlow.optional, if_pos hb]
    exact .cons .skipped hrest
  · rw [DropFlow.optional, if_neg hb]
    exact .always h hrest

theorem Yaml.Refill.whenPresent {reader : FieldReader (Option β)} {get : α → Option β}
    {set : α → Option β → α} {tree : β → Tree} {o : Option β} (hnone : set a none = a)
    (h : ∀ b, o = some b → Recovers reader (get a) (tree b) (some b))
    (hrest : Refill fields rest (set a o) c) :
    Refill (.of name reader get set :: fields) (whenPresent name tree o ++ rest) a c := by
  cases o with
  | none =>
    rw [hnone] at hrest
    exact .cons .skipped hrest
  | some b => exact .always (h b rfl) hrest

theorem Yaml.Refill.unlessEmpty {reader : FieldReader (List β)} {get : α → List β}
    {set : α → List β → α} {tree : β → Tree} {bs : List β} (hempty : set a [] = a)
    (h : Recovers reader (get a) (.list (bs.map tree)) bs)
    (hrest : Refill fields rest (set a bs) c) :
    Refill (.of name reader get set :: fields) (unlessEmpty name tree bs ++ rest) a c := by
  cases bs with
  | nil =>
    rw [hempty] at hrest
    exact .cons .skipped hrest
  | cons b bs => exact .always h hrest

/-- The names of the fields of all types of a file. -/
def fieldNames : List String :=
  ["local", "projection", "kind", "name", "type", "needs-drop", "file", "line", "col", "end-line",
    "end-col", "place", "operand", "operands", "left", "rvalue", "loc", "callee", "candidates",
    "args", "destination", "id", "successors", "cleanup", "statements", "call", "drop",
    "entry-block", "locals", "blocks", "functions", "suppressions"]

theorem legible_fieldNames : Legible fieldNames := by
  decide +kernel

/-- The parts that are written for the fields stand one after the other, up to an empty end. -/
theorem recovers_fields {type : String} {written : List (String × Tree)}
    (hdistinct : (fields.map Yaml.Field.name).Nodup)
    (hnames : fields.map Yaml.Field.name ⊆ fieldNames) (h : Refill fields (written ++ []) a c) :
    Recovers (readRecord type fields) a (.fields written) c := by
  rw [List.append_nil] at h
  exact recovers_readRecord ⟨hdistinct, fun hmerge => legible_fieldNames.2 (hnames hmerge)⟩ h

end Fields

namespace Faithful

variable {α : Type} {P : α → Prop} {reader : FieldReader α} {fresh : α} {tree : α → Tree}
  {type : String}

theorem keeps_list (h : Faithful P reader fresh tree) :
    Keeps (fun as => ∀ a ∈ as, P a) (readList type reader fresh) :=
  keeps_readList h.keeps h.start

theorem keeps_option (h : Faithful P reader fresh tree) :
    Keeps (fun o => ∀ a, o = some a → P a) (readOption reader fresh) :=
  keeps_readOption h.keeps h.start

theorem recovers_list (h : Faithful P reader fresh tree) {as : List α} (has : ∀ a ∈ as, P a)
    (old : List α) : Recovers (readList type reader fresh) old (.list (as.map tree)) as :=
  recovers_readList (fun a ha => h.recovers a (has a ha)) old

end Faithful

theorem isWord_zero : IsWord 0 := by
  simp only [IsWord]
  decide

theorem faithful_int (type : String) : Faithful IsWord (readInt type) 0 Tree.int :=
  ⟨isWord_zero, keeps_readInt type, fun _ hi => recovers_readInt hi type 0⟩

theorem faithful_text : Faithful (fun _ => True) readText "" Tree.text :=
  ⟨trivial, keeps_any _, fun s _ => recovers_readText s ""⟩

/-! ### 2. Places, types and locations -/

theorem faithful_projection : Faithful Projection.Fits readProjection .deref
    (fun s => Tree.text s.text) where
  start := trivial
  keeps := by
    apply keeps_readWith
    intro text s h
    split at h
    · cases h
      exact Projection.fits_of_parse ‹_›
    · exact nomatch h
  recovers := by
    intro s hs
    apply recovers_readWith
    rw [Projection.parse_text hs]

/-- The numbers of a place are words. -/
structure Place.Fits (p : Place) : Prop where
  slot : IsWord p.slot
  steps : ∀ s ∈ p.steps, s.Fits

theorem faithful_place : Faithful Place.Fits readPlace ⟨0, []⟩ Place.toTree where
  start := ⟨isWord_zero, by simp⟩
  keeps := by
    apply keeps_readRecord
    simp only [List.forall_mem_cons]
    refine ⟨?_, ?_, List.forall_mem_nil _⟩
    · exact .of (keeps_readInt _) (fun _ h => h.slot) fun _ _ h hv => ⟨hv, h.steps⟩
    · exact .of faithful_projection.keeps_list (fun _ h => h.steps)
        fun _ _ h hv => ⟨h.slot, hv⟩
  recovers := by
    intro p hp
    apply recovers_fields (by simp [Yaml.Field.of]) (by simp [Yaml.Field.of, fieldNames])
    simp only [List.cons_append, List.nil_append]
    exact .always (recovers_readInt hp.slot _ _)
      (.unlessEmpty rfl (faithful_projection.recovers_list hp.steps _) .nil)

theorem TypeKind.ofName_name (k : TypeKind) : TypeKind.ofName k.name = k := by
  cases k <;> rfl

theorem recovers_type (t : PlaceType) : Recovers readType {} t.toTree t := by
  apply recovers_fields (by simp [Yaml.Field.of]) (by simp [Yaml.Field.of, fieldNames])
  simp only [List.cons_append, List.nil_append]
  refine .always ?_ (.optional rfl (recovers_readText _ _) .nil)
  exact recovers_readWith (by rw [TypeKind.ofName_name]) _

theorem faithful_slotDecl : Faithful (fun d => IsWord d.slot) readSlotDecl {} SlotDecl.toTree where
  start := isWord_zero
  keeps := by
    apply keeps_readRecord
    simp only [List.forall_mem_cons]
    refine ⟨?_, ?_, ?_, ?_, List.forall_mem_nil _⟩
    · exact .of (keeps_readInt _) (fun _ h => h) fun _ _ _ hv => hv
    · exact .free fun _ _ h => h
    · exact .free fun _ _ h => h
    · exact .free fun _ _ h => h
  recovers := by
    intro d hd
    apply recovers_fields (by simp [Yaml.Field.of]) (by simp [Yaml.Field.of, fieldNames])
    simp only [List.append_assoc, List.cons_append, List.nil_append]
    exact .always (recovers_readInt hd _ _) (.always (recovers_type _)
      (.optional rfl (recovers_readBool _ _) (.optional rfl (recovers_readText _ _) .nil)))

/-- The numbers of a location are words. -/
structure Location.Fits (l : Location) : Prop where
  line : IsWord l.line
  column : IsWord l.column
  endLine : IsWord l.endLine
  endColumn : IsWord l.endColumn

theorem faithful_location : Faithful Location.Fits readLocation {} Location.toTree where
  start := ⟨isWord_zero, isWord_zero, isWord_zero, isWord_zero⟩
  keeps := by
    apply keeps_readRecord
    simp only [List.forall_mem_cons]
    refine ⟨?_, ?_, ?_, ?_, ?_, List.forall_mem_nil _⟩
    · exact .free fun _ _ h => ⟨h.line, h.column, h.endLine, h.endColumn⟩
    · exact .of (keeps_readInt _) (fun _ h => h.line) fun _ _ h hv => { h with line := hv }
    · exact .of (keeps_readInt _) (fun _ h => h.column)
        fun _ _ h hv => { h with column := hv }
    · exact .of (keeps_readInt _) (fun _ h => h.endLine)
        fun _ _ h hv => { h with endLine := hv }
    · exact .of (keeps_readInt _) (fun _ h => h.endColumn)
        fun _ _ h hv => { h with endColumn := hv }
  recovers := by
    intro l hl
    apply recovers_fields (by simp [Yaml.Field.of]) (by simp [Yaml.Field.of, fieldNames])
    simp only [List.append_assoc, List.cons_append, List.nil_append]
    exact .always (recovers_readText _ _) (.always (recovers_readInt hl.line _ _)
      (.always (recovers_readInt hl.column _ _)
        (.optional rfl (recovers_readInt hl.endLine _ _)
          (.optional rfl (recovers_readInt hl.endColumn _ _) .nil))))

namespace Source

theorem faithful_suppression :
    Faithful (fun s => IsWord s.line) readSuppression {} Suppression.toTree where
  start := isWord_zero
  keeps := by
    apply keeps_readRecord
    simp only [List.forall_mem_cons]
    refine ⟨?_, ?_, List.forall_mem_nil _⟩
    · exact .free fun _ _ h => h
    · exact .of (keeps_readInt _) (fun _ h => h) fun _ _ _ hv => hv
  recovers := by
    intro s hs
    apply recovers_fields (by simp [Yaml.Field.of]) (by simp [Yaml.Field.of, fieldNames])
    simp only [List.cons_append, List.nil_append]
    exact .always (recovers_readText _ _) (.always (recovers_readInt hs _ _) .nil)

/-! ### 3. Statements and terminators -/

/-- The numbers of an operand are words. -/
def Operand.Fits (o : Operand) : Prop := ∀ p, o.place = some p → p.Fits

theorem faithful_operand : Faithful Operand.Fits readOperand {} Operand.toTree where
  start := by simp [Operand.Fits]
  keeps := by
    apply keeps_readRecord
    simp only [List.forall_mem_cons]
    refine ⟨?_, ?_, ?_, List.forall_mem_nil _⟩
    · exact .free fun _ _ h => h
    · exact .of faithful_place.keeps_option (fun _ h => h) fun _ _ _ hv => hv
    · exact .free fun _ _ h => h
  recovers := by
    intro o ho
    apply recovers_fields (by simp [Yaml.Field.of]) (by simp [Yaml.Field.of, fieldNames])
    simp only [List.append_assoc, List.cons_append, List.nil_append]
    refine .always (recovers_readText _ _) ?_
    refine .whenPresent rfl ?_ (.optional rfl (recovers_type _) .nil)
    exact fun p hp => recovers_readOption (faithful_place.recovers p (ho p hp))

/-- The numbers of a right-hand side are words. -/
structure Rvalue.Fits (r : Rvalue) : Prop where
  place : ∀ p, r.place = some p → p.Fits
  operand : ∀ o, r.operand = some o → o.Fits
  operands : ∀ o ∈ r.operands, o.Fits

theorem faithful_rvalue : Faithful Rvalue.Fits readRvalue {} Rvalue.toTree where
  start := ⟨by simp, by simp, by simp⟩
  keeps := by
    apply keeps_readRecord
    simp only [List.forall_mem_cons]
    refine ⟨?_, ?_, ?_, ?_, ?_, List.forall_mem_nil _⟩
    · exact .free fun _ _ h => ⟨h.place, h.operand, h.operands⟩
    · exact .of faithful_place.keeps_option (fun _ h => h.place)
        fun _ _ h hv => { h with place := hv }
    · exact .free fun _ _ h => ⟨h.place, h.operand, h.operands⟩
    · exact .of faithful_operand.keeps_option (fun _ h => h.operand)
        fun _ _ h hv => { h with operand := hv }
    · exact .of faithful_operand.keeps_list (fun _ h => h.operands)
        fun _ _ h hv => { h with operands := hv }
  recovers := by
    intro r hr
    apply recovers_fields (by simp [Yaml.Field.of]) (by simp [Yaml.Field.of, fieldNames])
    simp only [List.append_assoc, List.cons_append, List.nil_append]
    refine .always (recovers_readText _ _) (.whenPresent rfl ?_ (.optional rfl (recovers_type _)
      (.whenPresent rfl ?_ (.unlessEmpty rfl (faithful_operand.recovers_list hr.operands _) .nil))))
    · exact fun p hp => recovers_readOption (faithful_place.recovers p (hr.place p hp))
    · exact fun o ho => recovers_readOption (faithful_operand.recovers o (hr.operand o ho))

/-- The numbers of a statement are words. -/
structure Statement.Fits (s : Statement) : Prop where
  left : s.left.Fits
  rvalue : s.rvalue.Fits
  location : s.location.Fits

theorem faithful_statement : Faithful Statement.Fits readStatement {} Statement.toTree where
  start := ⟨faithful_place.start, faithful_rvalue.start, faithful_location.start⟩
  keeps := by
    apply keeps_readRecord
    simp only [List.forall_mem_cons]
    refine ⟨?_, ?_, ?_, List.forall_mem_nil _⟩
    · exact .of faithful_place.keeps (fun _ h => h.left) fun _ _ h hv => { h with left := hv }
    · exact .of faithful_rvalue.keeps (fun _ h => h.rvalue) fun _ _ h hv => { h with rvalue := hv }
    · exact .of faithful_location.keeps (fun _ h => h.location)
        fun _ _ h hv => { h with location := hv }
  recovers := by
    intro s hs
    apply recovers_fields (by simp [Yaml.Field.of]) (by simp [Yaml.Field.of, fieldNames])
    simp only [List.cons_append, List.nil_append]
    exact .always (faithful_place.recovers _ hs.left)
      (.always (faithful_rvalue.recovers _ hs.rvalue)
        (.optional rfl (faithful_location.recovers _ hs.location) .nil))

/-- The numbers of a call are words. -/
structure Call.Fits (c : Call) : Prop where
  arguments : ∀ o ∈ c.arguments, o.Fits
  destination : ∀ p, c.destination = some p → p.Fits
  location : c.location.Fits

theorem faithful_call : Faithful Call.Fits readCall {} Call.toTree where
  start := ⟨by simp, by simp, faithful_location.start⟩
  keeps := by
    apply keeps_readRecord
    simp only [List.forall_mem_cons]
    refine ⟨?_, ?_, ?_, ?_, ?_, List.forall_mem_nil _⟩
    · exact .free fun _ _ h => ⟨h.arguments, h.destination, h.location⟩
    · exact .free fun _ _ h => ⟨h.arguments, h.destination, h.location⟩
    · exact .of faithful_operand.keeps_list (fun _ h => h.arguments)
        fun _ _ h hv => { h with arguments := hv }
    · exact .of faithful_place.keeps_option (fun _ h => h.destination)
        fun _ _ h hv => { h with destination := hv }
    · exact .of faithful_location.keeps (fun _ h => h.location)
        fun _ _ h hv => { h with location := hv }
  recovers := by
    intro c hc
    apply recovers_fields (by simp [Yaml.Field.of]) (by simp [Yaml.Field.of, fieldNames])
    simp only [List.append_assoc, List.cons_append, List.nil_append]
    refine .always (recovers_readText _ _)
      (.unlessEmpty rfl (faithful_text.recovers_list (fun _ _ => trivial) _)
        (.unlessEmpty rfl (faithful_operand.recovers_list hc.arguments _)
          (.whenPresent rfl ?_
            (.optional rfl (faithful_location.recovers _ hc.location) .nil))))
    exact fun p hp => recovers_readOption (faithful_place.recovers p (hc.destination p hp))

/-- The numbers of a destructor are words. -/
structure Drop.Fits (d : Drop) : Prop where
  place : d.place.Fits
  location : d.location.Fits

theorem faithful_drop : Faithful Drop.Fits readDrop {} Drop.toTree where
  start := ⟨faithful_place.start, faithful_location.start⟩
  keeps := by
    apply keeps_readRecord
    simp only [List.forall_mem_cons]
    refine ⟨?_, ?_, List.forall_mem_nil _⟩
    · exact .of faithful_place.keeps (fun _ h => h.place) fun _ _ h hv => { h with place := hv }
    · exact .of faithful_location.keeps (fun _ h => h.location)
        fun _ _ h hv => { h with location := hv }
  recovers := by
    intro d hd
    apply recovers_fields (by simp [Yaml.Field.of]) (by simp [Yaml.Field.of, fieldNames])
    simp only [List.cons_append, List.nil_append]
    exact .always (faithful_place.recovers _ hd.place)
      (.optional rfl (faithful_location.recovers _ hd.location) .nil)

/-! ### 4. Blocks, functions and files -/

/-- The numbers of a block are words. -/
structure Block.Fits (b : Block) : Prop where
  id : IsWord b.id
  successors : ∀ i ∈ b.successors, IsWord i
  statements : ∀ s ∈ b.statements, s.Fits
  call : ∀ c, b.call = some c → c.Fits
  drop : ∀ d, b.drop = some d → d.Fits

theorem faithful_block : Faithful Block.Fits readBlock {} Block.toTree where
  start := ⟨isWord_zero, by simp, by simp, by simp, by simp⟩
  keeps := by
    apply keeps_readRecord
    simp only [List.forall_mem_cons]
    refine ⟨?_, ?_, ?_, ?_, ?_, ?_, List.forall_mem_nil _⟩
    · exact .of (keeps_readInt _) (fun _ h => h.id) fun _ _ h hv => { h with id := hv }
    · exact .of (faithful_int _).keeps_list (fun _ h => h.successors)
        fun _ _ h hv => { h with successors := hv }
    · exact .free fun _ _ h => ⟨h.id, h.successors, h.statements, h.call, h.drop⟩
    · exact .of faithful_statement.keeps_list (fun _ h => h.statements)
        fun _ _ h hv => { h with statements := hv }
    · exact .of faithful_call.keeps_option (fun _ h => h.call) fun _ _ h hv => { h with call := hv }
    · exact .of faithful_drop.keeps_option (fun _ h => h.drop) fun _ _ h hv => { h with drop := hv }
  recovers := by
    intro b hb
    apply recovers_fields (by simp [Yaml.Field.of]) (by simp [Yaml.Field.of, fieldNames])
    simp only [List.append_assoc, List.cons_append, List.nil_append]
    refine .always (recovers_readInt hb.id _ _)
      (.unlessEmpty rfl ((faithful_int _).recovers_list hb.successors _)
        (.optional rfl (recovers_readBool _ _)
          (.unlessEmpty rfl (faithful_statement.recovers_list hb.statements _)
            (.whenPresent rfl ?_ (.whenPresent rfl ?_ .nil)))))
    · exact fun c hc => recovers_readOption (faithful_call.recovers c (hb.call c hc))
    · exact fun d hd => recovers_readOption (faithful_drop.recovers d (hb.drop d hd))

/-- The numbers of a function are words. -/
structure Function.Fits (f : Function) : Prop where
  entry : IsWord f.entry
  slots : ∀ d ∈ f.slots, IsWord d.slot
  blocks : ∀ b ∈ f.blocks, b.Fits

theorem faithful_function : Faithful Function.Fits readFunction {} Function.toTree where
  start := ⟨isWord_zero, by simp, by simp⟩
  keeps := by
    apply keeps_readRecord
    simp only [List.forall_mem_cons]
    refine ⟨?_, ?_, ?_, ?_, List.forall_mem_nil _⟩
    · exact .free fun _ _ h => ⟨h.entry, h.slots, h.blocks⟩
    · exact .of (keeps_readInt _) (fun _ h => h.entry) fun _ _ h hv => { h with entry := hv }
    · exact .of faithful_slotDecl.keeps_list (fun _ h => h.slots)
        fun _ _ h hv => { h with slots := hv }
    · exact .of faithful_block.keeps_list (fun _ h => h.blocks)
        fun _ _ h hv => { h with blocks := hv }
  recovers := by
    intro f hf
    apply recovers_fields (by simp [Yaml.Field.of]) (by simp [Yaml.Field.of, fieldNames])
    simp only [List.append_assoc, List.cons_append, List.nil_append]
    exact .always (recovers_readText _ _) (.optional rfl (recovers_readInt hf.entry _ _)
      (.unlessEmpty rfl (faithful_slotDecl.recovers_list hf.slots _)
        (.unlessEmpty rfl (faithful_block.recovers_list hf.blocks _) .nil)))

/-- The numbers of a file are words. -/
structure File.Fits (f : File) : Prop where
  functions : ∀ g ∈ f.functions, g.Fits
  suppressions : ∀ s ∈ f.suppressions, IsWord s.line

theorem faithful_file : Faithful File.Fits readFile {} File.toTree where
  start := ⟨by simp, by simp⟩
  keeps := by
    apply keeps_readRecord
    simp only [List.forall_mem_cons]
    refine ⟨?_, ?_, List.forall_mem_nil _⟩
    · exact .of faithful_function.keeps_list (fun _ h => h.functions)
        fun _ _ h hv => { h with functions := hv }
    · exact .of faithful_suppression.keeps_list (fun _ h => h.suppressions)
        fun _ _ h hv => { h with suppressions := hv }
  recovers := by
    intro f hf
    apply recovers_fields (by simp [Yaml.Field.of]) (by simp [Yaml.Field.of, fieldNames])
    simp only [List.cons_append, List.nil_append]
    exact .always (faithful_function.recovers_list hf.functions _)
      (.unlessEmpty rfl (faithful_suppression.recovers_list hf.suppressions _) .nil)

/-- **Files survive being written.**  Every file that can be read with a library is recovered,
    with all its parts, from every document that shows the tree of the file; and so the library
    reads it again from its own text, if it reads the text as a document that shows the tree for
    which it printed it. -/
theorem decode_encode {yaml : Library} {text : String} {f : File}
    (h : File.decode text yaml = .ok f) :
    (∀ doc : Document, doc.root.shows f.toTree = true →
      decodeDocument true readFile {} doc = .ok f) ∧
    (yaml.Restores 2 f.toTree → File.decode (f.encode yaml) yaml = .ok f) := by
  have hfits : f.Fits := of_decodeText faithful_file.keeps faithful_file.start h
  have hrecovers := faithful_file.recovers f hfits
  exact ⟨fun _ hshows => hrecovers.decodeDocument hshows true,
    fun hyaml => hrecovers.decodeText hyaml true⟩

/-- A file that spells a number, a name and a step in an unusual way. -/
def lenientText : String :=
  "functions: [\x7bname: !!binary aGVsbG8=, " ++
    "blocks: [\x7bdrop: \x7bplace: \x7blocal: 0x2,projection: ['*']\x7d\x7d\x7d]\x7d]"

def lenientFile : File where
  functions := [{ name := "hello", blocks := [{ drop := some { place := ⟨2, [.deref]⟩ } }] }]

set_option maxRecDepth 100000 in
theorem decode_encode_lenient : File.decode lenientText = .ok lenientFile ∧
    Library.own.Restores 2 lenientFile.toTree ∧
    File.decode lenientFile.encode = .ok lenientFile := by
  have hdecode : File.decode lenientText = .ok lenientFile := eq_ok_of_toOption (by decide +kernel)
  have hyaml : Library.own.Restores 2 lenientFile.toTree := by
    have hshows : ((Document.read? lenientFile.encode).join.any
        (·.root.shows lenientFile.toTree)) = true := by decide +kernel
    obtain ⟨doc, hdoc, hshown⟩ := (Option.any_eq_true _ _).mp hshows
    exact ⟨doc, Option.join_eq_some_iff.mp hdoc, hshown⟩
  exact ⟨hdecode, hyaml, (decode_encode hdecode).2 hyaml⟩

end Source

end DropFlow
