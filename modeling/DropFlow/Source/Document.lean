/-
  DropFlow/Source/Document.lean
  =============================
  Source files as YAML documents, in both directions.

  Every type is a mapping with fixed fields.  Reading starts from the empty value of a
  type, so that a field that is not written has the empty value; writing leaves out
  the optional fields that have it.
-/
import DropFlow.Source
import DropFlow.Text.Lower
import DropFlow.Yaml.Decoding

namespace DropFlow

open DropFlow.Text DropFlow.Yaml

/-! ### 1. Reading -/

/-- A kind of type by its name, in any case; every other name is a plain type. -/
def TypeKind.ofName (s : String) : TypeKind :=
  let name := lower s
  if name = "unit" ∨ name = "()" then .unit
  else if name = "raw-pointer" ∨ name = "rawptr" ∨ name = "ptr" then .rawPointer
  else if name = "reference" ∨ name = "ref" then .reference
  else .plain

def readTypeKind : FieldReader TypeKind :=
  readWith "type kind should be a string" fun s => .ok (TypeKind.ofName s)

def readProjection : FieldReader Projection :=
  readWith "projection should be a string" fun s =>
    match Projection.parse s with
    | .ok p => .ok p
    | .error e => .error e.message

def readPlace : FieldReader Place := readRecord "ir.AccessPath" [
  .of "local" (readInt "ir.Local") (·.slot) (fun p v => { p with slot := v }),
  .of "projection" (readList "[]ir.Projection" readProjection .deref) (·.steps)
    (fun p v => { p with steps := v })]

def readType : FieldReader PlaceType := readRecord "ir.Type" [
  .of "kind" readTypeKind (·.kind) (fun t v => { t with kind := v }),
  .of "name" readText (·.name) (fun t v => { t with name := v })]

def readSlotDecl : FieldReader SlotDecl := readRecord "ir.LocalDecl" [
  .of "local" (readInt "ir.Local") (·.slot) (fun d v => { d with slot := v }),
  .of "type" readType (·.type) (fun d v => { d with type := v }),
  .of "needs-drop" readBool (·.needsDrop) (fun d v => { d with needsDrop := v }),
  .of "name" readText (·.name) (fun d v => { d with name := v })]

def readLocation : FieldReader Location := readRecord "ir.Location" [
  .of "file" readText (·.file) (fun l v => { l with file := v }),
  .of "line" (readInt "int") (·.line) (fun l v => { l with line := v }),
  .of "col" (readInt "int") (·.column) (fun l v => { l with column := v }),
  .of "end-line" (readInt "int") (·.endLine) (fun l v => { l with endLine := v }),
  .of "end-col" (readInt "int") (·.endColumn) (fun l v => { l with endColumn := v })]

namespace Source

def readOperand : FieldReader Operand := readRecord "ir.OperandSpec" [
  .of "kind" readText (·.kind) (fun o v => { o with kind := v }),
  .of "place" (readOption readPlace ⟨0, []⟩) (·.place) (fun o v => { o with place := v }),
  .of "type" readType (·.type) (fun o v => { o with type := v })]

def readRvalue : FieldReader Rvalue := readRecord "ir.RvalueSpec" [
  .of "kind" readText (·.kind) (fun r v => { r with kind := v }),
  .of "place" (readOption readPlace ⟨0, []⟩) (·.place) (fun r v => { r with place := v }),
  .of "type" readType (·.type) (fun r v => { r with type := v }),
  .of "operand" (readOption readOperand {}) (·.operand) (fun r v => { r with operand := v }),
  .of "operands" (readList "[]ir.OperandSpec" readOperand {}) (·.operands)
    (fun r v => { r with operands := v })]

def readStatement : FieldReader Statement := readRecord "ir.StatementSpec" [
  .of "left" readPlace (·.left) (fun s v => { s with left := v }),
  .of "rvalue" readRvalue (·.rvalue) (fun s v => { s with rvalue := v }),
  .of "loc" readLocation (·.location) (fun s v => { s with location := v })]

def readCall : FieldReader Call := readRecord "ir.CallSpec" [
  .of "callee" readText (·.callee) (fun c v => { c with callee := v }),
  .of "candidates" (readList "[]string" readText "") (·.candidates)
    (fun c v => { c with candidates := v }),
  .of "args" (readList "[]ir.OperandSpec" readOperand {}) (·.arguments)
    (fun c v => { c with arguments := v }),
  .of "destination" (readOption readPlace ⟨0, []⟩) (·.destination)
    (fun c v => { c with destination := v }),
  .of "loc" readLocation (·.location) (fun c v => { c with location := v })]

def readDrop : FieldReader Drop := readRecord "ir.DropSpec" [
  .of "place" readPlace (·.place) (fun d v => { d with place := v }),
  .of "loc" readLocation (·.location) (fun d v => { d with location := v })]

def readBlock : FieldReader Block := readRecord "ir.BlockSpec" [
  .of "id" (readInt "int") (·.id) (fun b v => { b with id := v }),
  .of "successors" (readList "[]int" (readInt "int") 0) (·.successors)
    (fun b v => { b with successors := v }),
  .of "cleanup" readBool (·.cleanup) (fun b v => { b with cleanup := v }),
  .of "statements" (readList "[]ir.StatementSpec" readStatement {}) (·.statements)
    (fun b v => { b with statements := v }),
  .of "call" (readOption readCall {}) (·.call) (fun b v => { b with call := v }),
  .of "drop" (readOption readDrop {}) (·.drop) (fun b v => { b with drop := v })]

def readFunction : FieldReader Function := readRecord "ir.FunctionSpec" [
  .of "name" readText (·.name) (fun f v => { f with name := v }),
  .of "entry-block" (readInt "int") (·.entry) (fun f v => { f with entry := v }),
  .of "locals" (readList "[]ir.LocalDecl" readSlotDecl {}) (·.slots)
    (fun f v => { f with slots := v }),
  .of "blocks" (readList "[]ir.BlockSpec" readBlock {}) (·.blocks)
    (fun f v => { f with blocks := v })]

def readSuppression : FieldReader Suppression := readRecord "ir.Suppression" [
  .of "file" readText (·.file) (fun s v => { s with file := v }),
  .of "line" (readInt "int") (·.line) (fun s v => { s with line := v })]

def readFile : FieldReader File := readRecord "ir.File" [
  .of "functions" (readList "[]ir.FunctionSpec" readFunction {}) (·.functions)
    (fun f v => { f with functions := v }),
  .of "suppressions" (readList "[]ir.Suppression" readSuppression {}) (·.suppressions)
    (fun f v => { f with suppressions := v })]

/-- The file that a text describes; a field that no type has is a fault. -/
def File.decode (text : String) (yaml : Library := Library.own) : Except DecodeError File :=
  decodeText yaml true readFile {} text

end Source

/-! ### 2. Writing -/

/-- A field that is left out when its value is the empty one. -/
def optional {α : Type} [DecidableEq α] (name : String) (empty : α) (tree : α → Tree) (a : α) :
    List (String × Tree) :=
  if a = empty then [] else [(name, tree a)]

/-- A field that is left out when it is absent. -/
def whenPresent {α : Type} (name : String) (tree : α → Tree) : Option α → List (String × Tree)
  | none => []
  | some a => [(name, tree a)]

/-- A field with a list, left out when the list is empty. -/
def unlessEmpty {α : Type} (name : String) (tree : α → Tree) (as : List α) :
    List (String × Tree) :=
  if as.isEmpty then [] else [(name, .list (as.map tree))]

def Place.toTree (p : Place) : Tree :=
  .fields ([("local", .int p.slot)] ++
    unlessEmpty "projection" (fun s : Projection => Tree.text s.text) p.steps)

def PlaceType.toTree (t : PlaceType) : Tree :=
  .fields ([("kind", .text t.kind.name)] ++ optional "name" "" Tree.text t.name)

def SlotDecl.toTree (d : SlotDecl) : Tree :=
  .fields ([("local", .int d.slot), ("type", d.type.toTree)] ++
    optional "needs-drop" false Tree.bool d.needsDrop ++ optional "name" "" Tree.text d.name)

def Location.toTree (l : Location) : Tree :=
  .fields ([("file", .text l.file), ("line", .int l.line), ("col", .int l.column)] ++
    optional "end-line" 0 Tree.int l.endLine ++ optional "end-col" 0 Tree.int l.endColumn)

def Suppression.toTree (s : Suppression) : Tree :=
  .fields [("file", .text s.file), ("line", .int s.line)]

namespace Source

def Operand.toTree (o : Operand) : Tree :=
  .fields ([("kind", .text o.kind)] ++ whenPresent "place" Place.toTree o.place ++
    optional "type" {} PlaceType.toTree o.type)

def Rvalue.toTree (r : Rvalue) : Tree :=
  .fields ([("kind", .text r.kind)] ++ whenPresent "place" Place.toTree r.place ++
    optional "type" {} PlaceType.toTree r.type ++ whenPresent "operand" Operand.toTree r.operand ++
    unlessEmpty "operands" Operand.toTree r.operands)

def Statement.toTree (s : Statement) : Tree :=
  .fields ([("left", s.left.toTree), ("rvalue", s.rvalue.toTree)] ++
    optional "loc" {} Location.toTree s.location)

def Call.toTree (c : Call) : Tree :=
  .fields ([("callee", .text c.callee)] ++ unlessEmpty "candidates" Tree.text c.candidates ++
    unlessEmpty "args" Operand.toTree c.arguments ++
    whenPresent "destination" Place.toTree c.destination ++
    optional "loc" {} Location.toTree c.location)

def Drop.toTree (d : Drop) : Tree :=
  .fields ([("place", d.place.toTree)] ++ optional "loc" {} Location.toTree d.location)

def Block.toTree (b : Block) : Tree :=
  .fields ([("id", .int b.id)] ++ unlessEmpty "successors" Tree.int b.successors ++
    optional "cleanup" false Tree.bool b.cleanup ++
    unlessEmpty "statements" Statement.toTree b.statements ++
    whenPresent "call" Call.toTree b.call ++ whenPresent "drop" Drop.toTree b.drop)

def Function.toTree (f : Function) : Tree :=
  .fields ([("name", .text f.name)] ++ optional "entry-block" 0 Tree.int f.entry ++
    unlessEmpty "locals" SlotDecl.toTree f.slots ++ unlessEmpty "blocks" Block.toTree f.blocks)

def File.toTree (f : File) : Tree :=
  .fields ([("functions", .list (f.functions.map Function.toTree))] ++
    unlessEmpty "suppressions" Suppression.toTree f.suppressions)

/-- The text of a file, indented by two columns for each level. -/
def File.encode (f : File) (yaml : Library := Library.own) : String := yaml.print 2 f.toTree

end Source

end DropFlow
