/-
  DropFlow/Body/Lowering.lean
  ===========================
  From the words of a front end to a body.

  Each right-hand side is classified by its kind, in any case: copies, moves, borrows
  and raw addresses become assignments, one for each operand that is not a constant.
  A statement of any other kind is dropped with a notice, and with a warning if the
  kind is unknown altogether.  A function is refused when its slots or its blocks are
  not distinct, when a block is referred to that does not exist, or when a part that
  its kind needs is missing.
-/
import DropFlow.Body
import DropFlow.Log
import DropFlow.Text.Lower

namespace DropFlow

open DropFlow.Text

/-! ### 1. Causes of refusal -/

inductive OperandError where
  | unknownKind (kind : String)
  | placeMissing (kind : String)
  deriving DecidableEq, Repr

def OperandError.message : OperandError → String
  | .unknownKind kind => "unknown operand kind " ++ quoted kind
  | .placeMissing kind => kind ++ " operand without place"

inductive BlockError where
  | operand (e : OperandError)
  | rvalueOperandMissing (kind : String)
  | rvaluePlaceMissing (kind : String)
  | callAndDrop
  | calleeMissing
  | argument (index : Nat) (e : OperandError)
  deriving DecidableEq, Repr

def BlockError.message : BlockError → String
  | .operand e => e.message
  | .rvalueOperandMissing kind => kind ++ " rvalue without operand"
  | .rvaluePlaceMissing kind => kind ++ " rvalue without place"
  | .callAndDrop => "a block cannot have both a call and a drop terminator"
  | .calleeMissing => "call without callee"
  | .argument i e => "argument " ++ decimal i ++ ": " ++ e.message

inductive LoweringError where
  | slotRepeated (function : String) (slot : Int)
  | blockRepeated (function : String) (block : Int)
  | inBlock (function : String) (block : Int) (e : BlockError)
  | entryMissing (function : String) (entry : Int)
  | successorMissing (function : String) (block successor : Int)
  deriving DecidableEq, Repr

def LoweringError.message : LoweringError → String
  | .slotRepeated f s => f ++ ": local " ++ slotText s ++ " is declared twice"
  | .blockRepeated f b => f ++ ": block bb" ++ decimal b ++ " is defined twice"
  | .inBlock f b e => f ++ ": bb" ++ decimal b ++ ": " ++ e.message
  | .entryMissing f b => f ++ ": entry block bb" ++ decimal b ++ " does not exist"
  | .successorMissing f b s =>
    f ++ ": bb" ++ decimal b ++ " has unknown successor bb" ++ decimal s

/-! ### 2. Operands and statements -/

/-- The type of a place: the one that is written, or else the declared one of a whole slot. -/
def resolveType (slots : List SlotDecl) (place : Place) (written : PlaceType) : PlaceType :=
  -- a type that was left out is read as the default one
  if written ≠ {} ∨ 0 < place.depth then written
  else
    match slots.find? (·.slot = place.slot) with
    | some d => d.type
    | none => written

def lowerOperand (slots : List SlotDecl) (o : Source.Operand) : Except OperandError Argument :=
  let kind := lower o.kind
  if kind = "constant" ∨ kind = "const" then .ok .constant
  else if kind = "copy" ∨ kind = "move" then
    match o.place with
    | none => .error (.placeMissing o.kind)
    | some p =>
      let type := resolveType slots p o.type
      .ok (if kind = "copy" then .copy p type else .move p type)
  -- the kind is told as it was written, not in lower case
  else .error (.unknownKind o.kind)

/-- What becomes of a statement. -/
inductive Outcome where
  | assigns (as : List Assignment)
  /-- The statement is dropped; the flag tells whether its kind is known. -/
  | dropped (known : Bool)
  deriving DecidableEq, Repr

/-- The kinds of right-hand sides that are known and not modeled. -/
def unmodeledKinds : List String :=
  ["binary-op", "checked-binary-op", "unary-op", "len", "nullary-op", "thread-local-ref",
   "shallow-init-box"]

/-- The assignment of an operand to the left place; a constant assigns nothing. -/
def assignOperand (slots : List SlotDecl) (s : Source.Statement) : Argument → List Assignment
  | .copy p t => [⟨s.left, p, resolveType slots p t, .copy, s.location⟩]
  | .move p t => [⟨s.left, p, resolveType slots p t, .move, s.location⟩]
  | .constant => []

/-- The assignments of operands to the left place, one after the other. -/
def assignOperands (slots : List SlotDecl) (s : Source.Statement) :
    List Source.Operand → Except OperandError (List Assignment)
  | [] => .ok []
  | o :: rest =>
    match lowerOperand slots o with
    | .error e => .error e
    | .ok a =>
      match assignOperands slots s rest with
      | .error e => .error e
      | .ok as => .ok (assignOperand slots s a ++ as)

/-- How a place is used by the kinds of right-hand sides that have one. -/
def placeKind? (kind : String) : Option AssignKind :=
  if kind = "ref" then some .ref
  else if kind = "address-of" then some .addressOf
  else if kind = "discriminant" then some .move
  else none

/-- The operands of a right-hand side, for the kinds that have operands. -/
def operandsOf? (kind : String) (r : Source.Rvalue) :
    Option (Except BlockError (List Source.Operand)) :=
  if kind = "copy" ∨ kind = "move" ∨ kind = "constant" then some (.ok [⟨kind, r.place, r.type⟩])
  else if kind = "use" ∨ kind = "cast" ∨ kind = "repeat" then
    match r.operand with
    | none => some (.error (.rvalueOperandMissing kind))
    | some o => some (.ok [o])
  else if kind = "aggregate" then some (.ok r.operands)
  else none

def lowerStatement (slots : List SlotDecl) (s : Source.Statement) : Except BlockError Outcome :=
  let kind := lower s.rvalue.kind
  match operandsOf? kind s.rvalue with
  | some (.error e) => .error e
  | some (.ok operands) =>
    match assignOperands slots s operands with
    | .error e => .error (.operand e)
    | .ok as => .ok (.assigns as)
  | none =>
    match placeKind? kind with
    | some use =>
      match s.rvalue.place with
      | none => .error (.rvaluePlaceMissing kind)
      | some p =>
        .ok (.assigns [⟨s.left, p, resolveType slots p s.rvalue.type, use, s.location⟩])
    | none => .ok (.dropped (unmodeledKinds.contains kind))

/-- The assignments of a list of statements. -/
def lowerStatements (slots : List SlotDecl) :
    List Source.Statement → Except BlockError (List Assignment)
  | [] => .ok []
  | s :: rest =>
    match lowerStatement slots s with
    | .error e => .error e
    | .ok outcome =>
      match lowerStatements slots rest with
      | .error e => .error e
      | .ok as =>
        match outcome with
        | .assigns bs => .ok (bs ++ as)
        | .dropped _ => .ok as

/-! ### 3. Blocks -/

/-- Lowers the arguments of a call, counted from `index`. -/
def lowerArguments (slots : List SlotDecl) :
    Nat → List Source.Operand → Except BlockError (List Argument)
  | _, [] => .ok []
  | index, o :: rest =>
    match lowerOperand slots o with
    | .error e => .error (.argument index e)
    | .ok a =>
      match lowerArguments slots (index + 1) rest with
      | .error e => .error e
      | .ok as => .ok (a :: as)

def lowerTerminator (slots : List SlotDecl) (b : Source.Block) : Except BlockError Terminator :=
  match b.call, b.drop with
  | some _, some _ => .error .callAndDrop
  | some c, none =>
    if c.callee = "" ∧ c.candidates = [] then .error .calleeMissing
    else
      match lowerArguments slots 0 c.arguments with
      | .error e => .error e
      | .ok arguments => .ok (.call ⟨c.callee, c.candidates, arguments, c.destination, c.location⟩)
  | none, some d => .ok (.drop d.place d.location)
  | none, none => .ok .plain

/-- Lowers a block: its statements first, and then its end. -/
def lowerBlock (slots : List SlotDecl) (b : Source.Block) : Except BlockError Block :=
  match lowerStatements slots b.statements with
  | .error e => .error e
  | .ok assignments =>
    match lowerTerminator slots b with
    | .error e => .error e
    | .ok terminator => .ok ⟨b.id, b.successors, assignments, terminator, b.cleanup⟩

/-! ### 4. Functions -/

/-- The first slot that is declared a second time. -/
def repeatedSlot? : List Int → List SlotDecl → Option Int
  | _, [] => none
  | seen, d :: rest =>
    if seen.contains d.slot then some d.slot else repeatedSlot? (d.slot :: seen) rest

/-- Lowers blocks with distinct identifiers; `seen` holds those of the blocks before. -/
def lowerBlocks (name : String) (slots : List SlotDecl) :
    List Int → List Source.Block → Except LoweringError (List Block)
  | _, [] => .ok []
  | seen, b :: rest =>
    if seen.contains b.id then .error (.blockRepeated name b.id)
    else
      match lowerBlock slots b with
      | .error e => .error (.inBlock name b.id e)
      | .ok block =>
        match lowerBlocks name slots (b.id :: seen) rest with
        | .error e => .error e
        | .ok blocks => .ok (block :: blocks)

/-- The first successor that is no block, with the block that names it. -/
def danglingSuccessor? (blocks : List Block) : Option (Int × Int) :=
  blocks.findSome? fun b =>
    (b.successors.find? fun s => !blocks.any (·.id = s)).map fun s => (b.id, s)

def lowerFunction (id : Int) (f : Source.Function) : Except LoweringError Body :=
  match repeatedSlot? [] f.slots with
  | some s => .error (.slotRepeated f.name s)
  | none =>
    match lowerBlocks f.name f.slots [] f.blocks with
    | .error e => .error e
    | .ok blocks =>
      if !blocks.any (·.id = f.entry) then .error (.entryMissing f.name f.entry)
      else
        match danglingSuccessor? blocks with
        | some (b, s) => .error (.successorMissing f.name b s)
        | none => .ok ⟨id, f.name, f.entry, f.slots, blocks⟩

/-! ### 5. What lowering announces -/

def droppedText (known : Bool) (kind : String) : String :=
  (if known then "unsupported rvalue kind " else "unknown rvalue kind ") ++ quoted kind

/-- The notices of a block: one for each dropped statement up to the first one that fails. -/
def statementNotices (name : String) (block : Int) (slots : List SlotDecl) :
    List Source.Statement → List Notice
  | [] => []
  | s :: rest =>
    match lowerStatement slots s with
    | .error _ => []
    | .ok (.assigns _) => statementNotices name block slots rest
    | .ok (.dropped known) =>
      let start := name ++ " bb" ++ decimal block ++ ": "
      let why := droppedText known s.rvalue.kind
      let topic := Notice.onTopic "assign" fun _ => start ++ "dropped " ++ why ++ "\n"
      let warning := Notice.warning fun _ => start ++ why ++ "\n"
      (if known then [topic] else [topic, warning]) ++ statementNotices name block slots rest

/-- The notices of blocks, up to the first one that fails. -/
def blockNotices (name : String) (slots : List SlotDecl) :
    List Int → List Source.Block → List Notice
  | _, [] => []
  | seen, b :: rest =>
    if seen.contains b.id then []
    else
      statementNotices name b.id slots b.statements ++
        match lowerBlock slots b with
        | .error _ => []
        | .ok _ => blockNotices name slots (b.id :: seen) rest

def loweringNotices (f : Source.Function) : List Notice :=
  match repeatedSlot? [] f.slots with
  | some _ => []
  | none => blockNotices f.name f.slots [] f.blocks

end DropFlow
