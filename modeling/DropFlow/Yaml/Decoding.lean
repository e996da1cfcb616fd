/-
  DropFlow/Yaml/Decoding.lean
  ===========================
  From document trees to typed values.

  A reader of a type takes a node and the value that the place holds so far, and
  gives the new value together with the word whether the node fitted.  A node that
  does not fit leaves a fault with its line and changes nothing else, so that one
  pass reports all of them.  Two events end a pass at once: a refusal by the reader
  of a type with a syntax of its own, and a document that is wrong as a document (a
  tag that contradicts its scalar, a merge of something that is no mapping, a
  reference that runs in a circle).

  A null leaves a scalar or a record as it was and empties a list or an option.
-/
import DropFlow.Text.Quoted
import DropFlow.Yaml.Library

namespace DropFlow.Yaml

open DropFlow.Text

/-! ### 1. Faults -/

/-- A node that does not fit its place. -/
inductive Fault where
  /-- A node of another shape than the type asks for; `shown` is the beginning of a scalar. -/
  | mismatch (line : Nat) (tag : String) (shown : Option String) (type : String)
  | unknownField (line : Nat) (name type : String)
  | repeatedField (line : Nat) (name type : String)
  | repeatedKey (line : Nat) (key : String) (firstLine : Nat)
  deriving DecidableEq, Repr

/-- The bytes of a text as characters; a byte that starts no character is replaced. -/
def lossyPrefix (s : String) (bytes : Nat) : String :=
  go s.toList bytes
where
  /-- Takes whole characters while they fit. -/
  go : List Char → Nat → String
    | [], _ => ""
    | c :: rest, n =>
      if c.utf8Size ≤ n then String.singleton c ++ go rest (n - c.utf8Size)
      else String.ofList (List.replicate n (Char.ofNat 0xFFFD))

/-- A scalar as a message shows it: whole up to ten bytes, else its first seven. -/
def shownText (s : String) : String :=
  if 10 < s.utf8ByteSize then lossyPrefix s 7 ++ "..." else s

def Fault.message : Fault → String
  | .mismatch line tag shown type =>
    let value := match shown with
      | some s => " `" ++ s ++ "`"
      | none => ""
    "line " ++ decimal line ++ ": cannot unmarshal " ++ tag ++ value ++ " into " ++ type
  | .unknownField line name type =>
    "line " ++ decimal line ++ ": field " ++ name ++ " not found in type " ++ type
  | .repeatedField line name type =>
    "line " ++ decimal line ++ ": field " ++ name ++ " already set in type " ++ type
  | .repeatedKey line key firstLine =>
    "line " ++ decimal line ++ ": mapping key " ++ quoted key ++ " already defined at line " ++
      decimal firstLine

/-- Why a text gives no value. -/
inductive DecodeError where
  /-- The text is no document, or a wrong one. -/
  | malformed
  /-- The document does not fit the type. -/
  | unfit (faults : List Fault)
  /-- A scalar with a syntax of its own is not written in it. -/
  | refused (message : String)
  deriving DecidableEq, Repr

/-- The wording of an error; a malformed text has no wording of ours. -/
def DecodeError.message : DecodeError → String
  | .malformed => "yaml: malformed document"
  | .unfit faults =>
    "yaml: unmarshal errors:" ++ String.join (faults.map fun f => "\n  " ++ f.message)
  | .refused message => message

/-! ### 2. Readers -/

/-- What a pass needs to know of the document and of the rules in force. -/
structure Context where
  anchors : Array Node := #[]
  /-- Whether a field that the type does not have is a fault. -/
  strict : Bool := false
  /-- The longest chain of merges of a document without a circle. -/
  mergeLimit : Nat := 0

/-- A pass: it collects faults, most recent first, and may end at once. -/
abbrev DecodeM := ReaderT Context (StateT (List Fault) (Except DecodeError))

/-- Reads a node into a place; the flag tells whether the node fitted. -/
abbrev FieldReader (α : Type) := Node → α → DecodeM (α × Bool)

def fault (f : Fault) : DecodeM Unit := modify (f :: ·)

/-- The node that a node stands for. -/
def target (n : Node) : DecodeM Node := do
  return Document.resolve (← read).anchors n

/-- The meaning of a scalar; a contradiction with its tag ends the pass. -/
def settled (meaning : Option Scalar) : DecodeM Scalar :=
  match meaning with
  | some s => return s
  | none => throw .malformed

def isNull : Node → Bool
  | .scalar _ tag _ _ => tag == "!!null"
  | _ => false

/-- Records that a node does not fit a type. -/
def mismatch (n : Node) (type : String) : DecodeM Unit :=
  match n with
  | .scalar line tag text _ => fault (.mismatch line tag (some (shownText text)) type)
  | .sequence line tag _ =>
    match tag with
    | some t => fault (.mismatch line t (some "") type)
    | none => fault (.mismatch line "!!seq" none type)
  | .mapping line tag _ =>
    match tag with
    | some t => fault (.mismatch line t (some "") type)
    | none => fault (.mismatch line "!!map" none type)
  | .reference .. => throw .malformed

/-! ### 3. Mappings -/

/-- What makes two keys of a mapping the same: the shape and the text. -/
def keyMark : Node → Nat × String
  | .scalar _ _ text _ => (0, text)
  | .sequence .. => (1, "")
  | .mapping .. => (2, "")
  | .reference _ name _ => (3, name)

/-- The repetitions among the keys of a mapping: each key against every later one. -/
def repeatedKeys : List Node → List Fault
  | [] => []
  | k :: rest =>
    (rest.filter fun k' => keyMark k == keyMark k').map
      (fun k' => .repeatedKey k'.line (keyMark k').2 k.line) ++ repeatedKeys rest

/-- Checks the keys of a mapping; the answer tells whether all are distinct. -/
def distinctKeys (entries : List (Node × Node)) : DecodeM Bool := do
  let faults := repeatedKeys (entries.map (·.1))
  modify (faults.reverse ++ ·)
  return faults.isEmpty

/-- Records that a node does not fit a type, once the keys of a mapping have been checked. -/
def mismatchChecked (n : Node) (type : String) : DecodeM Unit := do
  match n with
  | .mapping _ _ entries => if ← distinctKeys entries then mismatch n type
  | .scalar _ _ _ meaning =>
    let _ ← settled meaning
    mismatch n type
  | _ => mismatch n type

/-! ### 4. Scalars -/

/-- Reads text; every scalar but null is text, and one that means no text is taken as it is
    written. -/
def readText : FieldReader String := fun n old => do
  let n ← target n
  match n with
  | .scalar _ _ text meaning =>
    match ← settled meaning with
    | .null => return (old, false)
    | .text s => return (s, true)
    | _ => return (text, true)
  | _ => do
    mismatchChecked n "string"
    return (old, false)

/-- Reads an integer of a signed word; a number with a fraction is cut off. -/
def readInt (type : String) : FieldReader Int := fun n old => do
  let n ← target n
  match n with
  | .scalar _ _ _ meaning =>
    let number : Option Int := match ← settled meaning with
      | .int i => Text.word? i
      | .float i =>
        -- the greatest word is compared as `2 ^ 63`, and what does not fit becomes the least one
        if i ≤ maxWord + 1 then some (if minWord ≤ i ∧ i ≤ maxWord then i else minWord) else none
      | .infinity negative => if negative then some minWord else none
      | _ => none
    match number with
    | some i => return (i, true)
    | none =>
      if !isNull n then mismatch n type
      return (old, false)
  | _ => do
    mismatchChecked n type
    return (old, false)

/-- The truth value of a scalar, with the older spellings. -/
def truth? : Scalar → Option Bool
  | .bool b => some b
  | .text s =>
    if s == "y" || s == "Y" || s == "yes" || s == "on" then some true
    else if s == "n" || s == "N" || s == "no" || s == "off" then some false
    else none
  | _ => none

def readBool : FieldReader Bool := fun n old => do
  let n ← target n
  match n with
  | .scalar _ _ _ meaning =>
    match truth? (← settled meaning) with
    | some b => return (b, true)
    | none =>
      if !isNull n then mismatch n "bool"
      return (old, false)
  | _ => do
    mismatchChecked n "bool"
    return (old, false)

/-- Reads a scalar with a syntax of its own: `parse` gets the line and the text, `shape` is the
    refusal of a node that is no scalar. -/
def readWith {α : Type} (shape : String) (parse : String → Except String α) : FieldReader α :=
  fun n old => do
    let n ← target n
    if isNull n then return (old, false)
    let here := "line " ++ decimal n.line ++ ": "
    match n with
    | .scalar _ _ text _ =>
      match parse text with
      | .ok a => return (a, true)
      | .error e => throw (.refused (here ++ e))
    | _ => throw (.refused (here ++ shape))

/-! ### 5. Lists and options -/

/-- Reads the items of a list; an item that does not fit is left out. -/
def readItems {α : Type} (item : FieldReader α) (fresh : α) : List Node → DecodeM (List α)
  | [] => return []
  | n :: rest => do
    let (a, fits) ← item n fresh
    let more ← readItems item fresh rest
    return if fits then a :: more else more

/-- Reads a list; a null empties it. -/
def readList {α : Type} (type : String) (item : FieldReader α) (fresh : α) :
    FieldReader (List α) := fun n old => do
  let n ← target n
  match n with
  | .sequence _ _ items => return (← readItems item fresh items, true)
  | _ =>
    if isNull n then return ([], true)
    mismatchChecked n type
    return (old, false)

/-- Reads a part that may be absent; a null removes it. -/
def readOption {α : Type} (part : FieldReader α) (fresh : α) : FieldReader (Option α) :=
  fun n old => do
    let n ← target n
    if isNull n then return (none, true)
    let (a, fits) ← part n (old.getD fresh)
    return (some a, fits)

/-! ### 6. Records -/

/-- A field of a record: its name, and how its value is read into the record. -/
structure Field (α : Type) where
  name : String
  readInto : Node → α → DecodeM α

/-- A field that is read by `reader` and written back by `set`. -/
def Field.of {α β : Type} (name : String) (reader : FieldReader β) (get : α → β)
    (set : α → β → α) : Field α where
  name := name
  readInto := fun n a => do
    let (b, _) ← reader n (get a)
    return set a b

/-- Whether a key asks for a merge. -/
def isMergeKey : Node → Bool
  | .scalar _ tag text _ => text == "<<" && tag == "!!merge"
  | _ => false

/-- The names among the keys of a mapping that are text. -/
def textKeys (anchors : Array Node) (entries : List (Node × Node)) : List String :=
  entries.filterMap fun (k, _) =>
    match Document.resolve anchors k with
    | .scalar _ _ _ (some (.text s)) => some s
    | _ => none

/-- Reads the entries of one mapping into a record.  `taken` holds, inside a merge, the names
    that are already decided; `done` the names met in this mapping. -/
def readEntries {α : Type} (type : String) (fields : List (Field α)) :
    List (Node × Node) → Option (List String) → List String → α → DecodeM (α × Option (List String))
  | [], taken, _, a => return (a, taken)
  | (k, v) :: rest, taken, done, a => do
    if isMergeKey k then readEntries type fields rest taken done a
    else
      let (name, fits) ← readText k ""
      if !fits then readEntries type fields rest taken done a
      else if (taken.getD []).contains name then readEntries type fields rest taken done a
      else
        let taken := taken.map (name :: ·)
        match fields.find? (·.name == name) with
        | some field =>
          -- two different keys may still resolve to one name
          if done.contains name then
            fault (.repeatedField k.line name type)
            readEntries type fields rest taken done a
          else
            let a ← field.readInto v a
            readEntries type fields rest taken (name :: done) a
        | none =>
          if (← read).strict then fault (.unknownField k.line name type)
          readEntries type fields rest taken done a

/-- The mappings that a merge brings in, in order. -/
def mergeSources (n : Node) : DecodeM (List Node) := do
  let check (m : Node) : DecodeM Node := do
    let t ← target m
    match t with
    | .mapping .. => return t
    | _ => throw .malformed
  match n with
  | .mapping .. => return [n]
  | .reference .. => return [← check n]
  | .sequence _ _ items => items.mapM check
  | .scalar .. => throw .malformed

/-- Reads a mapping and then the mappings that it merges; what is decided first stays.  A chain
    of merges longer than the document runs in a circle. -/
def readMapping {α : Type} (type : String) (fields : List (Field α)) :
    Nat → List (Node × Node) → Option (List String) → α → DecodeM (α × Option (List String) × Bool)
  | 0, _, _, _ => throw .malformed
  | fuel + 1, entries, taken, a => do
    if ← distinctKeys entries then
      let (a, taken') ← readEntries type fields entries taken [] a
      -- of several merge keys the last one counts
      match (entries.filter fun e => isMergeKey e.1).getLast? with
      | none => return (a, taken', true)
      | some (_, source) =>
        let anchors := (← read).anchors
        let names := taken'.getD (textKeys anchors entries)
        let sources ← mergeSources source
        let (a, names) ← sources.foldlM (fun (a, names) (s : Node) =>
          match s with
          | .mapping _ _ entries => do
            let (a, names', _) ← readMapping type fields fuel entries (some names) a
            return (a, names'.getD names)
          | _ => return (a, names)) (a, names)
        return (a, taken'.map fun _ => names, true)
    else return (a, taken, false)

/-- Reads a record from a mapping. -/
def readRecord {α : Type} (type : String) (fields : List (Field α)) : FieldReader α :=
  fun n old => do
    let n ← target n
    match n with
    | .mapping _ _ entries =>
      let (a, _, fits) ← readMapping type fields ((← read).mergeLimit + 1) entries none old
      return (a, fits)
    | _ =>
      if isNull n then return (old, false)
      mismatchChecked n type
      return (old, false)

/-! ### 7. Documents -/

/-- Reads a document into a value that starts as `start`. -/
def decodeDocument {α : Type} (strict : Bool) (reader : FieldReader α) (start : α)
    (doc : Document) : Except DecodeError α :=
  let context : Context := { anchors := doc.anchors, strict, mergeLimit := doc.extent }
  match ((reader doc.root start).run context).run [] with
  | .error e => .error e
  | .ok ((a, _), []) => .ok a
  | .ok (_, faults) => .error (.unfit faults.reverse)

/-- Reads the first document of a text; a text without a document leaves the start. -/
def decodeText {α : Type} (yaml : Library) (strict : Bool) (reader : FieldReader α) (start : α)
    (text : String) : Except DecodeError α :=
  match yaml.read? text with
  | none => .error .malformed
  | some none => .ok start
  | some (some doc) => decodeDocument strict reader start doc

end DropFlow.Yaml
