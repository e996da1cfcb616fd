/-
  DropFlow/Yaml/Node/Reader.lean
  ==============================
  From tokens to the first document of a text.

  Reading looks two tokens ahead of the one it decides on, so a text that becomes
  unreadable within that distance is refused even if the first document ends
  before.  Later documents are not read at all.

  The recursion follows the nesting of the document; each call takes at least one
  step towards the end of the tokens, and their number bounds all of it.
-/
import DropFlow.Yaml.Node
import DropFlow.Yaml.Token.Lexer

namespace DropFlow.Yaml

/-! ### 1. The token supply -/

/-- The state of a reader: the tokens, the place reached in them, and the anchors seen. -/
structure Reader where
  tokens : Tokens
  pos : Nat := 0
  anchors : Array Node := #[]
  names : List (String × Nat) := []
  handles : List (String × String) := []
  deriving Inhabited

/-- Reading fails without a reason: the text is not well formed. -/
abbrev ReadM := StateT Reader Option

namespace Reader

def peek : ReadM Token := do
  let r ← get
  if r.tokens.readable || r.pos + 2 < r.tokens.toks.size then
    match r.tokens.toks[r.pos]? with
    | some t => return t
    | none =>
      match r.tokens.toks.back? with
      | some t => return t
      | none => failure
  else failure

def skip : ReadM Unit := modify fun r => { r with pos := r.pos + 1 }

def peekIn (kinds : List Token.Kind) : ReadM Bool := do
  let t ← peek
  return kinds.contains t.kind

/-- The empty scalar that stands for a missing node. -/
def emptyAt (m : Mark) : Node := .ofScalar (m.line + 1) none .plain ""

/-! ### 2. Anchors and tags -/

/-- Registers an anchor, with a placeholder for its node, and gives its place. -/
def openAnchor (name : String) : ReadM Nat := do
  let r ← get
  set { r with anchors := r.anchors.push (emptyAt {}), names := (name, r.anchors.size) :: r.names }
  return r.anchors.size

/-- Fills in the node of an anchor. -/
def closeAnchor (place : Option Nat) (n : Node) : ReadM Node := do
  match place with
  | some p => modify fun r => { r with anchors := r.anchors.setIfInBounds p n }
  | none => pure ()
  return n

/-- The standard tag of a handle that no directive defines. -/
def defaultHandle? (handle : String) : Option String :=
  match handle with
  | "!" => some "!"
  | "!!" => some "tag:yaml.org,2002:"
  | _ => none

/-- The tag in short form, for instance `!!str`; the tag `!` says nothing. -/
def shortTag? (tag : String) : Option String :=
  let long := "tag:yaml.org,2002:"
  if tag == "" || tag == "!" then none
  else if tag.startsWith long then some ("!!" ++ String.ofList (tag.toList.drop long.length))
  else some tag

/-- The tag that a tag token stands for. -/
def expandTag (handle suffix : String) : ReadM String := do
  if handle == "" then return suffix
  let r ← get
  match (r.handles.lookup handle).or (defaultHandle? handle) with
  | some base => return base ++ suffix
  | none => failure

/-- What may precede the content of a node. -/
structure Properties where
  start : Mark
  anchor : Option String := none
  tag : Option String := none

/-- Reads an anchor and a tag, in either order. -/
def properties : ReadM Properties := do
  let t ← peek
  match t.kind with
  | .anchor name =>
    skip
    let t' ← peek
    match t'.kind with
    | .tag handle suffix =>
      skip
      return { start := t.start, anchor := some name, tag := some (← expandTag handle suffix) }
    | _ => return { start := t.start, anchor := some name }
  | .tag handle suffix =>
    skip
    let tag ← expandTag handle suffix
    let t' ← peek
    match t'.kind with
    | .anchor name =>
      skip
      return { start := t.start, anchor := some name, tag := some tag }
    | _ => return { start := t.start, tag := some tag }
  | _ => return { start := t.start }

/-! ### 3. Nodes -/

mutual

/-- Reads a node.  `block` admits block collections, `indentless` a sequence whose dashes stand
    in the column of the enclosing key. -/
def node : Nat → Bool → Bool → ReadM Node
  | 0, _, _ => failure
  | fuel + 1, block, indentless => do
    let t ← peek
    match t.kind with
    | .reference name =>
      skip
      let r ← get
      match r.names.lookup name with
      | some place => return .reference (t.start.line + 1) name place
      | none => failure
    | _ =>
      let p ← properties
      let place ← p.anchor.mapM openAnchor
      let line := p.start.line + 1
      let tag := p.tag.bind shortTag?
      let t ← peek
      match t.kind with
      | .scalar style text =>
        skip
        closeAnchor place (.ofScalar line tag style text)
      | .flowSequenceStart =>
        skip
        let items ← flowItems fuel true
        closeAnchor place (.sequence line tag items)
      | .flowMappingStart =>
        skip
        let entries ← flowEntries fuel true
        closeAnchor place (.mapping line tag entries)
      | kind =>
        if indentless && kind == .blockEntry then
          let items ← indentlessItems fuel
          closeAnchor place (.sequence line tag items)
        else if block && kind == .blockSequenceStart then
          skip
          let items ← blockItems fuel
          closeAnchor place (.sequence line tag items)
        else if block && kind == .blockMappingStart then
          skip
          let entries ← blockEntries fuel
          closeAnchor place (.mapping line tag entries)
        else if p.anchor.isSome || p.tag.isSome then
          closeAnchor place (.ofScalar line tag .plain "")
        else failure

def blockItems : Nat → ReadM (List Node)
  | 0 => failure
  | fuel + 1 => do
    let t ← peek
    match t.kind with
    | .blockEntry =>
      skip
      let item ←
        if ← peekIn [.blockEntry, .blockEnd] then pure (emptyAt t.stop) else node fuel true false
      let items ← blockItems fuel
      return item :: items
    | .blockEnd =>
      skip
      return []
    | _ => failure

/-- The items of a sequence that is not indented. -/
def indentlessItems : Nat → ReadM (List Node)
  | 0 => failure
  | fuel + 1 => do
    let t ← peek
    match t.kind with
    | .blockEntry =>
      skip
      let item ←
        if ← peekIn [.blockEntry, .key, .value, .blockEnd] then pure (emptyAt t.stop)
        else node fuel true false
      let items ← indentlessItems fuel
      return item :: items
    | _ => return []

def blockEntries : Nat → ReadM (List (Node × Node))
  | 0 => failure
  | fuel + 1 => do
    let t ← peek
    match t.kind with
    | .key =>
      skip
      let key ←
        if ← peekIn [.key, .value, .blockEnd] then pure (emptyAt t.stop) else node fuel true true
      let t' ← peek
      let value ←
        match t'.kind with
        | .value => do
          skip
          if ← peekIn [.key, .value, .blockEnd] then pure (emptyAt t'.stop)
          else node fuel true true
        | _ => pure (emptyAt t'.start)
      let entries ← blockEntries fuel
      return (key, value) :: entries
    | .blockEnd =>
      skip
      return []
    | _ => failure

/-- The items of a sequence in brackets. -/
def flowItems : Nat → Bool → ReadM (List Node)
  | 0, _ => failure
  | fuel + 1, first => do
    if ← peekIn [.flowSequenceEnd] then
      skip
      return []
    if !first then
      if ← peekIn [.flowEntry] then skip else failure
    let t ← peek
    match t.kind with
    | .flowSequenceEnd =>
      skip
      return []
    | .key =>
      skip
      let key ←
        if ← peekIn [.value, .flowEntry, .flowSequenceEnd] then do
          let t' ← peek
          skip
          pure (emptyAt t'.stop)
        else node fuel false false
      let t' ← peek
      let value ←
        match t'.kind with
        | .value => do
          skip
          if ← peekIn [.flowEntry, .flowSequenceEnd] then do
            let t'' ← peek
            pure (emptyAt t''.start)
          else node fuel false false
        | _ => pure (emptyAt t'.start)
      let items ← flowItems fuel false
      return .mapping (t.start.line + 1) none [(key, value)] :: items
    | _ =>
      let item ← node fuel false false
      let items ← flowItems fuel false
      return item :: items

/-- The entries of a mapping in braces. -/
def flowEntries : Nat → Bool → ReadM (List (Node × Node))
  | 0, _ => failure
  | fuel + 1, first => do
    if ← peekIn [.flowMappingEnd] then
      skip
      return []
    if !first then
      if ← peekIn [.flowEntry] then skip else failure
    let t ← peek
    match t.kind with
    | .flowMappingEnd =>
      skip
      return []
    | .key =>
      skip
      let key ←
        if ← peekIn [.value, .flowEntry, .flowMappingEnd] then do
          let t' ← peek
          pure (emptyAt t'.start)
        else node fuel false false
      let t' ← peek
      let value ←
        match t'.kind with
        | .value => do
          skip
          if ← peekIn [.flowEntry, .flowMappingEnd] then do
            let t'' ← peek
            pure (emptyAt t''.start)
          else node fuel false false
        | _ => pure (emptyAt t'.start)
      let entries ← flowEntries fuel false
      return (key, value) :: entries
    | _ =>
      let key ← node fuel false false
      let t' ← peek
      let entries ← flowEntries fuel false
      return (key, emptyAt t'.start) :: entries

end

/-! ### 4. Documents -/

/-- Reads the directives in front of a document; the flag tells whether there were any. -/
def directives : Nat → Bool → Bool → ReadM Bool
  | 0, _, _ => failure
  | fuel + 1, versioned, any => do
    let t ← peek
    match t.kind with
    | .versionDirective major minor =>
      if versioned || major != 1 || minor != 1 then failure
      skip
      directives fuel true true
    | .tagDirective handle base =>
      let r ← get
      if (r.handles.lookup handle).isSome then failure
      set { r with handles := (handle, base) :: r.handles }
      skip
      directives fuel versioned true
    | _ => return any

/-- Reads the first document, or nothing if the stream is empty. -/
def document (fuel : Nat) : ReadM (Option Node) := do
  if ← peekIn [.streamEnd] then return none
  let directed ← directives fuel false false
  let t ← peek
  let root ←
    match t.kind with
    | .documentStart => do
      skip
      let t' ← peek
      match t'.kind with
      | .versionDirective .. => pure (emptyAt t'.start)
      | .tagDirective .. => pure (emptyAt t'.start)
      | .documentStart => pure (emptyAt t'.start)
      | .documentEnd => pure (emptyAt t'.start)
      | .streamEnd => pure (emptyAt t'.start)
      | _ => node fuel true false
    | _ => if directed then failure else node fuel true false
  let _ ← peek
  return some root

end Reader

/-- The first document of a text.  The outer option refuses a malformed text, the inner one
    tells a text without any document. -/
def Document.read? (text : String) : Option (Option Document) :=
  let tokens := Tokens.ofText text
  let fuel := 2 * tokens.toks.size + 4
  match (Reader.document fuel).run { tokens } with
  | none => none
  | some (none, _) => some none
  | some (some root, r) =>
    some (some { root, anchors := r.anchors, extent := tokens.toks.size })

end DropFlow.Yaml
