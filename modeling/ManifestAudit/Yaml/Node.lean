import ManifestAudit.Yaml.Tag
import ManifestAudit.Yaml.Token

/-!
# Nodes

A document is a graph: an alias leads to the node that its anchor names, which
may well be one that encloses it. Nodes are therefore numbered, and collections
hold the numbers of their children. `Document.ofTokens` reads the one document of
a token list by the grammar of YAML; loops are bounded by the tokens left.
-/

namespace ManifestAudit.Yaml

/-- A node: its tag and what it holds. -/
inductive Node where
  | scalar (tag : String) (text : Text)
  | sequence (tag : String) (items : List Nat)
  | mapping (tag : String) (pairs : List (Nat × Nat))
  deriving Repr, Inhabited

/-- The tag of a node. -/
def Node.tag : Node → String
  | scalar tag _ => tag
  | sequence tag _ => tag
  | mapping tag _ => tag

/-- The node with another tag. -/
def Node.retag (tag : String) : Node → Node
  | scalar _ text => scalar tag text
  | sequence _ items => sequence tag items
  | mapping _ pairs => mapping tag pairs

/-- The nodes of a document, and which of them is the whole. -/
structure Document where
  nodes : Array Node
  root : Nat
  deriving Repr

/-- The state while a document is put together. -/
structure Assembly where
  tokens : List Token
  nodes : Array Node
  anchors : List (String × Nat)
  handles : List (String × String)

/-- A step of putting a document together. -/
abbrev Assemble := StateT Assembly (Except Fault)

namespace Assemble

/-- The next token, if there is one. A text that cannot be scanned up to it is
refused with the fault of the scan. -/
def peek : Assemble (Option Token) := do
  match (← get).tokens with
  | [] => return none
  | .broken fault :: _ => throw fault
  | token :: _ => return some token

/-- Pass over the next token. -/
def next : Assemble Unit :=
  modify fun assembly => { assembly with tokens := assembly.tokens.tail }

/-- Refuse the next token. -/
def refuse {α : Type} : Assemble α :=
  throw .malformed

/-- Whether the next token is one of several. -/
def isAt (tokens : List Token) : Assemble Bool := do
  match ← peek with
  | some token => return tokens.contains token
  | none => return false

/-- Pass over a token if it is next; tells whether it was. -/
def skip? (token : Token) : Assemble Bool := do
  if ← isAt [token] then next; return true else return false

/-- Add a node and give its number. -/
def add (node : Node) : Assemble Nat := do
  let number := (← get).nodes.size
  modify fun assembly => { assembly with nodes := assembly.nodes.push node }
  return number

/-- Replace a node. -/
def set (number : Nat) (node : Node) : Assemble Unit :=
  modify fun assembly => { assembly with nodes := assembly.nodes.setIfInBounds number node }

/-- Name a node. A name may be given once. -/
def name (anchor : Option String) (number : Nat) : Assemble Unit := do
  match anchor with
  | none => return
  | some anchor =>
    if ((← get).anchors.lookup anchor).isSome then throw .malformed
    else modify fun assembly => { assembly with anchors := (anchor, number) :: assembly.anchors }

/-- An empty scalar, which is null. -/
def empty : Assemble Nat :=
  add (.scalar Tag.null [])

/-- The anchor in front of a node, if there is one. -/
def anchor? : Assemble (Option String) := do
  match ← peek with
  | some (.anchor name) => next; return some name
  | _ => return none

/-- The tag in front of a node, if there is one: its handle and the rest of it. -/
def tag? : Assemble (Option (Option String × String)) := do
  match ← peek with
  | some (.tag handle suffix) => next; return some (handle, suffix)
  | _ => return none

/-- A tag with its handle replaced by what that stands for. -/
def resolve : Option String × String → Assemble String
  | (none, suffix) => return suffix
  | (some handle, suffix) => do
    match (← get).handles.lookup handle with
    | some expansion => return expansion ++ suffix
    | none => throw .malformed

/-- The anchor and the tag in front of a node, in either order. The handle of the
tag is not looked up before both have been read. -/
def properties : Assemble (Option String × Option String) := do
  match ← anchor? with
  | some anchor =>
    let tag ← tag?
    return (some anchor, ← tag.mapM resolve)
  | none =>
    match ← tag? with
    | some tag =>
      let anchor ← anchor?
      return (anchor, some (← resolve tag))
    | none => return (none, none)

/-- The tag of a scalar. Without a tag of its own, a plain one gets its tag from
its shape and any other is text; the tag `!` asks for the shape in any case. -/
def scalarTag (tag : Option String) (text : Text) (plain : Bool) : String :=
  match tag with
  | some "!" => Tag.ofPlain text
  | some tag => tag
  | none => if plain then Tag.ofPlain text else Tag.text

/-- The tag of a collection. -/
def collectionTag (tag : Option String) (standard : String) : String :=
  match tag with
  | some "!" => standard
  | some tag => tag
  | none => standard

mutual

/-- A node. Block collections are allowed where `block` is set, and a block
sequence that is indented no deeper than its key where `indentless` is set. -/
def node : Nat → Bool → Bool → Assemble Nat
  | 0, _, _ => throw .malformed
  | fuel + 1, block, indentless => do
    match ← peek with
    | some (.alias name) =>
      next
      match (← get).anchors.lookup name with
      | some number => return number
      | none => throw .malformed
    | _ =>
      let (anchor, tag) ← properties
      match ← peek with
      | some (.scalar text plain) =>
        next
        let number ← add (.scalar (scalarTag tag text plain) text)
        name anchor number
        return number
      | some .flowSequenceStart =>
        next
        sequence anchor tag (flowItems fuel true)
      | some .flowMappingStart =>
        next
        mapping anchor tag (flowPairs fuel true)
      | some .blockSequenceStart =>
        if block then next; sequence anchor tag (blockItems fuel) else bare anchor tag
      | some .blockMappingStart =>
        if block then next; mapping anchor tag (blockPairs fuel) else bare anchor tag
      | some .blockEntry =>
        if indentless then sequence anchor tag (indentlessItems fuel) else bare anchor tag
      | _ => bare anchor tag
where
  /-- A node that has properties only. -/
  bare (anchor tag : Option String) : Assemble Nat := do
    if anchor.isNone && tag.isNone then refuse
    else
      let number ← add (.scalar (scalarTag tag [] true) [])
      name anchor number
      return number
  /-- A sequence, named before its items are read. -/
  sequence (anchor tag : Option String) (items : Assemble (List Nat)) : Assemble Nat := do
    let tag := collectionTag tag Tag.sequence
    let number ← add (.sequence tag [])
    name anchor number
    set number (.sequence tag (← items))
    return number
  /-- A mapping, named before its pairs are read. -/
  mapping (anchor tag : Option String) (pairs : Assemble (List (Nat × Nat))) : Assemble Nat := do
    let tag := collectionTag tag Tag.mapping
    let number ← add (.mapping tag [])
    name anchor number
    set number (.mapping tag (← pairs))
    return number

/-- A node, or an empty scalar if one of the given tokens is next. -/
def nodeOrEmpty : Nat → Bool → List Token → Assemble Nat
  | 0, _, _ => throw .malformed
  | fuel + 1, block, enders => do
    if ← isAt enders then empty else node fuel block block

/-- The items of a block sequence. -/
def blockItems : Nat → Assemble (List Nat)
  | 0 => throw .malformed
  | fuel + 1 => do
    if ← skip? .blockEntry then
      let item ← if ← isAt [.blockEntry, .blockEnd] then empty else node fuel true false
      return item :: (← blockItems fuel)
    else if ← skip? .blockEnd then return []
    else refuse

/-- The items of a block sequence that has no indentation of its own. -/
def indentlessItems : Nat → Assemble (List Nat)
  | 0 => throw .malformed
  | fuel + 1 => do
    if ← skip? .blockEntry then
      let item ← if ← isAt [.blockEntry, .key, .value, .blockEnd] then empty
        else node fuel true false
      return item :: (← indentlessItems fuel)
    else return []

/-- The pairs of a block mapping. -/
def blockPairs : Nat → Assemble (List (Nat × Nat))
  | 0 => throw .malformed
  | fuel + 1 => do
    let enders := [.key, .value, .blockEnd]
    if ← skip? .key then
      let key ← nodeOrEmpty fuel true enders
      let value ← if ← skip? .value then nodeOrEmpty fuel true enders else empty
      return (key, value) :: (← blockPairs fuel)
    else if ← skip? .blockEnd then return []
    else refuse

/-- The items of a flow sequence; an item may be a single pair of a mapping. -/
def flowItems : Nat → Bool → Assemble (List Nat)
  | 0, _ => throw .malformed
  | fuel + 1, first => do
    if ← skip? .flowSequenceEnd then return []
    let separated ← if first then pure true else skip? .flowEntry
    if !separated then refuse
    else if ← skip? .flowSequenceEnd then return []
    else
      let item ← if ← skip? .key then do
          let key ← nodeOrEmpty fuel false [.value, .flowEntry, .flowSequenceEnd]
          let value ← if ← skip? .value then
              nodeOrEmpty fuel false [.flowEntry, .flowSequenceEnd]
            else empty
          add (.mapping Tag.mapping [(key, value)])
        else node fuel false false
      return item :: (← flowItems fuel false)

/-- The pairs of a flow mapping; a node alone is a key without a value. -/
def flowPairs : Nat → Bool → Assemble (List (Nat × Nat))
  | 0, _ => throw .malformed
  | fuel + 1, first => do
    if ← skip? .flowMappingEnd then return []
    let separated ← if first then pure true else skip? .flowEntry
    if !separated then refuse
    else if ← skip? .flowMappingEnd then return []
    else
      let pair ← if ← skip? .key then do
          let key ← nodeOrEmpty fuel false [.value, .flowEntry, .flowMappingEnd]
          let value ← if ← skip? .value then
              nodeOrEmpty fuel false [.flowEntry, .flowMappingEnd]
            else empty
          pure (key, value)
        else do
          let key ← node fuel false false
          pure (key, ← empty)
      return pair :: (← flowPairs fuel false)

end

/-- The handles that every document knows. -/
def standardHandles : List (String × String) :=
  [("!", "!"), ("!!", Tag.standard "")]

/-- The directives before a document. The version may be given once, with one as
its major number, and each handle once. -/
def directives : Nat → Bool → Assemble Unit
  | 0, _ => throw .malformed
  | fuel + 1, versioned => do
    match ← peek with
    | some (.directive (.version major _)) =>
      if versioned || major != 1 then throw .malformed
      next
      directives fuel true
    | some (.directive (.handle name expansion)) =>
      if ((← get).handles.lookup name).isSome then throw .malformed
      modify fun assembly => { assembly with handles := (name, expansion) :: assembly.handles }
      next
      directives fuel versioned
    | some (.directive .other) =>
      next
      directives fuel versioned
    | _ => return

/-- Pass over all marks of a document's end. -/
def skipEnds : Nat → Assemble Unit
  | 0 => return
  | fuel + 1 => do
    if ← skip? .documentEnd then skipEnds fuel else return

/-- The document that starts here, if the text has not ended; `fuel` bounds the
tokens in it. A document without a mark at its start may come first only. -/
def document (fuel : Nat) : Assemble (Option Nat) := do
  match ← peek with
  | none => return none
  | some (.directive _) | some .documentStart =>
    directives fuel false
    modify fun assembly => { assembly with handles := assembly.handles ++ standardHandles }
    if ← skip? .documentStart then
      match ← peek with
      | none | some (.directive _) | some .documentStart | some .documentEnd =>
        return some (← empty)
      | some _ => return some (← node fuel true false)
    else refuse
  | some _ =>
    modify fun assembly => { assembly with handles := standardHandles }
    return some (← node fuel true false)

/-- The only document of a token list, if there is any. A second one is refused
once the directives before it have been read. -/
def onlyDocument (fuel : Nat) : Assemble (Option Nat) := do
  let root ← document fuel
  skipEnds fuel
  match ← peek with
  | none => return root
  | some _ =>
    modify fun assembly => { assembly with handles := [] }
    directives fuel false
    let _ ← peek
    refuse

end Assemble

/-- Read the only document of a token list, if there is any. -/
def Document.ofTokens (tokens : List Token) : Except Fault (Option Document) := do
  let (root, assembly) ←
    (Assemble.onlyDocument (4 * tokens.length + 8)).run ⟨tokens, #[], [], []⟩
  return root.map fun root => ⟨assembly.nodes, root⟩

end ManifestAudit.Yaml
