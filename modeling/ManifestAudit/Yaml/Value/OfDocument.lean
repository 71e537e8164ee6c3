import ManifestAudit.Yaml.Atom.OfText
import ManifestAudit.Yaml.Node
import ManifestAudit.Yaml.Value

/-!
# The value of a document

Nodes are given their shapes level by level: the scalars under a collection are
read when the collection is, the collections under it afterwards. Mappings first
take in what their merge keys name. A place of the value's graph is the number of
a node, so that parts of the document that are one stay one.
-/

namespace ManifestAudit.Yaml

/-- The state while a document is evaluated. -/
structure Evaluation where
  nodes : Array Node
  graph : Graph
  /-- Collections that were met and not yet read, the last first. -/
  waiting : List Nat

/-- A step of evaluating a document. -/
abbrev Evaluate := StateT Evaluation (Except Fault)

namespace Evaluate

/-- The node with a number. -/
def node (number : Nat) : Evaluate Node := do
  match (← get).nodes[number]? with
  | some node => return node
  | none => throw .malformed

/-- Replace a node. -/
def setNode (number : Nat) (node : Node) : Evaluate Unit :=
  modify fun state => { state with nodes := state.nodes.setIfInBounds number node }

/-- Note the shape of a node. -/
def setShape (number : Nat) (shape : Shape) : Evaluate Unit :=
  modify fun state => { state with graph := state.graph.setIfInBounds number (some shape) }

/-- The pairs of a mapping. -/
def pairsOf (number : Nat) : Evaluate (List (Nat × Nat)) := do
  match ← node number with
  | .mapping _ pairs => return pairs
  | _ => throw .malformed

/-- Replace the pairs of a mapping. -/
def setPairs (number : Nat) (pairs : List (Nat × Nat)) : Evaluate Unit := do
  setNode number (.mapping (← node number).tag pairs)

/-! ## Merge keys -/

/-- Whether a node has a tag. -/
def isTagged (tag : String) (number : Nat) : Evaluate Bool := do
  return (← node number).tag == tag

/-- The first pair of a mapping whose key is a merge key: the pairs before it, the
value that it names, and the pairs behind it. -/
def firstMerge? : List (Nat × Nat) → Evaluate (Option (List (Nat × Nat) × Nat × List (Nat × Nat)))
  | [] => return none
  | (key, value) :: pairs => do
    if ← isTagged Tag.merge key then return some ([], value, pairs)
    else
      match ← firstMerge? pairs with
      | some (before, named, behind) => return some ((key, value) :: before, named, behind)
      | none => return none

/-- Within a mapping, the key for its own value is a text like any other. -/
def settleKey (key : Nat) : Evaluate Unit := do
  if ← isTagged Tag.ownValue key then setNode key ((← node key).retag Tag.text)

/-- Replace the merge keys of a mapping, one after another, by the pairs that they
name; of several mappings that one key names, the last comes first. `merged` are the
pairs named so far; in the end they come before the mapping's own. Each step takes
a merge key away, so `fuel` need only exceed the number of merge keys. -/
def flatten : Nat → Nat → List (Nat × Nat) → Evaluate Unit
  | 0, _, _ => throw .malformed
  | fuel + 1, number, merged => do
    let pairs ← pairsOf number
    match ← firstMerge? pairs with
    | none =>
      pairs.forM fun (key, _) => settleKey key
      setPairs number (merged ++ pairs)
    | some (before, value, behind) =>
      setPairs number (before ++ behind)
      let flattened (number : Nat) : Evaluate (List (Nat × Nat)) := do
        flatten fuel number []
        pairsOf number
      let named ← match ← node value with
        | .mapping _ _ => flattened value
        | .sequence _ items => do
          let lists ← items.mapM flattened
          pure lists.reverse.flatten
        | .scalar _ _ => throw .malformed
      flatten fuel number (merged ++ named)

/-- The number of merge keys in a document. -/
def mergeCount (nodes : Array Node) : Nat :=
  nodes.foldl (fun count node =>
    match node with
    | .mapping _ pairs =>
      count + pairs.countP fun (key, _) => (nodes[key]?.map Node.tag) == some Tag.merge
    | _ => count) 0

/-! ## Scalars and collections -/

/-- The text of a node that is to be a scalar. A mapping may have a scalar as its
own value. -/
def scalarText : Nat → Nat → Evaluate Text
  | 0, _ => throw .malformed
  | fuel + 1, number => do
    match ← node number with
    | .scalar _ text => return text
    | .sequence _ _ => throw .malformed
    | .mapping _ pairs =>
      for (key, value) in pairs do
        if ← isTagged Tag.ownValue key then return ← scalarText fuel value
      throw .malformed

/-- The atom of a node with a scalar's tag. A mapping's own value cannot make a day
or time. -/
def atom (number : Nat) : Evaluate Atom := do
  let text ← scalarText ((← get).nodes.size + 1) number
  match ← node number with
  | .mapping tag _ =>
    if tag = Tag.timestamp then throw .timestampOfMapping else Atom.ofText tag text
  | other => Atom.ofText other.tag text

/-- The empty collection that a tag asks for, if it asks for one. -/
def emptyShape? (tag : String) : Option Shape :=
  if tag = Tag.mapping then some (.mapping [])
  else if tag = Tag.sequence then some (.sequence [])
  else if tag = Tag.set then some (.set [])
  else if tag = Tag.orderedMapping ∨ tag = Tag.pairs then some (.pairs [])
  else none

/-- Meet a node. If its tag is a scalar's it is read, and its atom given. If it is
a collection's, the collection is empty at first and waits to be read. -/
def meet (number : Nat) : Evaluate (Option Atom) := do
  match (← get).graph.shape? number with
  | some (.leaf atom) => return some atom
  | some _ => return none
  | none =>
    match emptyShape? (← node number).tag with
    | some shape =>
      setShape number shape
      modify fun state => { state with waiting := number :: state.waiting }
      return none
    | none =>
      let atom ← atom number
      setShape number (.leaf atom)
      return some atom

/-- Meet the key and the value of a pair, and put them behind the entries before
them. A key must be a scalar; of equal keys the first stands with the last value. -/
def meetPair (entries : List (Key × Nat)) (pair : Nat × Nat) : Evaluate (List (Key × Nat)) := do
  match ← meet pair.1 with
  | none => throw .malformed
  | some atom =>
    let _ ← meet pair.2
    return Association.put Key.same ⟨pair.1, atom⟩ pair.2 entries

/-- The entries of a mapping, its merge keys resolved. -/
def entriesOf (merges number : Nat) : Evaluate (List (Key × Nat)) := do
  flatten (merges + 1) number []
  (← pairsOf number).foldlM meetPair []

/-- The items of a sequence. -/
def itemsOf (number : Nat) : Evaluate (List Nat) := do
  match ← node number with
  | .sequence _ items => return items
  | _ => throw .malformed

/-- Meet the only pair of a mapping. -/
def meetSingle (number : Nat) : Evaluate (Nat × Nat) := do
  match ← pairsOf number with
  | [(key, value)] =>
    let _ ← meet key
    let _ ← meet value
    return (key, value)
  | _ => throw .malformed

/-- Read a collection that waited: its tag has given it a shape, which its parts
now fill. -/
def readCollection (merges number : Nat) : Evaluate Unit := do
  match (← get).graph.shape? number with
  | some (.mapping _) => setShape number (.mapping (← entriesOf merges number))
  | some (.set _) => setShape number (.set ((← entriesOf merges number).map Prod.fst))
  | some (.sequence _) =>
    let items ← itemsOf number
    items.forM fun item => discard (meet item)
    setShape number (.sequence items)
  | some (.pairs _) => setShape number (.pairs (← (← itemsOf number).mapM meetSingle))
  | _ => return

/-- Read the collections that wait, in the order in which they were met, and those
that are met on the way, in at most `rounds` rounds. -/
def readWaiting (merges : Nat) : Nat → Evaluate Unit
  | 0 => return
  | rounds + 1 => do
    let waiting := (← get).waiting
    if waiting.isEmpty then return
    modify fun state => { state with waiting := [] }
    waiting.reverse.forM (readCollection merges)
    readWaiting merges rounds

end Evaluate

/-- The value of a document. There are no more rounds than nodes. -/
def Document.value (document : Document) : Except Fault Value := do
  let size := document.nodes.size
  let evaluate : Evaluate Unit := do
    let _ ← Evaluate.meet document.root
    Evaluate.readWaiting (Evaluate.mergeCount document.nodes) size
  let (_, state) ← evaluate.run ⟨document.nodes, Array.replicate size none, []⟩
  return ⟨state.graph, document.root⟩

end ManifestAudit.Yaml
