import ManifestAudit.Yaml.Atom

/-!
# YAML values

What a YAML document says. A part of a document may stand in it many times, and
even within itself, so a value is a place in a graph: the graph tells the shape of
every place, and collections name the places of their parts. A collection is
written out where it is shown, but not within itself.
-/

namespace ManifestAudit.Yaml

/-- A key of a mapping, or an item of a set: what it is and where it stands. -/
structure Key where
  node : Nat
  atom : Atom

/-- Whether two keys are one. A key is one with itself even if its atom does not
equal itself. -/
def Key.same (left right : Key) : Bool :=
  left.node == right.node || left.atom.same right.atom

/-- What stands at a place of a graph: an atom, or a collection by the places of
its parts. -/
inductive Shape where
  | leaf (atom : Atom)
  | sequence (items : List Nat)
  | mapping (entries : List (Key × Nat))
  | pairs (entries : List (Nat × Nat))
  | set (items : List Key)
  deriving Inhabited

/-- The shapes of all places, as far as they have one. -/
abbrev Graph := Array (Option Shape)

namespace Graph

/-- What stands at a place. -/
def shape? (graph : Graph) (place : Nat) : Option Shape :=
  graph[place]?.join

/-- Show several things with commas between them and marks around them. -/
def enclosed (opening closing : String) (shown : List String) : String :=
  opening ++ ", ".intercalate shown ++ closing

/-- How what stands at a place is shown. `around` are the places of the collections
around it; where one of them comes round again, dots stand for it. There are at most
`fuel` levels. -/
def display (graph : Graph) : Nat → List Nat → Nat → String
  | 0, _, _ => "..."
  | fuel + 1, around, place =>
    let within := display graph fuel (place :: around)
    let again := around.contains place
    match graph.shape? place with
    | none => "..."
    | some (.leaf atom) => atom.display
    | some (.sequence items) => enclosed "[" "]" (if again then ["..."] else items.map within)
    | some (.mapping entries) =>
      enclosed "\x7b" "\x7d" <|
        if again then ["..."]
        else entries.map fun (key, value) => key.atom.display ++ ": " ++ within value
    | some (.pairs entries) =>
      enclosed "[" "]" <|
        if again then ["..."]
        else entries.map fun (key, value) => enclosed "(" ")" [within key, within value]
    | some (.set []) => "set()"
    | some (.set items) => enclosed "\x7b" "\x7d" (items.map (·.atom.display))

end Graph

/-- A value: a place in a graph. -/
structure Value where
  graph : Graph
  place : Nat

namespace Value

/-- The value that an atom is by itself. -/
def ofAtom (atom : Atom) : Value :=
  ⟨#[some (.leaf atom)], 0⟩

/-- What a value is. -/
def shape? (value : Value) : Option Shape :=
  value.graph.shape? value.place

/-- How a value is shown. A chain of collections within each other holds each of
them once, and one more where it comes round again. -/
def display (value : Value) : String :=
  value.graph.display (value.graph.size + 1) [] value.place

/-- The text of a value: an atom's own, or a collection as it is shown. -/
def plainText (value : Value) : Text :=
  match value.shape? with
  | some (.leaf atom) => atom.plainText
  | _ => value.display

/-- Whether a value counts as true: of collections, those that are not empty. -/
def isTruthy (value : Value) : Bool :=
  match value.shape? with
  | none => false
  | some (.leaf atom) => atom.isTruthy
  | some (.sequence items) => !items.isEmpty
  | some (.mapping entries) => !entries.isEmpty
  | some (.pairs entries) => !entries.isEmpty
  | some (.set items) => !items.isEmpty

/-- Whether a value is null. -/
def isNull (value : Value) : Bool :=
  match value.shape? with
  | some (.leaf .null) => true
  | _ => false

/-- The entries of a mapping, each key by its atom. -/
def entries? (value : Value) : Option (List (Atom × Value)) :=
  match value.shape? with
  | some (.mapping entries) =>
    some (entries.map fun (key, place) => (key.atom, ⟨value.graph, place⟩))
  | _ => none

end Value

end ManifestAudit.Yaml
