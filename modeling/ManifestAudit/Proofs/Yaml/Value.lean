import ManifestAudit.Proofs.Yaml.Node
import ManifestAudit.Yaml.Value.OfDocument

/-!
# What evaluating a document may come to

While a document is evaluated its nodes stay what they are, but for the pairs of mappings
and the tags of some keys, which become texts (`Node.Varies`). The text of a scalar is read
as its tag asks for, and nothing but that fails with a fault other than that the document is
malformed. So a document without a value has a scalar whose text its tag does not fit, and
that tag comes from the scalar's shape or from a tag token (`Valueless`).
-/

namespace ManifestAudit.Yaml

variable {tokens : List Token} {nodes : Array Node}

/-- The second of two nodes is the first with other pairs, or with the tag of texts. -/
inductive Node.Varies : Node → Node → Prop where
  | scalar {tag tag' : String} {text : Text} (kept : tag' = tag ∨ tag' = Tag.text) :
    Varies (.scalar tag text) (.scalar tag' text)
  | sequence {tag tag' : String} {items : List Nat} :
    Varies (.sequence tag items) (.sequence tag' items)
  | mapping {tag tag' : String} {pairs pairs' : List (Nat × Nat)}
      (kept : tag' = tag ∨ tag' = Tag.text) :
    Varies (.mapping tag pairs) (.mapping tag' pairs')

theorem Node.Varies.refl (node : Node) : node.Varies node := by
  cases node with
  | scalar => exact .scalar (.inl rfl)
  | sequence => exact .sequence
  | mapping => exact .mapping (.inl rfl)

/-- A node may be made a text once more. -/
theorem Node.Varies.retag {original node : Node} (varies : original.Varies node) :
    original.Varies (node.retag Tag.text) := by
  cases varies with
  | scalar => exact .scalar (.inr rfl)
  | sequence => exact .sequence
  | mapping => exact .mapping (.inr rfl)

/-- Why a document that the tokens write may have no value. -/
inductive Valueless (tokens : List Token) : Fault → Prop where
  | malformed : Valueless tokens .malformed
  | plain {text : Text} {fault : Fault} (member : .scalar text true ∈ tokens)
      (unfit : Atom.ofText (Tag.ofPlain text) text = .error fault) : Valueless tokens fault
  | demanded {tag : String} {text : Text} {fault : Fault} (demand : IsDemanded tokens text tag)
      (stands : IsScalarText tokens text) (unfit : Atom.ofText tag text = .error fault) :
    Valueless tokens fault
  | mapping (written : IsWritten tokens Tag.timestamp) : Valueless tokens .timestampOfMapping

/-- A node that varies one of the nodes at the start. -/
def IsVariant (nodes : Array Node) (number : Nat) (node : Node) : Prop :=
  ∃ original, nodes[number]? = some original ∧ original.Varies node

theorem IsVariant.varies {number : Nat} {original node : Node}
    (variant : IsVariant nodes number node) (stands : nodes[number]? = some original) :
    original.Varies node := by
  obtain ⟨other, stands', varies⟩ := variant
  obtain rfl := Option.some.inj (stands.symm.trans stands')
  exact varies

/-- An evaluation is one of some nodes. -/
def Evaluation.IsOf (state : Evaluation) (nodes : Array Node) : Prop :=
  ∀ number node, state.nodes[number]? = some node → IsVariant nodes number node

namespace Evaluate

/-- A step of evaluating a document keeps to its nodes and gives a good answer, or refuses
the document. -/
def Evaluates {α : Type} (tokens : List Token) (nodes : Array Node) (good : α → Prop)
    (step : Evaluate α) : Prop :=
  Keeps (Valueless tokens) (fun state => state.IsOf nodes) good step

/-! ## Nodes -/

theorem evaluates_throw {α : Type} {good : α → Prop} :
    Evaluates tokens nodes good (throw .malformed : Evaluate α) :=
  Keeps.throw .malformed

theorem evaluates_node (number : Nat) :
    Evaluates tokens nodes (IsVariant nodes number) (node number) := by
  refine Keeps.get.bind fun state kept => ?_
  split
  case h_1 found => exact .pure (kept number _ found)
  case h_2 => exact evaluates_throw

theorem evaluates_setNode {number : Nat} {node : Node} (variant : IsVariant nodes number node) :
    Evaluates tokens nodes Any (setNode number node) := by
  refine Keeps.modify fun state kept other found stands => ?_
  rw [Array.getElem?_setIfInBounds] at stands
  split at stands
  case isTrue same =>
    split at stands
    · cases stands
      exact same ▸ variant
    · cases stands
  case isFalse => exact kept other found stands

theorem evaluates_setShape (number : Nat) (shape : Shape) :
    Evaluates tokens nodes Any (setShape number shape) :=
  Keeps.modify fun _ kept => kept

theorem evaluates_setWaiting (change : Evaluation → List Nat) :
    Evaluates tokens nodes Any
      (modify fun state : Evaluation => { state with waiting := change state }) :=
  Keeps.modify fun _ kept => kept

/-- A node is a mapping, whatever its pairs are by now. -/
def IsMapping (nodes : Array Node) (number : Nat) : Prop :=
  ∃ tag pairs, nodes[number]? = some (.mapping tag pairs)

theorem evaluates_pairsOf (number : Nat) :
    Evaluates tokens nodes (fun _ => IsMapping nodes number) (pairsOf number) := by
  refine (evaluates_node number).bind fun found variant => ?_
  split
  case h_1 =>
    obtain ⟨original, stands, varies⟩ := variant
    cases varies
    exact .pure ⟨_, _, stands⟩
  case h_2 => exact evaluates_throw

theorem evaluates_setPairs {number : Nat} (isMapping : IsMapping nodes number)
    (pairs : List (Nat × Nat)) : Evaluates tokens nodes Any (setPairs number pairs) := by
  refine (evaluates_node number).bind fun found variant => evaluates_setNode ?_
  obtain ⟨tag, former, stands⟩ := isMapping
  cases variant.varies stands with
  | mapping kept => exact ⟨_, stands, .mapping kept⟩

theorem evaluates_isTagged (tag : String) (number : Nat) :
    Evaluates tokens nodes Any (isTagged tag number) :=
  (evaluates_node number).bind fun _ _ => .pure trivial

theorem evaluates_itemsOf (number : Nat) : Evaluates tokens nodes Any (itemsOf number) := by
  refine (evaluates_node number).bind fun _ _ => ?_
  split
  · exact .pure trivial
  · exact evaluates_throw

/-! ## Merge keys -/

theorem evaluates_firstMerge? (pairs : List (Nat × Nat)) :
    Evaluates tokens nodes Any (firstMerge? pairs) := by
  induction pairs with
  | nil => exact .pure trivial
  | cons pair pairs inductionHypothesis =>
      refine (evaluates_isTagged Tag.merge pair.1).bind fun _ _ => ?_
      split
      · exact .pure trivial
      · refine inductionHypothesis.bind fun _ _ => ?_
        split <;> exact .pure trivial

theorem evaluates_settleKey (key : Nat) : Evaluates tokens nodes Any (settleKey key) := by
  refine (evaluates_isTagged Tag.ownValue key).bind fun _ _ => ?_
  split
  · refine (evaluates_node key).bind fun found variant => evaluates_setNode ?_
    obtain ⟨original, stands, varies⟩ := variant
    exact ⟨original, stands, varies.retag⟩
  · exact .pure trivial

theorem evaluates_flatten (fuel number : Nat) (merged : List (Nat × Nat)) :
    Evaluates tokens nodes Any (flatten fuel number merged) := by
  induction fuel generalizing number merged with
  | zero => exact evaluates_throw
  | succ fuel inductionHypothesis =>
      unfold flatten
      refine (evaluates_pairsOf number).bind fun pairs isMapping => ?_
      refine (evaluates_firstMerge? pairs).bind fun _ _ => ?_
      split
      case h_1 =>
        have settled : Evaluates tokens nodes Any (pairs.forM fun pair => settleKey pair.1) :=
          Keeps.forM fun pair _ => evaluates_settleKey pair.1
        exact settled.bind fun _ _ => evaluates_setPairs isMapping _
      case h_2 =>
        refine (evaluates_setPairs isMapping _).bind fun _ _ => ?_
        extract_lets flattened more
        have inner (number : Nat) : Evaluates tokens nodes Any (flattened number) :=
          (inductionHypothesis number []).bind fun _ _ =>
            (evaluates_pairsOf number).mono fun _ _ => trivial
        have others (named : List (Nat × Nat)) : Evaluates tokens nodes Any (more named) :=
          inductionHypothesis number (merged ++ named)
        refine (evaluates_node _).bind fun _ _ => ?_
        split
        case h_1 => exact (inner _).bind fun named _ => others named
        case h_2 => exact (Keeps.mapM fun item _ => inner item).bind fun lists _ => others _
        case h_3 =>
          exact Keeps.bind (evaluates_throw : Evaluates tokens nodes Any _) fun named _ =>
            others named

/-! ## Scalars and collections -/

/-- The text that a node has as a scalar: its own, or for a mapping that of some scalar. -/
def IsTextOf (nodes : Array Node) (number : Nat) (text : Text) : Prop :=
  (∃ tag, .scalar tag text ∈ nodes) ∧
    ((∃ tag, nodes[number]? = some (.scalar tag text)) ∨ IsMapping nodes number)

theorem evaluates_scalarText (fuel number : Nat) :
    Evaluates tokens nodes (IsTextOf nodes number) (scalarText fuel number) := by
  induction fuel generalizing number with
  | zero => exact evaluates_throw
  | succ fuel inductionHypothesis =>
      unfold scalarText
      refine (evaluates_node number).bind fun found variant => ?_
      split
      case h_1 =>
        obtain ⟨original, stands, varies⟩ := variant
        cases varies
        exact .pure ⟨⟨_, Array.mem_of_getElem? stands⟩, .inl ⟨_, stands⟩⟩
      case h_2 => exact evaluates_throw
      case h_3 tag pairs =>
        obtain ⟨original, stands, varies⟩ := variant
        cases varies
        have sought : Evaluates tokens nodes
            (fun found => ∀ text, found.1 = some text → ∃ tag, .scalar tag text ∈ nodes)
            (forIn pairs (none, ()) fun pair _ => do
              if ← isTagged Tag.ownValue pair.1 then
                return .done (some (← scalarText fuel pair.2), ())
              else return .yield (none, ())) := by
          refine Keeps.forIn nofun fun pair _ _ => ?_
          refine (evaluates_isTagged Tag.ownValue pair.1).bind fun _ _ => ?_
          split
          · refine (inductionHypothesis pair.2).bind fun text textOf => .pure ?_
            rintro other ⟨⟩
            exact textOf.1
          · exact .pure nofun
        refine sought.bind fun found texts => ?_
        dsimp only
        split
        case h_1 text found => exact .pure ⟨texts text found, .inr ⟨_, _, stands⟩⟩
        case h_2 => exact evaluates_throw

/-- A scalar's own text may fail to fit its tag where that comes from its shape or from a
tag token. -/
theorem yields_ofText_of_scalar {tag tag' : String} {text : Text}
    (explained : Node.IsFrom tokens (.scalar tag text)) (kept : tag' = tag ∨ tag' = Tag.text) :
    Yields (Valueless tokens) Any (Atom.ofText tag' text) := by
  refine Yields.of_faults fun fault unfit => ?_
  obtain ⟨stands, tagged⟩ := explained
  rcases kept with rfl | rfl
  · rcases tagged with rfl | rfl | ⟨rfl, member⟩ | demand
    · cases unfit
    · cases unfit
    · exact .plain member unfit
    · exact .demanded demand stands unfit
  · cases unfit

/-- The text that a mapping has as its own value may fail to fit its tag where that comes
from a tag token. -/
theorem yields_ofText_of_mapping {tag tag' : String} {pairs : List (Nat × Nat)} {text : Text}
    (explained : Node.IsFrom tokens (.mapping tag pairs)) (stands : IsScalarText tokens text)
    (kept : tag' = tag ∨ tag' = Tag.text) :
    Yields (Valueless tokens) Any (Atom.ofText tag' text) := by
  refine Yields.of_faults fun fault unfit => ?_
  rcases kept with rfl | rfl
  · rcases explained with rfl | rfl | written
    · cases unfit
      exact .malformed
    · cases unfit
    · exact .demanded (.inl written) stands unfit
  · cases unfit

/-- No mapping is a day or time but by a tag token. -/
theorem isWritten_timestamp {tag : String} {pairs : List (Nat × Nat)}
    (explained : Node.IsFrom tokens (.mapping tag pairs))
    (kept : Tag.timestamp = tag ∨ Tag.timestamp = Tag.text) : IsWritten tokens Tag.timestamp := by
  have noText : Tag.timestamp ≠ Tag.text := by decide +kernel
  have noMapping : Tag.timestamp ≠ Tag.mapping := by decide +kernel
  rcases kept with rfl | text
  · rcases explained with mapping | text | written
    · exact absurd mapping noMapping
    · exact absurd text noText
    · exact written
  · exact absurd text noText

variable (explained : ∀ node ∈ nodes, node.IsFrom tokens)

include explained

/-- Reading a scalar gives an atom, or fails as it may. -/
theorem evaluates_atom (number : Nat) : Evaluates tokens nodes Any (atom number) := by
  refine Keeps.get.bind fun _ _ => ?_
  refine (evaluates_scalarText _ number).bind fun text textOf => ?_
  refine (evaluates_node number).bind fun found variant => ?_
  obtain ⟨⟨origin, isScalar⟩, ⟨tag, stands⟩ | ⟨tag, pairs, stands⟩⟩ := textOf
  · have scalar := explained _ (Array.mem_of_getElem? stands)
    cases variant.varies stands with
    | scalar kept => exact .lift (yields_ofText_of_scalar scalar kept)
  · have mapping := explained _ (Array.mem_of_getElem? stands)
    cases variant.varies stands with
    | mapping kept =>
        dsimp only
        split
        case isTrue timestamp =>
          exact Keeps.throw (.mapping (isWritten_timestamp mapping (timestamp ▸ kept)))
        case isFalse =>
          exact .lift (yields_ofText_of_mapping mapping (explained _ isScalar).1 kept)

theorem evaluates_meet (number : Nat) : Evaluates tokens nodes Any (meet number) := by
  refine Keeps.get.bind fun _ _ => ?_
  split
  case h_1 => exact .pure trivial
  case h_2 => exact .pure trivial
  case h_3 =>
    refine (evaluates_node number).bind fun _ _ => ?_
    split
    case h_1 =>
      refine (evaluates_setShape number _).bind fun _ _ => ?_
      exact (evaluates_setWaiting _).bind fun _ _ => .pure trivial
    case h_2 =>
      refine (evaluates_atom explained number).bind fun _ _ => ?_
      exact (evaluates_setShape number _).bind fun _ _ => .pure trivial

theorem evaluates_meetPair (entries : List (Key × Nat)) (pair : Nat × Nat) :
    Evaluates tokens nodes Any (meetPair entries pair) := by
  refine (evaluates_meet explained pair.1).bind fun _ _ => ?_
  split
  case h_1 => exact evaluates_throw
  case h_2 => exact (evaluates_meet explained pair.2).bind fun _ _ => .pure trivial

theorem evaluates_entriesOf (merges number : Nat) :
    Evaluates tokens nodes Any (entriesOf merges number) := by
  refine (evaluates_flatten _ number []).bind fun _ _ => ?_
  refine (evaluates_pairsOf number).bind fun _ _ => ?_
  exact Keeps.foldlM trivial fun entries pair _ => evaluates_meetPair explained entries pair

theorem evaluates_meetSingle (number : Nat) :
    Evaluates tokens nodes Any (meetSingle number) := by
  refine (evaluates_pairsOf number).bind fun _ _ => ?_
  split
  case h_1 key value =>
    refine (evaluates_meet explained key).bind fun _ _ => ?_
    exact (evaluates_meet explained value).bind fun _ _ => .pure trivial
  case h_2 => exact evaluates_throw

theorem evaluates_readCollection (merges number : Nat) :
    Evaluates tokens nodes Any (readCollection merges number) := by
  have entries := evaluates_entriesOf explained merges number
  refine Keeps.get.bind fun _ _ => ?_
  split
  case h_1 => exact entries.bind fun _ _ => evaluates_setShape number _
  case h_2 => exact entries.bind fun _ _ => evaluates_setShape number _
  case h_3 =>
    refine (evaluates_itemsOf number).bind fun items _ => ?_
    have met : Evaluates tokens nodes Any (items.forM fun item => discard (meet item)) :=
      Keeps.forM fun item _ => (evaluates_meet explained item).bind fun _ _ => .pure trivial
    exact met.bind fun _ _ => evaluates_setShape number _
  case h_4 =>
    refine (evaluates_itemsOf number).bind fun items _ => ?_
    refine (Keeps.mapM fun item _ => evaluates_meetSingle explained item).bind fun _ _ => ?_
    exact evaluates_setShape number _
  case h_5 => exact .pure trivial

theorem evaluates_readWaiting (merges rounds : Nat) :
    Evaluates tokens nodes Any (readWaiting merges rounds) := by
  induction rounds with
  | zero => exact .pure trivial
  | succ rounds inductionHypothesis =>
      refine Keeps.get.bind fun state _ => ?_
      dsimp only
      split
      · exact .pure trivial
      · refine (evaluates_setWaiting fun _ => []).bind fun _ _ => ?_
        have read :
            Evaluates tokens nodes Any (state.waiting.reverse.forM (readCollection merges)) :=
          Keeps.forM fun number _ => evaluates_readCollection explained merges number
        exact read.bind fun _ _ => inductionHypothesis

end Evaluate

open Evaluate in
/-- A document without a value has none for a reason in its tokens. -/
theorem Document.valueless_of_value {document : Document} {fault : Fault}
    (explained : ∀ node ∈ document.nodes, node.IsFrom tokens)
    (failed : document.value = .error fault) : Valueless tokens fault := by
  have start : Evaluation.IsOf ⟨document.nodes, Array.replicate document.nodes.size none, []⟩
      document.nodes := fun _ node stands => ⟨node, stands, .refl node⟩
  have evaluates (rounds : Nat) : Evaluates tokens document.nodes Any (do
      let _ ← meet document.root
      readWaiting (mergeCount document.nodes) rounds) :=
    (evaluates_meet explained document.root).bind fun _ _ =>
      evaluates_readWaiting explained _ rounds
  have yields : Yields (Valueless tokens) Any document.value :=
    (evaluates _ _ start).bind fun _ _ => trivial
  exact yields.of_error failed

end ManifestAudit.Yaml
