import ManifestAudit.Proofs.Yaml.Contract
import ManifestAudit.Yaml.Node

/-!
# What putting a document together may come to

Every node of a document comes from its tokens (`Node.IsFrom`): a scalar has the text of a
scalar token, or none, and its tag is its own or comes from a tag token. The tokens are
refused as malformed, or with the fault that stands among them.
-/

namespace ManifestAudit.Yaml

variable {tokens : List Token}

/-- A tag that is written out: what the suffix of a tag token is put behind. -/
def IsWritten (tokens : List Token) (tag : String) : Prop :=
  ∃ handle suffix expansion, .tag handle suffix ∈ tokens ∧ tag = expansion ++ suffix

/-- A tag that a node with this text has by a tag token: the one written out, or where that
is the exclamation mark the one of the text's shape. -/
def IsDemanded (tokens : List Token) (text : Text) (tag : String) : Prop :=
  IsWritten tokens tag ∨ IsWritten tokens "!" ∧ tag = Tag.ofPlain text

/-- A text that stands in the tokens as a scalar, or is left out. -/
def IsScalarText (tokens : List Token) (text : Text) : Prop :=
  text = [] ∨ ∃ plain, .scalar text plain ∈ tokens

/-- What a node may be, given the tokens. -/
def Node.IsFrom (tokens : List Token) : Node → Prop
  | .scalar tag text => IsScalarText tokens text ∧
      (tag = Tag.text ∨ tag = Tag.null ∨ (tag = Tag.ofPlain text ∧ .scalar text true ∈ tokens) ∨
        IsDemanded tokens text tag)
  | .sequence _ _ => True
  | .mapping tag _ => tag = Tag.mapping ∨ tag = Tag.text ∨ IsWritten tokens tag

/-- The faults for which tokens may be refused. -/
def Unreadable (tokens : List Token) (fault : Fault) : Prop :=
  fault = .malformed ∨ .broken fault ∈ tokens

/-- An assembly is one of the tokens: what is left are tokens at their end, and the nodes
come from them. -/
structure Assembly.IsOf (assembly : Assembly) (tokens : List Token) : Prop where
  rest : assembly.tokens <:+ tokens
  nodes : ∀ node ∈ assembly.nodes, node.IsFrom tokens

namespace Assemble

/-- A step of putting a document together keeps to the tokens and gives a good answer, or
refuses the tokens. -/
def Assembles {α : Type} (tokens : List Token) (good : α → Prop) (step : Assemble α) : Prop :=
  Keeps (Unreadable tokens) (fun assembly => assembly.IsOf tokens) good step

/-! ## Steps -/

theorem assembles_throw {α : Type} {good : α → Prop} :
    Assembles tokens good (throw .malformed : Assemble α) :=
  Keeps.throw (.inl rfl)

theorem assembles_ite {α : Type} {good : α → Prop} {condition : Prop} [Decidable condition]
    {first second : Assemble α} (one : Assembles tokens good first)
    (other : Assembles tokens good second) :
    Assembles tokens good (if condition then first else second) := by
  split
  · exact one
  · exact other

theorem assembles_peek :
    Assembles tokens (fun token? => ∀ token, token? = some token → token ∈ tokens) peek := by
  refine Keeps.get.bind fun assembly kept => ?_
  split
  case h_1 => exact .pure (by simp)
  case h_2 fault rest left =>
    have member : Token.broken fault ∈ tokens := kept.rest.mem (by simp [left])
    exact Keeps.throw (.inr member)
  case h_3 token rest _ left =>
    have member : token ∈ tokens := kept.rest.mem (by simp [left])
    exact .pure (by simpa using member)

theorem assembles_next : Assembles tokens Any next :=
  Keeps.modify fun _ kept => ⟨(List.tail_suffix _).trans kept.rest, kept.nodes⟩

theorem assembles_isAt (expected : List Token) : Assembles tokens Any (isAt expected) := by
  refine assembles_peek.bind fun token? _ => ?_
  split <;> exact .pure trivial

theorem assembles_skip? (token : Token) : Assembles tokens Any (skip? token) := by
  refine (assembles_isAt [token]).bind fun here _ => ?_
  split
  · exact assembles_next.bind fun _ _ => .pure trivial
  · exact .pure trivial

theorem assembles_add (node : Node) (explained : node.IsFrom tokens) :
    Assembles tokens Any (add node) := by
  refine Keeps.get.bind fun _ _ => ?_
  refine (Keeps.modify fun assembly kept => ?_).bind fun _ _ => .pure trivial
  refine ⟨kept.rest, fun other member => ?_⟩
  rcases Array.mem_push.mp member with member | rfl
  · exact kept.nodes other member
  · exact explained

theorem assembles_set (number : Nat) (node : Node) (explained : node.IsFrom tokens) :
    Assembles tokens Any (set number node) := by
  refine Keeps.modify fun assembly kept => ⟨kept.rest, fun other member => ?_⟩
  rcases Array.mem_or_eq_of_mem_setIfInBounds member with member | rfl
  · exact kept.nodes other member
  · exact explained

theorem assembles_name (anchor : Option String) (number : Nat) :
    Assembles tokens Any (name anchor number) := by
  unfold name
  split
  case h_1 => exact .pure trivial
  case h_2 =>
    refine Keeps.get.bind fun _ _ => ?_
    split
    · exact assembles_throw
    · exact Keeps.modify fun _ kept => ⟨kept.rest, kept.nodes⟩

theorem assembles_empty : Assembles tokens Any empty :=
  assembles_add _ ⟨.inl rfl, .inr (.inl rfl)⟩

/-! ## Properties -/

theorem assembles_anchor? : Assembles tokens Any anchor? := by
  refine assembles_peek.bind fun token? _ => ?_
  split
  · exact assembles_next.bind fun _ _ => .pure trivial
  · exact .pure trivial

theorem assembles_tag? :
    Assembles tokens (fun tag? => ∀ tag, tag? = some tag → .tag tag.1 tag.2 ∈ tokens) tag? := by
  refine assembles_peek.bind fun token? members => ?_
  split
  case h_1 handle suffix =>
    refine assembles_next.bind fun _ _ => .pure ?_
    rintro tag ⟨⟩
    exact members _ rfl
  case h_2 => exact .pure (by simp)

theorem assembles_resolve {tag : Option String × String} (member : .tag tag.1 tag.2 ∈ tokens) :
    Assembles tokens (IsWritten tokens) (resolve tag) := by
  unfold resolve
  split
  case h_1 suffix => exact .pure ⟨none, suffix, "", member, by simp⟩
  case h_2 handle suffix =>
    refine Keeps.get.bind fun _ _ => ?_
    split
    case h_1 expansion _ => exact .pure ⟨some handle, suffix, expansion, member, rfl⟩
    case h_2 => exact assembles_throw

/-- A tag in front of a node, if there is one, is written out. -/
abbrev TagWritten (tokens : List Token) (tag? : Option String) : Prop :=
  ∀ tag, tag? = some tag → IsWritten tokens tag

theorem assembles_mapM_resolve {tag? : Option (Option String × String)}
    (members : ∀ tag, tag? = some tag → .tag tag.1 tag.2 ∈ tokens) :
    Assembles tokens (TagWritten tokens) (tag?.mapM resolve) := by
  cases tag? with
  | none => exact .pure nofun
  | some tag =>
      rw [Option.mapM_some, map_eq_pure_bind]
      refine (assembles_resolve (members tag rfl)).bind fun resolved written => .pure ?_
      rintro tag ⟨⟩
      exact written

theorem assembles_properties :
    Assembles tokens (fun found => TagWritten tokens found.2) properties := by
  refine assembles_anchor?.bind fun anchor? _ => ?_
  split
  case h_1 anchor =>
    refine assembles_tag?.bind fun tag? members => ?_
    exact (assembles_mapM_resolve members).bind fun _ written => .pure written
  case h_2 =>
    refine assembles_tag?.bind fun tag? members => ?_
    split
    case h_1 tag =>
      refine assembles_anchor?.bind fun _ _ => ?_
      refine (assembles_resolve (members tag rfl)).bind fun resolved written => .pure ?_
      rintro tag ⟨⟩
      exact written
    case h_2 => exact .pure nofun

theorem isFrom_scalar {text : Text} {plain : Bool} {tag? : Option String}
    (member : .scalar text plain ∈ tokens) (written : TagWritten tokens tag?) :
    Node.IsFrom tokens (.scalar (scalarTag tag? text plain) text) := by
  refine ⟨.inr ⟨plain, member⟩, ?_⟩
  unfold scalarTag
  split
  case h_1 => exact .inr (.inr (.inr (.inr ⟨written _ rfl, rfl⟩)))
  case h_2 => exact .inr (.inr (.inr (.inl (written _ rfl))))
  case h_3 =>
    split
    case isTrue isPlain =>
      subst isPlain
      exact .inr (.inr (.inl ⟨rfl, member⟩))
    case isFalse => exact .inl rfl

/-- A node that has properties only is an empty scalar. -/
theorem isFrom_bare {tag? : Option String} (written : TagWritten tokens tag?) :
    Node.IsFrom tokens (.scalar (scalarTag tag? [] true) []) := by
  refine ⟨.inl rfl, ?_⟩
  unfold scalarTag
  split
  case h_1 => exact .inr (.inr (.inr (.inr ⟨written _ rfl, rfl⟩)))
  case h_2 => exact .inr (.inr (.inr (.inl (written _ rfl))))
  case h_3 => exact .inr (.inl (by decide +kernel))

theorem isFrom_mapping {tag? : Option String} (written : TagWritten tokens tag?)
    (pairs : List (Nat × Nat)) :
    Node.IsFrom tokens (.mapping (collectionTag tag? Tag.mapping) pairs) := by
  unfold collectionTag
  split
  case h_1 => exact .inl rfl
  case h_2 => exact .inr (.inr (written _ rfl))
  case h_3 => exact .inl rfl

theorem assembles_bare (anchor : Option String) {tag? : Option String}
    (written : TagWritten tokens tag?) : Assembles tokens Any (node.bare anchor tag?) := by
  unfold node.bare
  split
  · exact assembles_throw
  · refine (assembles_add _ (isFrom_bare written)).bind fun number _ => ?_
    exact (assembles_name anchor number).bind fun _ _ => .pure trivial

theorem assembles_sequence (anchor tag? : Option String) {items : Assemble (List Nat)}
    (assembles : Assembles tokens Any items) :
    Assembles tokens Any (node.sequence anchor tag? items) := by
  unfold node.sequence
  refine (assembles_add (.sequence _ []) trivial).bind fun number _ => ?_
  refine (assembles_name anchor number).bind fun _ _ => ?_
  refine assembles.bind fun items _ => ?_
  exact (assembles_set number (.sequence _ items) trivial).bind fun _ _ => .pure trivial

theorem assembles_mapping (anchor : Option String) {tag? : Option String}
    (written : TagWritten tokens tag?) {pairs : Assemble (List (Nat × Nat))}
    (assembles : Assembles tokens Any pairs) :
    Assembles tokens Any (node.mapping anchor tag? pairs) := by
  unfold node.mapping
  refine (assembles_add _ (isFrom_mapping written _)).bind fun number _ => ?_
  refine (assembles_name anchor number).bind fun _ _ => ?_
  refine assembles.bind fun _ _ => ?_
  exact (assembles_set number _ (isFrom_mapping written _)).bind fun _ _ => .pure trivial

/-! ## The grammar -/

/-- What is read with at most so much fuel is put together from the tokens. -/
structure Productions (tokens : List Token) (fuel : Nat) : Prop where
  node : ∀ block indentless, Assembles tokens Any (node fuel block indentless)
  nodeOrEmpty : ∀ block enders, Assembles tokens Any (nodeOrEmpty fuel block enders)
  blockItems : Assembles tokens Any (blockItems fuel)
  indentlessItems : Assembles tokens Any (indentlessItems fuel)
  blockPairs : Assembles tokens Any (blockPairs fuel)
  flowItems : ∀ first, Assembles tokens Any (flowItems fuel first)
  flowPairs : ∀ first, Assembles tokens Any (flowPairs fuel first)

namespace Productions

variable {fuel : Nat}

theorem node_succ (inner : Productions tokens fuel) (block indentless : Bool) :
    Assembles tokens Any (Assemble.node (fuel + 1) block indentless) := by
  unfold Assemble.node
  refine assembles_peek.bind fun _ _ => ?_
  split
  case h_1 =>
    refine assembles_next.bind fun _ _ => ?_
    refine Keeps.get.bind fun _ _ => ?_
    split
    · exact .pure trivial
    · exact assembles_throw
  case h_2 =>
    refine assembles_properties.bind fun found written => ?_
    refine assembles_peek.bind fun _ members => ?_
    split
    case h_1 =>
      refine assembles_next.bind fun _ _ => ?_
      refine (assembles_add _ (isFrom_scalar (members _ rfl) written)).bind fun number _ => ?_
      exact (assembles_name _ number).bind fun _ _ => .pure trivial
    case h_2 => exact assembles_next.bind fun _ _ => assembles_sequence _ _ (inner.flowItems true)
    case h_3 =>
      exact assembles_next.bind fun _ _ => assembles_mapping _ written (inner.flowPairs true)
    case h_4 =>
      split
      · exact assembles_next.bind fun _ _ => assembles_sequence _ _ inner.blockItems
      · exact assembles_bare _ written
    case h_5 =>
      split
      · exact assembles_next.bind fun _ _ => assembles_mapping _ written inner.blockPairs
      · exact assembles_bare _ written
    case h_6 =>
      split
      · exact assembles_sequence _ _ inner.indentlessItems
      · exact assembles_bare _ written
    case h_7 => exact assembles_bare _ written

theorem nodeOrEmpty_succ (inner : Productions tokens fuel) (block : Bool) (enders : List Token) :
    Assembles tokens Any (Assemble.nodeOrEmpty (fuel + 1) block enders) := by
  unfold Assemble.nodeOrEmpty
  refine (assembles_isAt enders).bind fun _ _ => ?_
  split
  · exact assembles_empty
  · exact inner.node block block

theorem blockItems_succ (inner : Productions tokens fuel) :
    Assembles tokens Any (Assemble.blockItems (fuel + 1)) := by
  unfold Assemble.blockItems
  refine (assembles_skip? .blockEntry).bind fun _ _ => ?_
  split
  · refine (assembles_isAt [.blockEntry, .blockEnd]).bind fun _ _ => ?_
    extract_lets more
    have others (item : Nat) : Assembles tokens Any (more item) :=
      inner.blockItems.bind fun _ _ => .pure trivial
    split
    · exact assembles_empty.bind fun item _ => others item
    · exact (inner.node true false).bind fun item _ => others item
  · refine (assembles_skip? .blockEnd).bind fun _ _ => ?_
    split
    · exact .pure trivial
    · exact assembles_throw

theorem indentlessItems_succ (inner : Productions tokens fuel) :
    Assembles tokens Any (Assemble.indentlessItems (fuel + 1)) := by
  unfold Assemble.indentlessItems
  refine (assembles_skip? .blockEntry).bind fun _ _ => ?_
  split
  · refine (assembles_isAt [.blockEntry, .key, .value, .blockEnd]).bind fun _ _ => ?_
    extract_lets more
    have others (item : Nat) : Assembles tokens Any (more item) :=
      inner.indentlessItems.bind fun _ _ => .pure trivial
    split
    · exact assembles_empty.bind fun item _ => others item
    · exact (inner.node true false).bind fun item _ => others item
  · exact .pure trivial

theorem blockPairs_succ (inner : Productions tokens fuel) :
    Assembles tokens Any (Assemble.blockPairs (fuel + 1)) := by
  unfold Assemble.blockPairs
  refine (assembles_skip? .key).bind fun _ _ => ?_
  split
  · refine (inner.nodeOrEmpty _ _).bind fun key _ => ?_
    refine (assembles_skip? .value).bind fun _ _ => ?_
    extract_lets more
    have others (value : Nat) : Assembles tokens Any (more value) :=
      inner.blockPairs.bind fun _ _ => .pure trivial
    split
    · exact (inner.nodeOrEmpty _ _).bind fun value _ => others value
    · exact assembles_empty.bind fun value _ => others value
  · refine (assembles_skip? .blockEnd).bind fun _ _ => ?_
    split
    · exact .pure trivial
    · exact assembles_throw

theorem flowItems_succ (inner : Productions tokens fuel) (first : Bool) :
    Assembles tokens Any (Assemble.flowItems (fuel + 1) first) := by
  unfold Assemble.flowItems
  refine (assembles_skip? .flowSequenceEnd).bind fun _ _ => ?_
  refine assembles_ite (.pure trivial) ?_
  extract_lets more body
  have others (item : Nat) : Assembles tokens Any (more item) :=
    (inner.flowItems false).bind fun _ _ => .pure trivial
  have items (separated : Bool) : Assembles tokens Any (body separated) := by
    dsimp only [body]
    refine assembles_ite assembles_throw ?_
    refine (assembles_skip? .flowSequenceEnd).bind fun _ _ => ?_
    refine assembles_ite (.pure trivial) ?_
    refine (assembles_skip? .key).bind fun _ _ => ?_
    refine assembles_ite ?_ ((inner.node false false).bind fun item _ => others item)
    refine (inner.nodeOrEmpty _ _).bind fun key _ => ?_
    refine (assembles_skip? .value).bind fun _ _ => ?_
    have single (value : Nat) :
        Assembles tokens Any (add (.mapping Tag.mapping [(key, value)]) >>= more) :=
      (assembles_add (.mapping _ _) (.inl rfl)).bind fun item _ => others item
    refine assembles_ite ?_ (assembles_empty.bind fun value _ => single value)
    exact (inner.nodeOrEmpty _ _).bind fun value _ => single value
  refine assembles_ite (items true) ?_
  exact (assembles_skip? .flowEntry).bind fun separated _ => items separated

theorem flowPairs_succ (inner : Productions tokens fuel) (first : Bool) :
    Assembles tokens Any (Assemble.flowPairs (fuel + 1) first) := by
  unfold Assemble.flowPairs
  refine (assembles_skip? .flowMappingEnd).bind fun _ _ => ?_
  refine assembles_ite (.pure trivial) ?_
  extract_lets more body
  have others (pair : Nat × Nat) : Assembles tokens Any (more pair) :=
    (inner.flowPairs false).bind fun _ _ => .pure trivial
  have pairs (separated : Bool) : Assembles tokens Any (body separated) := by
    dsimp only [body]
    refine assembles_ite assembles_throw ?_
    refine (assembles_skip? .flowMappingEnd).bind fun _ _ => ?_
    refine assembles_ite (.pure trivial) ?_
    refine (assembles_skip? .key).bind fun _ _ => ?_
    refine assembles_ite ?_ ?_
    · refine (inner.nodeOrEmpty _ _).bind fun key _ => ?_
      refine (assembles_skip? .value).bind fun _ _ => ?_
      refine assembles_ite ?_ (assembles_empty.bind fun value _ => others (key, value))
      exact (inner.nodeOrEmpty _ _).bind fun value _ => others (key, value)
    · refine (inner.node false false).bind fun key _ => ?_
      exact assembles_empty.bind fun value _ => others (key, value)
  refine assembles_ite (pairs true) ?_
  exact (assembles_skip? .flowEntry).bind fun separated _ => pairs separated

end Productions

end Assemble

namespace Assemble
/-- Whatever is read of a document is put together from the tokens. -/
theorem productions (tokens : List Token) (fuel : Nat) : Productions tokens fuel := by
  induction fuel with
  | zero =>
      exact ⟨fun _ _ => assembles_throw, fun _ _ => assembles_throw, assembles_throw,
        assembles_throw, assembles_throw, fun _ => assembles_throw, fun _ => assembles_throw⟩
  | succ fuel inner =>
      exact ⟨inner.node_succ, inner.nodeOrEmpty_succ, inner.blockItems_succ,
        inner.indentlessItems_succ, inner.blockPairs_succ, inner.flowItems_succ,
        inner.flowPairs_succ⟩

theorem assembles_handles (change : List (String × String) → List (String × String)) :
    Assembles tokens Any (modify fun assembly : Assembly =>
      { assembly with handles := change assembly.handles }) :=
  Keeps.modify fun _ kept => ⟨kept.rest, kept.nodes⟩

theorem assembles_directives (fuel : Nat) (versioned : Bool) :
    Assembles tokens Any (directives fuel versioned) := by
  induction fuel generalizing versioned with
  | zero => exact assembles_throw
  | succ fuel inductionHypothesis =>
      unfold directives
      refine assembles_peek.bind fun _ _ => ?_
      split
      case h_1 =>
        refine assembles_ite ?_ ?_
        · exact Keeps.bind (assembles_throw : Assembles tokens Any _) fun _ _ =>
            assembles_next.bind fun _ _ => inductionHypothesis true
        · exact assembles_next.bind fun _ _ => inductionHypothesis true
      case h_2 =>
        refine Keeps.get.bind fun _ _ => ?_
        refine assembles_ite ?_ ?_
        · exact Keeps.bind (assembles_throw : Assembles tokens Any _) fun _ _ =>
            (assembles_handles _).bind fun _ _ => assembles_next.bind fun _ _ =>
              inductionHypothesis versioned
        · exact (assembles_handles _).bind fun _ _ => assembles_next.bind fun _ _ =>
            inductionHypothesis versioned
      case h_3 => exact assembles_next.bind fun _ _ => inductionHypothesis versioned
      case h_4 => exact .pure trivial

theorem assembles_skipEnds (fuel : Nat) : Assembles tokens Any (skipEnds fuel) := by
  induction fuel with
  | zero => exact .pure trivial
  | succ fuel inductionHypothesis =>
      refine (assembles_skip? .documentEnd).bind fun _ _ => ?_
      split
      · exact inductionHypothesis
      · exact .pure trivial

theorem assembles_document (fuel : Nat) : Assembles tokens Any (document fuel) := by
  have body : Assembles tokens Any (do return some (← node fuel true false)) :=
    ((productions tokens fuel).node true false).bind fun _ _ => .pure trivial
  have nothing : Assembles tokens Any (do return some (← empty)) :=
    assembles_empty.bind fun _ _ => .pure trivial
  refine assembles_peek.bind fun _ _ => ?_
  split
  case h_1 => exact .pure trivial
  case h_4 =>
    exact (assembles_handles fun _ => standardHandles).bind fun _ _ => body
  all_goals
    refine (assembles_directives fuel false).bind fun _ _ => ?_
    refine (assembles_handles (· ++ standardHandles)).bind fun _ _ => ?_
    refine (assembles_skip? .documentStart).bind fun _ _ => ?_
    refine assembles_ite ?_ assembles_throw
    refine assembles_peek.bind fun _ _ => ?_
    split
    case h_5 => exact body
    all_goals exact nothing

theorem assembles_onlyDocument (fuel : Nat) : Assembles tokens Any (onlyDocument fuel) := by
  refine (assembles_document fuel).bind fun _ _ => ?_
  refine (assembles_skipEnds fuel).bind fun _ _ => ?_
  refine assembles_peek.bind fun _ _ => ?_
  split
  · exact .pure trivial
  · refine (assembles_handles fun _ => []).bind fun _ _ => ?_
    refine (assembles_directives fuel false).bind fun _ _ => ?_
    exact assembles_peek.bind fun _ _ => assembles_throw

end Assemble

namespace Document

/-- The document of some tokens, or why there is none. -/
theorem yields_ofTokens (tokens : List Token) :
    Yields (Unreadable tokens)
      (fun document? => ∀ document, document? = some document →
        ∀ node ∈ document.nodes, node.IsFrom tokens)
      (Document.ofTokens tokens) := by
  have start : Assembly.IsOf ⟨tokens, #[], [], []⟩ tokens := ⟨List.suffix_rfl, by simp⟩
  unfold ofTokens
  refine (Assemble.assembles_onlyDocument _ _ start).bind fun answer kept => ?_
  rintro document made
  obtain ⟨root, _, rfl⟩ := Option.map_eq_some_iff.mp made
  exact kept.2.nodes

theorem unreadable_of_ofTokens {fault : Fault} (failed : ofTokens tokens = .error fault) :
    Unreadable tokens fault :=
  (yields_ofTokens tokens).of_error failed

theorem isFrom_of_ofTokens {document : Document} (read : ofTokens tokens = .ok (some document)) :
    ∀ node ∈ document.nodes, node.IsFrom tokens :=
  (yields_ofTokens tokens).of_ok read document rfl

end Document

end ManifestAudit.Yaml
