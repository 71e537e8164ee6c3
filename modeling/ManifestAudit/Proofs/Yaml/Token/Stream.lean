import ManifestAudit.Proofs.Yaml.Token.Property
import ManifestAudit.Yaml.Token.Stream

/-!
# What scanning a text may come to

A scan stays within its text and gathers tokens that the text may give (`Scan.IsOf`). Each
kind of token keeps this, so one step does, and by induction the whole scan; `isFrom_of_mem`
is what it comes to for the tokens of a text.
-/

namespace ManifestAudit.Yaml

namespace Scan

variable {text : List Char} {scan : Scan}

/-- A scan is one of a text: its cursor is in the text, and the text may give its tokens. -/
structure IsOf (scan : Scan) (text : List Char) : Prop where
  place : scan.cursor.IsIn text
  tokens : ∀ token ∈ scan.tokens, token.IsFrom text

/-- A step of a scan leaves a scan of the same text, or refuses the text for a reason in it. -/
def Scans (text : List Char) (result : Except Fault Scan) : Prop :=
  Yields (Unscannable text) (fun scan => scan.IsOf text) result

theorem Scans.malformed : Scans text (.error .malformed) :=
  .inl rfl

/-- A choice between two steps. -/
theorem Scans.ite {condition : Prop} [Decidable condition] {first second : Except Fault Scan}
    (one : Scans text first) (other : Scans text second) :
    Scans text (if condition then first else second) := by
  split
  · exact one
  · exact other

theorem isOf_start (text : List Char) : (start text).IsOf text :=
  ⟨Cursor.isIn_start text, fun _ member => nomatch member⟩

theorem IsOf.emit (kept : scan.IsOf text) (token : Token) (given : token.IsFrom text) :
    (scan.emit token).IsOf text :=
  ⟨kept.place, List.forall_mem_cons.mpr ⟨given, kept.tokens⟩⟩

theorem IsOf.emitOver (kept : scan.IsOf text) (token : Token) (given : token.IsFrom text)
    (width : Nat) : (scan.emitOver token width).IsOf text :=
  ⟨kept.place.advanceBy width, (kept.emit token given).tokens⟩

theorem IsOf.insert (kept : scan.IsOf text) (token : Token) (given : token.IsFrom text)
    (before : Nat) : (scan.insert before token).IsOf text := by
  refine ⟨kept.place, fun other member => ?_⟩
  rcases List.mem_append.mp member with taken | dropped
  · exact kept.tokens other (List.mem_of_mem_take taken)
  · rcases List.mem_cons.mp dropped with rfl | dropped
    · exact given
    · exact kept.tokens other (List.mem_of_mem_drop dropped)

/-! ## Gaps, candidates and blocks -/

theorem IsOf.skipGapFrom (kept : scan.IsOf text) (fuel : Nat) :
    (skipGapFrom fuel scan).IsOf text := by
  induction fuel generalizing scan with
  | zero => exact kept
  | succ fuel inductionHypothesis =>
      unfold Scan.skipGapFrom
      dsimp only
      split
      case h_1 => exact ⟨kept.place.skipComment, kept.tokens⟩
      case h_2 broken =>
        exact inductionHypothesis ⟨kept.place.skipComment.lineBreak broken, kept.tokens⟩

theorem IsOf.skipGap (kept : scan.IsOf text) : scan.skipGap.IsOf text := by
  unfold Scan.skipGap
  dsimp only
  refine IsOf.skipGapFrom ?_ _
  refine ⟨?_, kept.tokens⟩
  dsimp only
  split
  · exact kept.place.advance
  · exact kept.place

theorem IsOf.dropStale (kept : scan.IsOf text) : Scans text scan.dropStale := by
  unfold Scan.dropStale
  split
  · exact Scans.malformed
  · exact ⟨kept.place, kept.tokens⟩

theorem IsOf.dropCandidate (kept : scan.IsOf text) : Scans text scan.dropCandidate := by
  unfold Scan.dropCandidate
  split
  · exact Scans.malformed
  · exact ⟨kept.place, kept.tokens⟩

theorem IsOf.noteCandidate (kept : scan.IsOf text) : Scans text scan.noteCandidate := by
  unfold Scan.noteCandidate
  split
  · exact kept.dropCandidate.bind fun _ kept => ⟨kept.place, kept.tokens⟩
  · exact kept

theorem IsOf.closeBlocks (kept : scan.IsOf text) (column : Int) (outers : List Int) :
    (closeBlocks column outers scan).IsOf text := by
  induction outers generalizing scan with
  | nil => exact kept
  | cons outer outers inductionHypothesis =>
      unfold Scan.closeBlocks
      split
      · have ended := kept.emit .blockEnd trivial
        exact inductionHypothesis ⟨ended.place, ended.tokens⟩
      · exact kept

theorem IsOf.unwind (kept : scan.IsOf text) (column : Int) : (scan.unwind column).IsOf text := by
  unfold Scan.unwind
  split
  · exact kept
  · exact kept.closeBlocks column _

theorem IsOf.openBlock (kept : scan.IsOf text) (column before : Nat) (token : Token)
    (given : token.IsFrom text) : (scan.openBlock column before token).IsOf text := by
  unfold Scan.openBlock
  split
  · have inserted := kept.insert token given before
    exact ⟨inserted.place, inserted.tokens⟩
  · exact kept

theorem IsOf.reset (kept : scan.IsOf text) : Scans text scan.reset :=
  (kept.unwind (-1)).dropCandidate.bind fun _ kept => ⟨kept.place, kept.tokens⟩

/-! ## The kinds of tokens -/

theorem IsOf.directive (kept : scan.IsOf text) : Scans text scan.directive := by
  refine kept.reset.bind fun _ kept => ?_
  refine (Property.readsToken_directive kept.place).bind fun _ read => ?_
  exact ⟨read.2, (kept.emit _ read.1).tokens⟩

theorem IsOf.separator (kept : scan.IsOf text) (token : Token) (given : token.IsFrom text) :
    Scans text (scan.separator token) :=
  kept.reset.bind fun _ kept => kept.emitOver token given 3

theorem IsOf.openFlow (kept : scan.IsOf text) (token : Token) (given : token.IsFrom text) :
    Scans text (scan.openFlow token) := by
  refine kept.noteCandidate.bind fun _ kept => ?_
  have emitted := kept.emitOver token given 1
  exact ⟨emitted.place, emitted.tokens⟩

theorem IsOf.closeFlow (kept : scan.IsOf text) (token : Token) (given : token.IsFrom text) :
    Scans text (scan.closeFlow token) := by
  refine kept.dropCandidate.bind fun _ kept => ?_
  have emitted := kept.emitOver token given 1
  exact ⟨emitted.place, emitted.tokens⟩

/-- What an indicator does once its block is open. -/
theorem IsOf.indicator (kept : scan.IsOf text) (keyAllowed : Bool) (token : Token)
    (given : token.IsFrom text) :
    Scans text ({ scan with keyAllowed := keyAllowed }.dropCandidate >>= fun scan =>
      pure (scan.emitOver token 1)) := by
  refine Yields.bind (IsOf.dropCandidate ?_) fun _ kept => ?_
  · exact ⟨kept.place, kept.tokens⟩
  · exact kept.emitOver token given 1

theorem IsOf.openBlockHere (kept : scan.IsOf text) (token : Token) (given : token.IsFrom text) :
    (if scan.inFlow then scan else scan.openBlock scan.cursor.column scan.count token).IsOf
      text := by
  split
  · exact kept
  · exact kept.openBlock _ _ token given

theorem IsOf.flowEntry (kept : scan.IsOf text) : Scans text scan.flowEntry :=
  kept.indicator true .flowEntry trivial

theorem IsOf.blockEntry (kept : scan.IsOf text) : Scans text scan.blockEntry := by
  unfold Scan.blockEntry
  split
  · exact Scans.malformed
  · exact (kept.openBlockHere .blockSequenceStart trivial).indicator true .blockEntry trivial

theorem IsOf.explicitKey (kept : scan.IsOf text) : Scans text scan.explicitKey := by
  unfold Scan.explicitKey
  split
  · exact Scans.malformed
  · exact (kept.openBlockHere .blockMappingStart trivial).indicator _ .key trivial

theorem IsOf.value (kept : scan.IsOf text) : Scans text scan.value := by
  unfold Scan.value
  split
  case h_1 candidate _ =>
    have keyed := kept.insert .key trivial candidate.token
    dsimp only
    split
    · refine IsOf.emitOver ?_ .value trivial 1
      exact ⟨keyed.place, keyed.tokens⟩
    · have opened := keyed.openBlock candidate.column candidate.token
        .blockMappingStart trivial
      refine IsOf.emitOver ?_ .value trivial 1
      exact ⟨opened.place, opened.tokens⟩
  case h_2 =>
    split
    · exact Scans.malformed
    · exact (kept.openBlockHere .blockMappingStart trivial).indicator _ .value trivial

theorem IsOf.property (kept : scan.IsOf text) {read : Cursor → Except Fault (Token × Cursor)}
    (reads : ∀ cursor : Cursor, cursor.IsIn text → ReadsToken text (read cursor)) :
    Scans text (scan.property read) := by
  refine kept.noteCandidate.bind fun _ kept => ?_
  refine (reads _ kept.place).bind fun _ read => ?_
  exact ⟨read.2, (kept.emit _ read.1).tokens⟩

theorem IsOf.anchor (kept : scan.IsOf text) {token : String → Token}
    (given : ∀ name, (token name).IsFrom text) : Scans text (scan.anchor token) :=
  kept.property fun _ place =>
    (Property.reads_anchorName place.advance).bind fun _ within => ⟨given _, within⟩

theorem IsOf.quotedScalar (kept : scan.IsOf text) : Scans text scan.quotedScalar :=
  kept.property fun _ place =>
    (Scalar.reads_quoted place).bind fun _ within => ⟨trivial, within⟩

theorem IsOf.blockScalar (kept : scan.IsOf text) (folded : Bool) :
    Scans text (scan.blockScalar folded) := by
  have allowed : IsOf { scan with keyAllowed := true } text := ⟨kept.place, kept.tokens⟩
  refine allowed.dropCandidate.bind fun _ kept => ?_
  refine (Scalar.reads_block kept.place folded _).bind fun _ within => ?_
  exact ⟨within, (kept.emit (.scalar _ false) trivial).tokens⟩

theorem IsOf.plainScalar (kept : scan.IsOf text) : Scans text scan.plainScalar := by
  refine kept.noteCandidate.bind fun scan kept => ?_
  obtain ⟨ends, within⟩ := Scalar.plain_spec kept.place scan.inFlow (scan.indent + 1)
  exact ⟨within, (kept.emit (.scalar _ true) ⟨_, rfl, ends⟩).tokens⟩

/-- Whatever token starts at the cursor, scanning it keeps to the text. -/
theorem IsOf.token (kept : scan.IsOf text) : Scans text scan.token := by
  unfold Scan.token
  exact .ite kept.directive <|
    .ite (kept.separator .documentStart trivial) <|
    .ite (kept.separator .documentEnd trivial) <|
    .ite (kept.openFlow .flowSequenceStart trivial) <|
    .ite (kept.openFlow .flowMappingStart trivial) <|
    .ite (kept.closeFlow .flowSequenceEnd trivial) <|
    .ite (kept.closeFlow .flowMappingEnd trivial) <|
    .ite kept.flowEntry <|
    .ite kept.blockEntry <|
    .ite kept.explicitKey <|
    .ite kept.value <|
    .ite (kept.anchor fun _ => trivial) <|
    .ite (kept.anchor fun _ => trivial) <|
    .ite (kept.property fun _ => Property.readsToken_tag) <|
    .ite (kept.blockScalar false) <|
    .ite (kept.blockScalar true) <|
    .ite kept.quotedScalar <|
    .ite kept.plainScalar .malformed

/-! ## Whole scans -/

/-- One step keeps to the text. -/
theorem IsOf.step (kept : scan.IsOf text) :
    Yields (Unscannable text) (fun stepped => stepped.1.IsOf text) scan.step := by
  unfold Scan.step
  refine kept.skipGap.dropStale.bind fun _ kept => ?_
  split
  · exact (kept.unwind (-1)).dropCandidate.bind fun _ kept => kept
  · exact (kept.unwind _).token.bind fun _ kept => kept

/-- The tokens that were certain are among the tokens so far. -/
theorem IsOf.certain (kept : scan.IsOf text) : ∀ token ∈ scan.certain, token.IsFrom text :=
  fun token member => kept.tokens token (List.mem_of_mem_drop (List.mem_reverse.mp member))

/-- A scan goes on with its next step. Unfolding `finish` by its name would try to evaluate
the step. -/
theorem finish_succ (fuel : Nat) (scan : Scan) :
    finish (fuel + 1) scan =
      match scan.step with
      | .error fault => scan.certain ++ [.broken fault]
      | .ok (scan, true) => scan.tokens.reverse
      | .ok (scan, false) => finish fuel scan := by
  delta finish
  rfl

/-- A whole scan gives tokens that the text may give. -/
theorem IsOf.finish (kept : scan.IsOf text) (fuel : Nat) :
    ∀ token ∈ finish fuel scan, token.IsFrom text := by
  induction fuel generalizing scan with
  | zero => exact List.forall_mem_append.mpr ⟨kept.certain, by simp [Token.IsFrom, Unscannable]⟩
  | succ fuel inductionHypothesis =>
      have stepped := kept.step
      rw [finish_succ]
      split
      case h_1 fault failed =>
        have reason : Token.IsFrom text (.broken fault) := stepped.of_error failed
        exact List.forall_mem_append.mpr ⟨kept.certain, List.forall_mem_singleton.mpr reason⟩
      case h_2 after done =>
        intro token member
        exact (stepped.of_ok done).tokens token (List.mem_reverse.mp member)
      case h_3 after done => exact inductionHypothesis (stepped.of_ok done)

end Scan

/-- The tokens of a text are such as it may give. -/
theorem isFrom_of_mem {text : List Char} {token : Token} (member : token ∈ tokens text) :
    token.IsFrom text := by
  unfold tokens at member
  exact (Scan.isOf_start text).finish _ token member

end ManifestAudit.Yaml
