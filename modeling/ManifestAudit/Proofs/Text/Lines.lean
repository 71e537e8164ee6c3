import ManifestAudit.Proofs.Text.Digit
import ManifestAudit.Text.Blank
import ManifestAudit.Text.Lines

/-!
# Lines and columns

Lines that hold no line feed can be put together and cut apart again, `linesOf_joinLines`, and
the lines that a message is cut into hold none. In a column of numbers, filled up with spaces on
the left, different numbers look different, `padLeft_toString_inj`.
-/

namespace ManifestAudit.Text

/-! ## Lines -/

/-- A line without a line feed. -/
def IsLine (line : String) : Prop := '\n' ∉ line.toList

instance (line : String) : Decidable (IsLine line) :=
  inferInstanceAs (Decidable ('\n' ∉ line.toList))

/-- Two lines, one behind the other, are a line. -/
theorem isLine_append_iff {left right : String} :
    IsLine (left ++ right) ↔ IsLine left ∧ IsLine right := by
  simp [IsLine]

/-- Put together, lines have a line feed in front of each but the first. -/
theorem toList_joinLines (first : String) (lines : List String) :
    (joinLines (first :: lines)).toList =
      first.toList ++ (lines.map String.toList).flatMap ('\n' :: ·) := by
  rw [joinLines, String.toList_intercalate]
  induction lines generalizing first with
  | nil => simp
  | cons next lines inductionHypothesis =>
      have rest := inductionHypothesis next
      simp only [List.map_cons] at rest ⊢
      rw [List.intercalate_cons_cons, rest]
      simp

/-- Line ends that are line feeds stay as they are. -/
theorem unifyNewlines_eq_self {chars : List Char} (free : '\r' ∉ chars) :
    unifyNewlines chars = chars := by
  fun_induction unifyNewlines chars with
  | case1 => rfl
  | case2 rest => simp at free
  | case3 rest => simp at free
  | case4 c rest _ _ inductionHypothesis =>
      rw [inductionHypothesis fun behind => free (List.mem_cons_of_mem _ behind)]

/-- The lines of a text, cut at its line feeds. -/
def linesOf (text : String) : List String :=
  (split '\n' text.toList).map String.ofList

/-- They are the ones that were put together. -/
theorem linesOf_joinLines {lines : List String} (nonempty : lines ≠ [])
    (free : ∀ line ∈ lines, IsLine line) : linesOf (joinLines lines) = lines := by
  obtain ⟨first, lines, rfl⟩ := List.exists_cons_of_ne_nil nonempty
  have pieces : split '\n' (joinLines (first :: lines)).toList =
      (first :: lines).map String.toList := by
    rw [toList_joinLines, split_flatMap, List.map_cons]
    intro piece member
    rw [← List.map_cons] at member
    obtain ⟨line, listed, rfl⟩ := List.mem_map.mp member
    exact free line listed
  simp [linesOf, pieces]

/-- No line that a message is cut into holds a line break. -/
theorem isLineBreak_of_mem_splitLines {chars line : List Char} (member : line ∈ splitLines chars) :
    ∀ c ∈ line, isLineBreak c = false := by
  fun_induction splitLines chars generalizing line with
  | case1 => cases member
  | case2 c breaks => simp_all
  | case3 c breaks => simp_all
  | case4 c d rest both inductionHypothesis =>
      rcases List.mem_cons.mp member with rfl | member
      · exact nofun
      · exact inductionHypothesis member
  | case5 c d rest both breaks inductionHypothesis =>
      rcases List.mem_cons.mp member with rfl | member
      · exact nofun
      · exact inductionHypothesis member
  | case6 c d rest both breaks inductionHypothesis =>
      have solid : isLineBreak c = false := Bool.eq_false_iff.mpr breaks
      cases cut : splitLines (d :: rest) with
      | nil =>
          rw [cut] at member
          simp_all [consFirst]
      | cons piece pieces =>
          rw [cut] at member inductionHypothesis
          rcases List.mem_cons.mp member with rfl | member
          · exact List.forall_mem_cons.mpr ⟨solid, inductionHypothesis List.mem_cons_self⟩
          · exact inductionHypothesis (List.mem_cons_of_mem _ member)

/-- So none holds a line feed, whatever is dropped at its end. -/
theorem isLine_dropEnd_of_mem_splitLines {chars line : List Char}
    (member : line ∈ splitLines chars) (accepts : Char → Bool) :
    IsLine (String.ofList (dropEnd accepts line)) := by
  intro feed
  rw [String.toList_ofList, dropEnd, List.mem_reverse] at feed
  have inLine := List.mem_reverse.mp ((List.dropWhile_sublist accepts).mem feed)
  cases isLineBreak_of_mem_splitLines member '\n' inLine

/-! ## Columns -/

/-- A number is written in digits. -/
theorem toString_eq_decimalDigits (number : Nat) :
    (toString number).toList = decimalDigits number := by
  simp [decimalDigits]

/-- A written number is a line. -/
theorem isLine_toString (number : Nat) : IsLine (toString number) := by
  intro feed
  rw [toString_eq_decimalDigits] at feed
  cases isAsciiDigit_of_mem_decimalDigits feed

/-- Filling up adds spaces, and no line feed. -/
theorem isLine_padLeft_iff {width : Nat} {text : String} :
    IsLine (padLeft width text) ↔ IsLine text := by
  simp [IsLine, padLeft]

theorem isLine_padRight_iff {width : Nat} {text : String} :
    IsLine (padRight width text) ↔ IsLine text := by
  simp [IsLine, padRight]

/-- A text of no more characters than fit is filled up to the width. -/
theorem length_padRight {width : Nat} {text : String} (fits : text.length ≤ width) :
    (padRight width text).length = width := by
  simp only [padRight, String.length_append, String.length_ofList, List.length_replicate]
  omega

/-- Different numbers in a column look different. -/
theorem padLeft_toString_inj {width left right : Nat}
    (same : padLeft width (toString left) = padLeft width (toString right)) : left = right := by
  -- The digits are what is left behind the spaces.
  have behind (number : Nat) : (padLeft width (toString number)).toList.dropWhile (· == ' ') =
      decimalDigits number := by
    have noSpace : ∀ c ∈ (decimalDigits number).head?, (c == ' ') = false := by
      intro c first
      have digit := isAsciiDigit_of_mem_decimalDigits (List.mem_of_head? first)
      exact of_isAsciiDigit (fun c => (c == ' ') = false) (by decide) digit
    have spaces : ∀ c ∈ List.replicate (width - (toString number).length) ' ',
        (c == ' ') = true := by
      simp
    rw [padLeft, String.toList_append, String.toList_ofList, toString_eq_decimalDigits]
    exact (takeWhile_append_of_head? spaces _ noSpace).2
  have digits : decimalDigits left = decimalDigits right := by rw [← behind, same, behind]
  rw [← decimalNumber_decimalDigits left, digits, decimalNumber_decimalDigits]

end ManifestAudit.Text
