import ManifestAudit.Proofs.Text

/-!
# Written numbers

A number is written in Latin digits, without leading zeros unless it is zero itself. Such
digits are read back as the number, `decimalNumber_decimalDigits`, and are taken off the front
of any text that goes on with something else, `takeNumeral?_decimalDigits`.
-/

namespace ManifestAudit.Text

/-- What holds of each of the ten Latin digits holds of all of them. -/
theorem of_isAsciiDigit (property : Char → Prop)
    (each : ∀ worth < 10, property (Char.ofNat (0x30 + worth))) {c : Char}
    (digit : isAsciiDigit c) : property c := by
  obtain ⟨low, high⟩ := isAsciiDigit_iff.mp digit
  have holds := each (c.toNat - 0x30) (by omega)
  rw [Nat.add_sub_cancel' low, Char.ofNat_toNat] at holds
  exact holds

/-- A Latin digit is worth its distance from zero. -/
theorem digitValue?_of_isAsciiDigit {c : Char} (digit : isAsciiDigit c) :
    digitValue? c = some (c.toNat - 0x30) := by
  obtain ⟨low, high⟩ := isAsciiDigit_iff.mp digit
  have within : 0x30 ≤ c.toNat ∧ c.toNat < 0x30 + 10 := ⟨low, by omega⟩
  rw [digitValue?, decimalZeros, List.findSome?_cons, if_pos within]

theorem isDecimal_of_isAsciiDigit {c : Char} (digit : isAsciiDigit c) : isDecimal c := by
  rw [isDecimal, digitValue?_of_isAsciiDigit digit]
  rfl

/-- A written number consists of Latin digits. -/
theorem isAsciiDigit_of_mem_decimalDigits {number : Nat} {c : Char}
    (member : c ∈ decimalDigits number) : isAsciiDigit c := by
  have digit : c.isDigit = true := Nat.isDigit_of_mem_toDigits (by decide) (by decide) member
  simp only [Char.isDigit, Bool.and_eq_true, decide_eq_true_eq, ge_iff_le,
    UInt32.le_iff_toNat_le] at digit
  exact isAsciiDigit_iff.mpr digit

/-- The number that Latin digits write is the usual one. -/
theorem foldl_digitValue_eq {digits : List Char} (latin : ∀ c ∈ digits, isAsciiDigit c)
    (number : Nat) :
    digits.foldl (fun number digit => number * 10 + (digitValue? digit).getD 0) number =
      Nat.ofDigitChars 10 digits number := by
  induction digits generalizing number with
  | nil => rfl
  | cons digit digits inductionHypothesis =>
      have worth := digitValue?_of_isAsciiDigit (latin digit List.mem_cons_self)
      rw [List.foldl_cons, Nat.ofDigitChars_cons, worth, Option.getD_some, Nat.mul_comm]
      exact inductionHypothesis (fun c member => latin c (List.mem_cons_of_mem _ member)) _

/-- A written number is read back. -/
theorem decimalNumber_decimalDigits (number : Nat) :
    decimalNumber (decimalDigits number) = number := by
  rw [decimalNumber, foldl_digitValue_eq fun _ => isAsciiDigit_of_mem_decimalDigits]
  exact Nat.ofDigitChars_ten_toDigits

/-- A number other than zero is not written with a zero in front. -/
theorem head?_decimalDigits_ne_zero {number : Nat} (notZero : number ≠ 0) :
    (decimalDigits number).head? ≠ some '0' := by
  induction number using Nat.strongRecOn with
  | ind number inductionHypothesis =>
      rw [decimalDigits, Nat.toDigits_eq_if (by decide)]
      split
      case isTrue small =>
        have each : ∀ digit < 10, digit ≠ 0 → Nat.digitChar digit ≠ '0' := by decide
        simpa using each number small notZero
      case isFalse large =>
        have front := inductionHypothesis (number / 10) (by omega) (by omega)
        obtain ⟨first, rest, written⟩ :=
          List.exists_cons_of_ne_nil (Nat.toDigits_ne_nil (n := number / 10) (b := 10))
        rw [decimalDigits, written] at front
        rw [written]
        exact front

/-- A written number begins with a digit, and with zero only if it is zero. -/
theorem exists_decimalDigits_eq_cons (number : Nat) :
    ∃ digit digits, decimalDigits number = digit :: digits ∧ isAsciiDigit digit ∧
      (digit = '0' → digits = []) := by
  cases written : decimalDigits number with
  | nil => exact absurd written Nat.toDigits_ne_nil
  | cons digit digits =>
      have member : digit ∈ decimalDigits number := written ▸ List.mem_cons_self
      refine ⟨digit, digits, rfl, isAsciiDigit_of_mem_decimalDigits member, ?_⟩
      rintro rfl
      have zero : number = 0 := Decidable.byContradiction fun notZero =>
        head?_decimalDigits_ne_zero notZero (by rw [written, List.head?_cons])
      rw [zero] at written
      exact (List.cons.inj written).2.symm

/-- A written number is taken off the front of what goes on with something else. -/
theorem takeNumeral?_decimalDigits (number : Nat) (rest : List Char)
    (ends : ∀ c ∈ rest.head?, isDecimal c = false) :
    takeNumeral? (decimalDigits number ++ rest) = some (decimalDigits number, rest) := by
  obtain ⟨digit, digits, written, latin, alone⟩ := exists_decimalDigits_eq_cons number
  have decimals : ∀ c ∈ digits, isDecimal c := by
    intro c behind
    have member : c ∈ decimalDigits number := written ▸ List.mem_cons_of_mem _ behind
    exact isDecimal_of_isAsciiDigit (isAsciiDigit_of_mem_decimalDigits member)
  obtain ⟨taken, dropped⟩ := takeWhile_append_of_head? decimals rest ends
  rw [written, List.cons_append, takeNumeral?, taken, dropped]
  by_cases zero : digit = '0'
  · rw [if_pos zero, alone zero, zero, List.nil_append]
  · rw [if_neg zero, if_pos latin]

/-- A number that stands alone is taken whole. -/
theorem takeNumeral?_decimalDigits_alone (number : Nat) :
    takeNumeral? (decimalDigits number) = some (decimalDigits number, []) := by
  simpa using takeNumeral?_decimalDigits number [] nofun

end ManifestAudit.Text
