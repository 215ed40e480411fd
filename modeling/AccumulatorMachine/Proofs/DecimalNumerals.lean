import AccumulatorMachine.Numeral.Decimal
import Mathlib.Tactic.SplitIfs

/-!
# Decimal numerals read back

The digits of a natural number denote it.  No part of them denotes more, so a bound
that the number keeps is never left on the way.
-/

namespace AccumulatorMachine
namespace Decimal

theorem digitValue?_digitChar {value : Nat} (small : value < 10) :
    digitValue? value.digitChar = some value := by
  have all : ∀ digit : Fin 10, digitValue? digit.val.digitChar = some digit.val := by decide
  exact all ⟨value, small⟩

theorem magnitude_append (bound : Nat) (overflow : Invalid) (value : Nat)
    (first second : Text) :
    magnitude bound overflow value (first ++ second) =
      (magnitude bound overflow value first).bind
        fun read => magnitude bound overflow read second := by
  fun_induction magnitude bound overflow value first with
  | case1 value => rfl
  | case2 value c rest notDigit =>
      rw [List.cons_append, magnitude, notDigit]
      rfl
  | case3 value c rest digit isDigit fits inductionHypothesis =>
      rw [List.cons_append, magnitude, isDigit, ← inductionHypothesis]
      exact if_pos fits
  | case4 value c rest digit isDigit tooLarge =>
      rw [List.cons_append, magnitude, isDigit]
      exact if_neg tooLarge

/-- The digits of a number within a bound are read as the number. -/
theorem magnitude_toDigits {bound number : Nat} (overflow : Invalid) (fits : number ≤ bound) :
    magnitude bound overflow 0 (Nat.toDigits 10 number) = .ok number := by
  induction number using Nat.strongRecOn with
  | ind number inductionHypothesis =>
      rw [Nat.toDigits_eq_if (by decide)]
      split_ifs with small
      · rw [magnitude, digitValue?_digitChar small]
        simp only [Nat.zero_mul, Nat.zero_add, if_pos fits, magnitude]
      · have shorter := inductionHypothesis (number / 10) (by omega) (by omega)
        have last := digitValue?_digitChar (show number % 10 < 10 by omega)
        have whole : number / 10 * 10 + number % 10 = number := by omega
        rw [magnitude_append, shorter]
        change magnitude bound overflow (number / 10) [(number % 10).digitChar] = .ok number
        rw [magnitude, last]
        simp only [whole, if_pos fits, magnitude]

theorem isDigit_of_mem_repr {number : Nat} {c : Char} (member : c ∈ (Nat.repr number).toList) :
    c.isDigit = true := by
  rw [Nat.toList_repr] at member
  exact Nat.isDigit_of_mem_toDigits (by decide) (by decide) member

/-- A natural number of sixty-four bits is read back. -/
theorem readCount_repr {number : Nat} (fits : number < UInt64.size) :
    readCount (Nat.repr number).toList = .ok number := by
  have isDigit {c : Char} (member : c ∈ (Nat.repr number).toList) := isDigit_of_mem_repr member
  rw [Nat.toList_repr] at isDigit ⊢
  have nonempty : Nat.toDigits 10 number ≠ [] := Nat.toDigits_ne_nil
  obtain ⟨first, rest, digits⟩ := List.exists_cons_of_ne_nil nonempty
  have notPlus : first ≠ '+' := by
    rintro rfl
    exact absurd (isDigit (digits ▸ List.mem_cons_self)) (by decide)
  have unsigned : readCount (first :: rest) =
      magnitude 18446744073709551615 .tooLarge 0 (first :: rest) := by
    simp [readCount, readNat, notPlus]
  rw [digits, unsigned, ← digits]
  exact magnitude_toDigits .tooLarge (Nat.le_of_lt_succ fits)

end Decimal
end AccumulatorMachine
