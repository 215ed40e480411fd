import AccumulatorMachine.Numeral.Hexadecimal
import AccumulatorMachine.Proofs.WordArithmetic
import Mathlib.Data.List.Induction

/-!
# What hexadecimal numerals denote

A numeral is at most one sign and then one digit or more, each digit worth
sixteen times the one after it.  Reading finds exactly the numerals of words,
and reads back what was written.  A written word holds no white space.
-/

namespace AccumulatorMachine
namespace Hexadecimal

/-- Digits and the number they denote. -/
inductive Magnitude : Text → Nat → Prop
  | digit {c : Char} {value : Nat} :
      digitValue? c = some value → Magnitude [c] value
  | append {digits : Text} {c : Char} {value last : Nat} :
      Magnitude digits value → digitValue? c = some last →
        Magnitude (digits ++ [c]) (value * 16 + last)

/-- Numerals and the integers they denote. -/
inductive Denotes : Text → Int → Prop
  | unsigned {digits : Text} {value : Nat} :
      Magnitude digits value → Denotes digits value
  | positive {digits : Text} {value : Nat} :
      Magnitude digits value → Denotes ('+' :: digits) value
  | negative {digits : Text} {value : Nat} :
      Magnitude digits value → Denotes ('-' :: digits) (-value)

/-! ## Digits -/

/-- Digits are visible characters of ASCII, none of them a sign. -/
theorem range_of_digitValue? {c : Char} {value : Nat}
    (digit : digitValue? c = some value) :
    0x30 ≤ c.toNat ∧ c.toNat ≤ 0x66 := by
  unfold digitValue? at digit
  simp only [Char.le_def, UInt32.le_iff_toNat_le] at digit
  split_ifs at digit with decimal lower upper
  · change 0x30 ≤ c.toNat ∧ c.toNat ≤ 0x39 at decimal
    exact ⟨by omega, by omega⟩
  · change 0x61 ≤ c.toNat ∧ c.toNat ≤ 0x66 at lower
    exact ⟨by omega, by omega⟩
  · change 0x41 ≤ c.toNat ∧ c.toNat ≤ 0x46 at upper
    exact ⟨by omega, by omega⟩

theorem digitValue?_digitChar {value : Nat} (small : value < 16) :
    digitValue? value.digitChar = some value := by
  have digits : ∀ value : Fin 16, digitValue? value.val.digitChar = some value.val := by
    decide
  exact digits ⟨value, small⟩

theorem magnitude?_append (value : Nat) (first second : Text) :
    magnitude? value (first ++ second) =
      (magnitude? value first).bind fun next => magnitude? next second := by
  induction first generalizing value with
  | nil => rfl
  | cons c rest inductionHypothesis =>
      rw [List.cons_append, magnitude?, magnitude?]
      cases digitValue? c with
      | none => rfl
      | some digit => exact inductionHypothesis _

theorem unsigned?_append (digits : Text) (c : Char) :
    unsigned? (digits ++ [c]) =
      (magnitude? 0 digits).bind fun value =>
        (digitValue? c).map fun last => value * 16 + last := by
  have nonempty : unsigned? (digits ++ [c]) = magnitude? 0 (digits ++ [c]) := by
    cases digits <;> rfl
  rw [nonempty, magnitude?_append]
  congr 1
  funext value
  rw [magnitude?]
  cases digitValue? c <;> rfl

/-- Digits denote what reading them one after the other adds up to. -/
theorem unsigned?_eq_some_iff (digits : Text) (value : Nat) :
    unsigned? digits = some value ↔ Magnitude digits value := by
  constructor
  · -- Digits are read from the left but weigh from the right, so the last one goes
    -- first.
    intro found
    induction digits using List.reverseRecOn generalizing value with
    | nil => cases found
    | append_singleton digits c inductionHypothesis =>
        rw [unsigned?_append] at found
        obtain ⟨before, shorter, rest⟩ := Option.bind_eq_some_iff.mp found
        obtain ⟨last, digit, rfl⟩ := Option.map_eq_some_iff.mp rest
        cases digits with
        | nil =>
            cases shorter
            rw [Nat.zero_mul, Nat.zero_add]
            exact .digit digit
        | cons first others => exact .append (inductionHypothesis before shorter) digit
  · intro magnitude
    induction magnitude with
    | @digit c value digit =>
        rw [← List.nil_append [c], unsigned?_append, digit]
        simp [magnitude?]
    | @append digits c value last shorter digit inductionHypothesis =>
        have found : magnitude? 0 digits = some value := by
          cases digits with
          | nil => cases inductionHypothesis
          | cons first rest => exact inductionHypothesis
        rw [unsigned?_append, found, digit]
        rfl

theorem Magnitude.exists_cons {digits : Text} {value : Nat}
    (magnitude : Magnitude digits value) :
    ∃ c rest digit, digits = c :: rest ∧ digitValue? c = some digit := by
  induction magnitude with
  | digit digit => exact ⟨_, [], _, rfl, digit⟩
  | append shorter last inductionHypothesis =>
      obtain ⟨c, rest, digit, rfl, first⟩ := inductionHypothesis
      exact ⟨c, _, digit, rfl, first⟩

theorem Magnitude.digitValue?_ne_none {digits : Text} {value : Nat}
    (magnitude : Magnitude digits value) :
    ∀ c ∈ digits, ∃ digit, digitValue? c = some digit := by
  induction magnitude with
  | digit digit =>
      intro c member
      rw [List.mem_singleton.mp member]
      exact ⟨_, digit⟩
  | append shorter last inductionHypothesis =>
      intro c member
      rcases List.mem_append.mp member with earlier | final
      · exact inductionHypothesis c earlier
      · rw [List.mem_singleton.mp final]
        exact ⟨_, last⟩

/-! ## Reading -/

theorem value?_eq_some_iff (token : Text) (value : Int) :
    value? token = some value ↔ Denotes token value := by
  constructor
  · intro found
    unfold value? at found
    split at found
    · obtain ⟨magnitude, digits, rfl⟩ := Option.map_eq_some_iff.mp found
      exact .negative ((unsigned?_eq_some_iff _ _).mp digits)
    · obtain ⟨magnitude, digits, rfl⟩ := Option.map_eq_some_iff.mp found
      exact .positive ((unsigned?_eq_some_iff _ _).mp digits)
    · obtain ⟨magnitude, digits, rfl⟩ := Option.map_eq_some_iff.mp found
      exact .unsigned ((unsigned?_eq_some_iff _ _).mp digits)
  · rintro (magnitude | magnitude | magnitude)
    · obtain ⟨c, rest, digit, rfl, first⟩ := magnitude.exists_cons
      have notMinus : c ≠ '-' := by
        rintro rfl
        cases first
      have notPlus : c ≠ '+' := by
        rintro rfl
        cases first
      rw [value?, (unsigned?_eq_some_iff _ _).mpr magnitude]
      · rfl
      · rintro digits ⟨⟩
        exact notMinus rfl
      · rintro digits ⟨⟩
        exact notPlus rfl
    · rw [value?, (unsigned?_eq_some_iff _ _).mpr magnitude]
      rfl
    · rw [value?, (unsigned?_eq_some_iff _ _).mpr magnitude]
      rfl

/-- Exactly the numerals of words are read. -/
theorem read_eq_ok_iff (token : Text) (word : Word) :
    read token = .ok word ↔ Denotes token word.toInt := by
  rw [← value?_eq_some_iff]
  unfold read
  cases value? token with
  | none => simp
  | some value =>
      simp only [Option.some.injEq]
      split_ifs with range
      · rw [Except.ok.injEq]
        constructor
        · rintro rfl
          exact (Word.toInt_ofInt_of_range range.1 range.2).symm
        · rintro rfl
          exact Int32.ofInt_toInt word
      · simp only [false_iff]
        rintro rfl
        exact range ⟨word.lowest_le_toInt, word.toInt_le_highest⟩

/-! ## Writing -/

theorem magnitude_toDigits (value : Nat) : Magnitude (Nat.toDigits 16 value) value := by
  induction value using Nat.strongRecOn with
  | ind value inductionHypothesis =>
      rw [Nat.toDigits_eq_if (by omega)]
      split_ifs with small
      · exact .digit (digitValue?_digitChar small)
      · have shorter := inductionHypothesis (value / 16) (by omega)
        have last := digitValue?_digitChar (show value % 16 < 16 by omega)
        have longer := Magnitude.append shorter last
        rwa [show value / 16 * 16 + value % 16 = value by omega] at longer

theorem denotes_ofInt (value : Int) : Denotes (ofInt value) value := by
  cases value with
  | ofNat magnitude => exact .unsigned (magnitude_toDigits magnitude)
  | negSucc predecessor => exact .negative (magnitude_toDigits (predecessor + 1))

/-- A written word is read back. -/
@[simp] theorem read_ofWord (word : Word) : read (ofWord word) = .ok word := by
  rw [read_eq_ok_iff]
  exact denotes_ofInt word.toInt

/-- A numeral starts with a sign or a digit and holds no other characters. -/
theorem Denotes.not_isBlank {token : Text} {value : Int}
    (denotes : Denotes token value) :
    ∀ c ∈ token, Text.isBlank c = false := by
  have visible {digits : Text} {value : Nat} (magnitude : Magnitude digits value) :
      ∀ c ∈ digits, Text.isBlank c = false := by
    intro c member
    obtain ⟨digit, found⟩ := magnitude.digitValue?_ne_none c member
    have range := range_of_digitValue? found
    unfold Text.isBlank
    simp
    omega
  cases denotes with
  | unsigned magnitude => exact visible magnitude
  | positive magnitude =>
      exact List.forall_mem_cons.mpr ⟨by decide, visible magnitude⟩
  | negative magnitude =>
      exact List.forall_mem_cons.mpr ⟨by decide, visible magnitude⟩

theorem Denotes.ne_nil {token : Text} {value : Int} (denotes : Denotes token value) :
    token ≠ [] := by
  cases denotes with
  | unsigned magnitude =>
      obtain ⟨c, rest, -, rfl, -⟩ := magnitude.exists_cons
      exact List.cons_ne_nil c rest
  | positive magnitude => exact List.cons_ne_nil _ _
  | negative magnitude => exact List.cons_ne_nil _ _

end Hexadecimal
end AccumulatorMachine
