import AccumulatorMachine.Proofs.LineFaults
import Mathlib.Data.Nat.Digits.Defs

/-!
# Spellings of words

A numeral spells the signed number that its digits denote by their positions in
base sixteen, and words are read from their numerals and from nothing else.  Of
the spellings of a word, the written one is the only one without ornament: no plus
sign, no upper-case digit, no zero before another digit, and no minus sign before
zero.
-/

namespace AccumulatorMachine
namespace Hexadecimal

/-- The digits in lower case, each at the place of its value. -/
def lowerDigits : Text :=
  "0123456789abcdef".toList

/-- The digits in upper case, each at the place of its value. -/
def upperDigits : Text :=
  "0123456789ABCDEF".toList

/-- A character is the digit of a value, in either case. -/
def IsDigit (c : Char) (value : Nat) : Prop :=
  lowerDigits[value]? = some c ∨ upperDigits[value]? = some c

/-- What can stand in front of the digits of a numeral. -/
inductive Sign
  | absent
  | plus
  | minus

namespace Sign

/-- A sign as it is written. -/
def text : Sign → Text
  | absent => []
  | plus => ['+']
  | minus => ['-']

/-- The number that a sign makes of a magnitude. -/
def apply : Sign → Nat → Int
  | absent, magnitude | plus, magnitude => magnitude
  | minus, magnitude => -magnitude

end Sign

/-- At most one sign and one digit or more spell a number in base sixteen.  The values
of the digits are listed from the last digit on. -/
inductive Spells : Text → Int → Prop
  | numeral (sign : Sign) {digits : Text} {values : List Nat} :
      digits ≠ [] → List.Forall₂ IsDigit digits.reverse values →
        Spells (sign.text ++ digits) (sign.apply (Nat.ofDigits 16 values))

/-- A numeral without plus sign, upper-case digits and superfluous zeros. -/
structure IsPlain (token : Text) : Prop where
  noPlus : '+' ∉ token
  lowerCase : ∀ c ∈ token, c ∈ upperDigits → c ∈ lowerDigits
  noSuperfluousZero : ∀ (sign : Sign) rest, token = sign.text ++ '0' :: rest → rest = []

/-! ## Positions -/

theorem isDigit_iff (c : Char) (value : Nat) :
    IsDigit c value ↔ digitValue? c = some value := by
  constructor
  · have lower : ∀ place : Fin 16, lowerDigits[place.val]?.bind digitValue? = some place.val := by
      decide
    have upper : ∀ place : Fin 16, upperDigits[place.val]?.bind digitValue? = some place.val := by
      decide
    rintro (found | found)
    · obtain ⟨inside, -⟩ := List.getElem?_eq_some_iff.mp found
      have valued := lower ⟨value, inside⟩
      rwa [found] at valued
    · obtain ⟨inside, -⟩ := List.getElem?_eq_some_iff.mp found
      have valued := upper ⟨value, inside⟩
      rwa [found] at valued
  · -- Digits lie in a short range of characters, of which each is looked at.
    have placed : ∀ code : Fin 0x67, ∀ value ∈ digitValue? (Char.ofNat code.val),
        lowerDigits[value]? = some (Char.ofNat code.val) ∨
          upperDigits[value]? = some (Char.ofNat code.val) := by
      decide
    intro digit
    have small : c.toNat < 0x67 := Nat.lt_succ_of_le (range_of_digitValue? digit).2
    have found := placed ⟨c.toNat, small⟩ value
    rw [Char.ofNat_toNat] at found
    exact found digit

theorem magnitude_of_forall₂ {reversed : Text} {values : List Nat} (nonempty : reversed ≠ [])
    (areDigits : List.Forall₂ IsDigit reversed values) :
    Magnitude reversed.reverse (Nat.ofDigits 16 values) := by
  induction areDigits with
  | nil => exact absurd rfl nonempty
  | @cons c value others rest isDigit areDigits inductionHypothesis =>
      have digit := (isDigit_iff c value).mp isDigit
      rw [List.reverse_cons, Nat.ofDigits_cons, Nat.add_comm, Nat.mul_comm]
      cases areDigits with
      | nil =>
          rw [Nat.ofDigits_nil, Nat.zero_mul, Nat.zero_add]
          exact .digit digit
      | cons => exact .append (inductionHypothesis (List.cons_ne_nil _ _)) digit

/-- A magnitude is what its digits denote by their positions. -/
theorem magnitude_iff (digits : Text) (value : Nat) :
    Magnitude digits value ↔
      digits ≠ [] ∧ ∃ values, List.Forall₂ IsDigit digits.reverse values ∧
        value = Nat.ofDigits 16 values := by
  constructor
  · intro magnitude
    induction magnitude with
    | @digit c value digit =>
        refine ⟨List.cons_ne_nil _ _, [value], .cons ((isDigit_iff c value).mpr digit) .nil, ?_⟩
        exact Nat.ofDigits_singleton.symm
    | @append digits c value last _ digit inductionHypothesis =>
        obtain ⟨-, values, areDigits, rfl⟩ := inductionHypothesis
        refine ⟨List.append_ne_nil_of_right_ne_nil _ (List.cons_ne_nil _ _), last :: values, ?_, ?_⟩
        · rw [List.reverse_append, List.reverse_singleton, List.singleton_append]
          exact .cons ((isDigit_iff c last).mpr digit) areDigits
        · rw [Nat.ofDigits_cons, Nat.mul_comm, Nat.add_comm]
  · rintro ⟨nonempty, values, areDigits, rfl⟩
    have magnitude := magnitude_of_forall₂ (List.reverse_ne_nil_iff.mpr nonempty) areDigits
    rwa [List.reverse_reverse] at magnitude

/-- Numerals denote what they spell. -/
theorem denotes_iff_spells (token : Text) (value : Int) :
    Denotes token value ↔ Spells token value := by
  constructor
  · rintro (magnitude | magnitude | magnitude)
    · obtain ⟨nonempty, values, areDigits, rfl⟩ := (magnitude_iff _ _).mp magnitude
      exact .numeral .absent nonempty areDigits
    · obtain ⟨nonempty, values, areDigits, rfl⟩ := (magnitude_iff _ _).mp magnitude
      exact .numeral .plus nonempty areDigits
    · obtain ⟨nonempty, values, areDigits, rfl⟩ := (magnitude_iff _ _).mp magnitude
      exact .numeral .minus nonempty areDigits
  · rintro ⟨sign, nonempty, areDigits⟩
    have magnitude := (magnitude_iff _ _).mpr ⟨nonempty, _, areDigits, rfl⟩
    cases sign with
    | absent => exact .unsigned magnitude
    | plus => exact .positive magnitude
    | minus => exact .negative magnitude

/-! ## Digits that are written -/

theorem mem_lowerDigits_of_mem_toDigits {magnitude : Nat} {c : Char}
    (member : c ∈ Nat.toDigits 16 magnitude) :
    c ∈ lowerDigits := by
  have written : ∀ value : Fin 16, value.val.digitChar ∈ lowerDigits := by decide
  induction magnitude using Nat.strongRecOn with
  | ind magnitude inductionHypothesis =>
      rw [Nat.toDigits_eq_if (by decide)] at member
      split_ifs at member with small
      · rw [List.mem_singleton.mp member]
        exact written ⟨magnitude, small⟩
      · rcases List.mem_append.mp member with earlier | last
        · exact inductionHypothesis (magnitude / 16) (by omega) earlier
        · rw [List.mem_singleton.mp last]
          exact written ⟨magnitude % 16, Nat.mod_lt magnitude (by decide)⟩

/-- No written magnitude but zero starts with the digit zero. -/
theorem head?_toDigits_ne_zero {magnitude : Nat} (positive : 0 < magnitude) :
    (Nat.toDigits 16 magnitude).head? ≠ some '0' := by
  have nonzero : ∀ value : Fin 16, 0 < value.val → value.val.digitChar ≠ '0' := by decide
  induction magnitude using Nat.strongRecOn with
  | ind magnitude inductionHypothesis =>
      rw [Nat.toDigits_eq_if (by decide)]
      split_ifs with small
      · rw [List.head?_cons, ne_eq, Option.some.injEq]
        exact nonzero ⟨magnitude, small⟩ positive
      · rw [List.head?_append_of_ne_nil _ Nat.toDigits_ne_nil]
        exact inductionHypothesis (magnitude / 16) (by omega) (by omega)

theorem digitChar_of_digitValue? {c : Char} {value : Nat}
    (digit : digitValue? c = some value)
    (lowerCase : c ∈ upperDigits → c ∈ lowerDigits) :
    value < 16 ∧ value.digitChar = c := by
  have same : ∀ place : Fin 16, lowerDigits[place.val]? = some place.val.digitChar := by decide
  have aligned : ∀ place other : Fin 16,
      upperDigits[place.val]? = lowerDigits[other.val]? → place = other := by decide
  have isLower : lowerDigits[value]? = some c := by
    rcases (isDigit_iff c value).mpr digit with found | found
    · exact found
    · obtain ⟨other, foundOther⟩ :=
        List.mem_iff_getElem?.mp (lowerCase (List.mem_of_getElem? found))
      obtain ⟨inside, -⟩ := List.getElem?_eq_some_iff.mp found
      obtain ⟨insideOther, -⟩ := List.getElem?_eq_some_iff.mp foundOther
      have samePlace : value = other := congrArg Fin.val
        (aligned ⟨value, inside⟩ ⟨other, insideOther⟩ (found.trans foundOther.symm))
      rw [samePlace, foundOther]
  obtain ⟨inside, -⟩ := List.getElem?_eq_some_iff.mp isLower
  exact ⟨inside, Option.some.inj ((same ⟨value, inside⟩).symm.trans isLower)⟩

/-- Lower-case digits without a zero in front of others are the written form of their
magnitude. -/
theorem toDigits_of_magnitude {digits : Text} {value : Nat}
    (magnitude : Magnitude digits value)
    (lowerCase : ∀ c ∈ digits, c ∈ upperDigits → c ∈ lowerDigits)
    (noZero : ∀ rest, digits = '0' :: rest → rest = []) :
    Nat.toDigits 16 value = digits := by
  induction magnitude with
  | @digit c value digit =>
      obtain ⟨small, written⟩ := digitChar_of_digitValue? digit (lowerCase c (by simp))
      rw [Nat.toDigits_of_lt_base small, written]
  | @append digits c value last shorter digit inductionHypothesis =>
      rw [List.forall_mem_append] at lowerCase
      obtain ⟨small, written⟩ := digitChar_of_digitValue? digit (lowerCase.2 c (by simp))
      have noZeroBefore : ∀ rest, digits ≠ '0' :: rest := by
        rintro rest rfl
        exact List.append_ne_nil_of_right_ne_nil rest (List.cons_ne_nil c []) (noZero _ rfl)
      have before := inductionHypothesis lowerCase.1
        fun rest starts => absurd starts (noZeroBefore rest)
      have positive : 0 < value := by
        rw [Nat.pos_iff_ne_zero]
        rintro rfl
        exact noZeroBefore [] before.symm
      calc
        Nat.toDigits 16 (value * 16 + last) =
            Nat.toDigits 16 value ++ Nat.toDigits 16 last := by
          rw [Nat.toDigits_append_toDigits (by decide) positive small, Nat.mul_comm]
        _ = digits ++ [c] := by rw [before, Nat.toDigits_of_lt_base small, written]

/-! ## Plain numerals -/

/-- No digit of a written magnitude is a sign. -/
theorem ne_sign_of_mem_toDigits {magnitude : Nat} {c : Char}
    (member : c ∈ Nat.toDigits 16 magnitude) :
    c ≠ '+' ∧ c ≠ '-' := by
  have isDigit := mem_lowerDigits_of_mem_toDigits member
  constructor
  · rintro rfl
    exact absurd isDigit (by decide)
  · rintro rfl
    exact absurd isDigit (by decide)

theorem rest_eq_nil_of_toDigits {magnitude : Nat} {rest : Text}
    (starts : Nat.toDigits 16 magnitude = '0' :: rest) :
    rest = [] := by
  rcases Nat.eq_zero_or_pos magnitude with rfl | positive
  · exact (List.cons.inj starts).2.symm
  · have nonzero := head?_toDigits_ne_zero positive
    rw [starts] at nonzero
    exact absurd rfl nonzero

/-- Words are written without ornament. -/
theorem isPlain_ofInt (value : Int) : IsPlain (ofInt value) := by
  cases value with
  | ofNat magnitude =>
      have noSign {c : Char} (member : c ∈ ofInt (.ofNat magnitude)) :=
        ne_sign_of_mem_toDigits member
      refine ⟨fun member => (noSign member).1 rfl,
        fun c member _ => mem_lowerDigits_of_mem_toDigits member, fun sign rest starts => ?_⟩
      cases sign with
      | absent => exact rest_eq_nil_of_toDigits starts
      | plus => exact absurd rfl (noSign (starts ▸ List.mem_cons_self)).1
      | minus => exact absurd rfl (noSign (starts ▸ List.mem_cons_self)).2
  | negSucc predecessor =>
      refine ⟨?_, List.forall_mem_cons.mpr ⟨by decide, fun c member _ => ?_⟩,
        fun sign rest starts => ?_⟩
      · rw [ofInt, List.mem_cons, not_or]
        exact ⟨by decide, fun member => (ne_sign_of_mem_toDigits member).1 rfl⟩
      · exact mem_lowerDigits_of_mem_toDigits member
      · cases sign with
        | absent => exact absurd (List.cons.inj starts).1 (by decide)
        | plus => exact absurd (List.cons.inj starts).1 (by decide)
        | minus => exact rest_eq_nil_of_toDigits (List.cons.inj starts).2

/-- No word is written as minus zero. -/
theorem ofInt_ne_negativeZero (value : Int) : ofInt value ≠ ['-', '0'] := by
  cases value with
  | ofNat magnitude =>
      intro same
      have member : '-' ∈ Nat.toDigits 16 magnitude := by
        change '-' ∈ ofInt (.ofNat magnitude)
        rw [same]
        exact List.mem_cons_self
      exact (ne_sign_of_mem_toDigits member).2 rfl
  | negSucc predecessor =>
      intro same
      have nonzero := head?_toDigits_ne_zero (Nat.succ_pos predecessor)
      rw [(List.cons.inj same).2] at nonzero
      exact nonzero rfl

/-- A plain numeral other than that of minus zero is the written form of what it
denotes. -/
theorem ofInt_of_denotes {token : Text} {value : Int}
    (denotes : Denotes token value)
    (plain : IsPlain token)
    (notNegativeZero : token ≠ ['-', '0']) :
    ofInt value = token := by
  cases denotes with
  | unsigned magnitude =>
      exact toDigits_of_magnitude magnitude plain.lowerCase (plain.noSuperfluousZero .absent)
  | positive magnitude => exact absurd List.mem_cons_self plain.noPlus
  | @negative digits value magnitude =>
      have written : Nat.toDigits 16 value = digits :=
        toDigits_of_magnitude magnitude (List.forall_mem_cons.mp plain.lowerCase).2
          fun rest starts => plain.noSuperfluousZero .minus rest (congrArg ('-' :: ·) starts)
      cases value with
      | zero =>
          rw [← written] at notNegativeZero
          exact absurd rfl notNegativeZero
      | succ predecessor =>
          rw [← written]
          rfl

/-! ## Words -/

/-- Reading accepts exactly what spells a word: at most one sign and one digit or more
of either case, with a signed value in range.  It refuses every other token by naming
it.  Written words are read back, and the written form of a word is its only plain
spelling apart from minus zero; so two tokens that are read are one word exactly when
that word is written alike. -/
theorem words_have_one_plain_spelling :
    (∀ token word, read token = .ok word ↔
      ∃ value, Spells token value ∧ Word.lowest ≤ value ∧ value ≤ Word.highest ∧
        word.toInt = value) ∧
    (∀ token, (∀ word, read token ≠ .ok word) → read token = .error ⟨token⟩) ∧
    (∀ word, read (ofWord word) = .ok word) ∧
    (∀ word, IsPlain (ofWord word) ∧ ofWord word ≠ ['-', '0'] ∧
      ∀ token, read token = .ok word → IsPlain token → token ≠ ['-', '0'] →
        token = ofWord word) ∧
    (∀ first second firstWord secondWord, read first = .ok firstWord →
      read second = .ok secondWord →
      (firstWord = secondWord ↔ ofWord firstWord = ofWord secondWord)) := by
  refine ⟨fun token word => ?_, fun token refused => ?_, read_ofWord, fun word => ?_,
    fun _ _ firstWord secondWord _ _ => ?_⟩
  · rw [read_eq_ok_iff, denotes_iff_spells]
    constructor
    · intro spells
      exact ⟨word.toInt, spells, word.lowest_le_toInt, word.toInt_le_highest, rfl⟩
    · rintro ⟨value, spells, -, -, rfl⟩
      exact spells
  · rw [read_eq_error_iff]
    refine ⟨?_, rfl⟩
    rintro ⟨word, denotes⟩
    exact refused word ((read_eq_ok_iff token word).mpr denotes)
  · refine ⟨isPlain_ofInt word.toInt, ofInt_ne_negativeZero word.toInt,
      fun token isRead plain notNegativeZero => ?_⟩
    exact (ofInt_of_denotes ((read_eq_ok_iff token word).mp isRead) plain notNegativeZero).symm
  · constructor
    · exact congrArg ofWord
    · intro same
      exact Except.ok.inj ((read_ofWord firstWord).symm.trans (same ▸ read_ofWord secondWord))

/-- Minus zero spells the word zero, which is written otherwise, with neither a plus
sign nor an upper-case digit nor a superfluous zero. -/
theorem minus_zero_is_second_plain_spelling :
    read "-0".toList = .ok 0 ∧ IsPlain "-0".toList ∧ "-0".toList ≠ ofWord 0 := by
  have lowerCase : ∀ c ∈ ['-', '0'], c ∈ upperDigits → c ∈ lowerDigits :=
    List.forall_mem_cons.mpr ⟨by decide, List.forall_mem_singleton.mpr (by decide)⟩
  refine ⟨rfl, ⟨by decide, lowerCase, fun sign rest starts => ?_⟩, by decide⟩
  cases sign with
  | absent => exact absurd (List.cons.inj starts).1 (by decide)
  | plus => exact absurd (List.cons.inj starts).1 (by decide)
  | minus => exact (List.cons.inj (List.cons.inj starts).2).2.symm

end Hexadecimal
end AccumulatorMachine
