import AccumulatorMachine.Word

/-!
# Words as integers

A word is determined by its signed value, which lies between `Word.lowest` and
`Word.highest`.  Sums and integers inside these bounds are kept exactly.
-/

namespace AccumulatorMachine
namespace Word

/-- The number of words. -/
def modulus : Int := 4294967296

theorem lowest_le_toInt (word : Word) : lowest ≤ word.toInt := by
  have lower := word.le_toInt
  unfold lowest
  omega

theorem toInt_le_highest (word : Word) : word.toInt ≤ highest := by
  have upper := word.toInt_lt
  unfold highest
  omega

/-- An integer in range is the value of its word. -/
theorem toInt_ofInt_of_range {value : Int}
    (lower : lowest ≤ value)
    (upper : value ≤ highest) :
    (Int32.ofInt value).toInt = value := by
  unfold lowest at lower
  unfold highest at upper
  exact Int32.toInt_ofInt_of_le (by omega) (by omega)

/-- A sum in range does not wrap around. -/
theorem toInt_add_of_range {first second : Word}
    (lower : lowest ≤ first.toInt + second.toInt)
    (upper : first.toInt + second.toInt ≤ highest) :
    (first + second).toInt = first.toInt + second.toInt := by
  unfold lowest at lower
  unfold highest at upper
  rw [Int32.toInt_add]
  exact Int.bmod_eq_of_le (by omega) (by omega)

/-- A sum is kept as near to its value as words can be. -/
theorem toInt_saturatingAdd (first second : Word) :
    (saturatingAdd first second).toInt =
      max lowest (min highest (first.toInt + second.toInt)) := by
  have inOrder : lowest ≤ highest := by decide
  exact toInt_ofInt_of_range (by omega) (by omega)

/-- A small number is the value of its word. -/
theorem toInt_ofNat_of_le {value : Nat}
    (upper : (value : Int) ≤ highest) :
    (Int32.ofNat value).toInt = value := by
  unfold highest at upper
  exact Int32.toInt_ofNat_of_lt (by omega)

/-- Two words with the same value are equal. -/
theorem eq_ofInt_of_toInt_eq {word : Word} {value : Int}
    (same : word.toInt = value) :
    word = Int32.ofInt value := by
  rw [← same, Int32.ofInt_toInt]

end Word
end AccumulatorMachine
