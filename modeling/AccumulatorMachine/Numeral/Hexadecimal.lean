import AccumulatorMachine.Text.Quoted
import AccumulatorMachine.Word

/-!
# Hexadecimal numerals

Source programs, executables and session commands write words in base sixteen:
an optional sign and then digits of either case, without a radix mark.  The
written form of a word uses lower-case digits and a minus sign.
-/

namespace AccumulatorMachine
namespace Hexadecimal

/-- The value of a hexadecimal digit. -/
def digitValue? (c : Char) : Option Nat :=
  if '0' ≤ c ∧ c ≤ '9' then some (c.toNat - '0'.toNat)
  else if 'a' ≤ c ∧ c ≤ 'f' then some (c.toNat - 'a'.toNat + 10)
  else if 'A' ≤ c ∧ c ≤ 'F' then some (c.toNat - 'A'.toNat + 10)
  else none

/-- Continue a magnitude with more digits. -/
def magnitude? : Nat → Text → Option Nat
  | value, [] => some value
  | value, c :: rest =>
      match digitValue? c with
      | none => none
      | some digit => magnitude? (value * 16 + digit) rest

/-- The magnitude that one digit or more denote. -/
def unsigned? : Text → Option Nat
  | [] => none
  | digits => magnitude? 0 digits

/-- The integer that a numeral denotes. -/
def value? : Text → Option Int
  | '-' :: digits => (unsigned? digits).map fun value : Nat => -(value : Int)
  | '+' :: digits => (unsigned? digits).map fun value : Nat => (value : Int)
  | digits => (unsigned? digits).map fun value : Nat => (value : Int)

/-- A token that is the numeral of no word. -/
structure Invalid where
  token : Text
  deriving DecidableEq, Repr

/-- The wording of the error. -/
def Invalid.message (error : Invalid) : String :=
  String.ofList (Text.quoted error.token) ++ " is not a hexadecimal number"

/-- Read a whole token as a word. -/
def read (token : Text) : Except Invalid Word :=
  match value? token with
  | some value =>
      if Word.lowest ≤ value ∧ value ≤ Word.highest then
        .ok (Int32.ofInt value)
      else
        .error ⟨token⟩
  | none => .error ⟨token⟩

/-- Write an integer. -/
def ofInt : Int → Text
  | .ofNat magnitude => Nat.toDigits 16 magnitude
  | .negSucc predecessor => '-' :: Nat.toDigits 16 (predecessor + 1)

/-- Write a word. -/
def ofWord (word : Word) : Text :=
  ofInt word.toInt

/-- The written form of a word, as a string. -/
def text (word : Word) : String :=
  String.ofList (ofWord word)

end Hexadecimal
end AccumulatorMachine
