import AccumulatorMachine.Text.Blank
import AccumulatorMachine.Word

/-!
# Decimal numerals

Numbers are written in base ten with a minus sign when they are negative.  A
numeral is read digit by digit up to the first character that is no digit or
the first digit that leaves the range asked for, and that one decides the
reason given.
-/

namespace AccumulatorMachine
namespace Decimal

/-- A number in base ten. -/
def ofInt : Int → String
  | .ofNat magnitude => Nat.repr magnitude
  | .negSucc predecessor => "-" ++ Nat.repr (predecessor + 1)

/-- A word in base ten. -/
def ofWord (word : Word) : String :=
  ofInt word.toInt

/-- Reasons for a text not to be the numeral of a number in range. -/
inductive Invalid
  | empty
  | notADigit
  | tooLarge
  | tooSmall
  | outside (value lowest highest : Int)
  deriving DecidableEq, Repr

/-- The wording of a reason. -/
def Invalid.message : Invalid → String
  | .empty => "cannot parse integer from empty string"
  | .notADigit => "invalid digit found in string"
  | .tooLarge => "number too large to fit in target type"
  | .tooSmall => "number too small to fit in target type"
  | .outside value lowest highest =>
      ofInt value ++ " is not in " ++ ofInt lowest ++ "..=" ++ ofInt highest

/-- The value of a decimal digit. -/
def digitValue? (c : Char) : Option Nat :=
  if '0' ≤ c ∧ c ≤ '9' then some (c.toNat - '0'.toNat) else none

/-- Continue a magnitude with more digits, as long as it stays within a
bound. -/
def magnitude (bound : Nat) (overflow : Invalid) : Nat → Text → Except Invalid Nat
  | value, [] => .ok value
  | value, c :: rest =>
      match digitValue? c with
      | none => .error .notADigit
      | some digit =>
          if value * 10 + digit ≤ bound then
            magnitude bound overflow (value * 10 + digit) rest
          else
            .error overflow

/-- Read a natural number up to a bound, with an optional plus sign. -/
def readNat (bound : Nat) : Text → Except Invalid Nat
  | [] => .error .empty
  | ['+'] => .error .notADigit
  | '+' :: digits => magnitude bound .tooLarge 0 digits
  | digits => magnitude bound .tooLarge 0 digits

/-- Read an integer of sixty-four bits, with an optional sign. -/
def readInt64 : Text → Except Invalid Int
  | [] => .error .empty
  | ['-'] => .error .notADigit
  | '-' :: digits =>
      (magnitude 9223372036854775808 .tooSmall 0 digits).map fun value => -(value : Int)
  | digits => (readNat 9223372036854775807 digits).map fun value => (value : Int)

/-- Read a natural number of sixty-four bits. -/
def readCount (token : Text) : Except Invalid Nat :=
  readNat 18446744073709551615 token

/-- Read a number that a word holds. -/
def readWord (token : Text) : Except Invalid Word :=
  match readInt64 token with
  | .error reason => .error reason
  | .ok value =>
      if Word.lowest ≤ value ∧ value ≤ Word.highest then
        .ok (Int32.ofInt value)
      else
        .error (.outside value Word.lowest Word.highest)

end Decimal
end AccumulatorMachine
