/-!
# Machine words

Data cells, instruction arguments, opcodes and the accumulator are words: signed
numbers of thirty-two bits, whose arithmetic wraps around.
-/

namespace AccumulatorMachine

/-- A word of the machine. -/
abbrev Word := Int32

/-- The number of data cells. -/
def dataSize : Nat := 512

/-- The largest number of instructions in a program. -/
def codeMax : Nat := 256

namespace Word

/-- The lowest number that a word holds. -/
def lowest : Int := -2147483648

/-- The highest number that a word holds. -/
def highest : Int := 2147483647

/-- One for true, zero for false. -/
def ofBool (truth : Bool) : Word :=
  if truth then 1 else 0

/-- The sum of two words, or the nearest word when the sum is none. -/
def saturatingAdd (first second : Word) : Word :=
  Int32.ofInt (max lowest (min highest (first.toInt + second.toInt)))

/-- The bits of a word in hexadecimal, negative words in two's complement, after
`0x`. -/
def bitsText (word : Word) : String :=
  "0x" ++ String.ofList (Nat.toDigits 16 word.toUInt32.toNat)

end Word
end AccumulatorMachine
