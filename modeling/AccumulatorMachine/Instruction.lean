import AccumulatorMachine.Numeral.Decimal
import AccumulatorMachine.Opcode

/-!
# Instructions

An instruction is a pair of words: an opcode, kept as a bare number, and an
argument.  One number of sixty-four bits packs both, the opcode in its high half
and the argument in its low half.
-/

namespace AccumulatorMachine

/-- An opcode number and its argument. -/
structure Instruction where
  opcode : Word
  argument : Word
  deriving DecidableEq, Repr

namespace Instruction

/-- Both words of an instruction in one number. -/
def pack (instruction : Instruction) : Int64 :=
  (instruction.opcode.toInt64 <<< 32) ||| (instruction.argument.toInt64 &&& 0xFFFFFFFF)

/-- The two halves of a number. -/
def unpack (packed : Int64) : Instruction where
  opcode := (packed >>> 32).toInt32
  argument := packed.toInt32

/-- The instruction as a reader sees it: the mnemonic, then the argument in
decimal if the mnemonic takes one.  Three question marks stand for a number
that is no opcode. -/
def text (instruction : Instruction) : String :=
  match Opcode.ofCode? instruction.opcode with
  | some opcode =>
      if opcode.takesArgument then
        opcode.mnemonic ++ " " ++ Decimal.ofWord instruction.argument
      else
        opcode.mnemonic
  | none =>
      "??? " ++ instruction.opcode.bitsText ++ " " ++ Decimal.ofWord instruction.argument

end Instruction
end AccumulatorMachine
