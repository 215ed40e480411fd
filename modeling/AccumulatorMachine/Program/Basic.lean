import AccumulatorMachine.Instruction
import AccumulatorMachine.Memory
import AccumulatorMachine.Numeral.Hexadecimal

/-!
# Programs

A program is a list of statements and a list of initial values of data cells.
It has two written forms: the source text, with mnemonics, and the executable
text, with numbers only.  All numbers are in hexadecimal.
-/

namespace AccumulatorMachine

/-- One instruction of a program. -/
structure Statement where
  opcode : Opcode
  argument : Word
  deriving DecidableEq, Repr

/-- The initial value of one data cell. -/
structure Datum where
  address : CellIndex
  value : Word
  deriving DecidableEq, Repr

/-- Statements and initial values, in the order they are written. -/
structure Program where
  code : List Statement
  data : List Datum
  deriving DecidableEq, Repr

/-- The line between the statements and the data of a source text. -/
def endOfCode : Text :=
  "ENDCODE".toList

/-- The number that ends the instructions of an executable text. -/
def sentinel : Word := -1

namespace Statement

/-- The instruction that the machine keeps for a statement. -/
def instruction (statement : Statement) : Instruction :=
  ⟨statement.opcode.code, statement.argument⟩

/-- The source line of a statement. -/
def sourceLine (statement : Statement) : Text :=
  if statement.opcode.takesArgument then
    statement.opcode.mnemonic.toList ++ ' ' :: Hexadecimal.ofWord statement.argument
  else
    statement.opcode.mnemonic.toList

/-- The executable line of a statement. -/
def executableLine (statement : Statement) : Text :=
  Hexadecimal.ofWord statement.opcode.code ++ ' ' :: Hexadecimal.ofWord statement.argument

end Statement

namespace Datum

/-- The address of the cell, as a word. -/
def addressWord (datum : Datum) : Word :=
  Int32.ofNat datum.address.val

/-- The line of a datum, the same in source and executable texts. -/
def line (datum : Datum) : Text :=
  Hexadecimal.ofWord datum.addressWord ++ ' ' :: Hexadecimal.ofWord datum.value

end Datum

namespace Program

/-- A text of lines, each ended by a line feed. -/
def unlines (lines : List Text) : Text :=
  lines.flatMap fun line => line ++ ['\n']

/-- The source text of a program. -/
def source (program : Program) : Text :=
  unlines (program.code.map Statement.sourceLine ++
    endOfCode :: program.data.map Datum.line)

/-- The executable text of a program. -/
def executable (program : Program) : Text :=
  unlines (program.code.map Statement.executableLine ++
    Hexadecimal.ofWord sentinel :: program.data.map Datum.line)

end Program
end AccumulatorMachine
