import AccumulatorMachine.Machine.Basic
import AccumulatorMachine.Numeral.Hexadecimal

/-!
# Listings

The listing of a machine shows its instructions with their positions in decimal
and the data cells that are not zero with their addresses in hexadecimal.
-/

namespace AccumulatorMachine
namespace Machine

/-- A text in the last four columns. -/
def column (text : Text) : String :=
  String.ofList (List.leftpad 4 ' ' text)

/-- The line of the instruction at a position. -/
def codeLine (machine : Machine) (position : Nat) : String :=
  column (Nat.repr position).toList ++ "  " ++ machine.code.text position

/-- The line of a data cell. -/
def dataLine (cell : Nat × Word) : String :=
  column (Nat.toDigits 16 cell.1) ++ "  " ++ Hexadecimal.text cell.2

/-- The lines of the listing. -/
def listing (machine : Machine) : List String :=
  ["code (" ++ Nat.repr machine.code.size ++ " instructions):"] ++
    (List.range machine.code.size).map machine.codeLine ++
    ["data:"] ++ machine.memory.nonzero.map dataLine

end Machine
end AccumulatorMachine
