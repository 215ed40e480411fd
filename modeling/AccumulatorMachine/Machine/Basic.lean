import AccumulatorMachine.Fault

/-!
# The state of the machine

A machine has two registers, a data memory, a code store and a mark that says
whether it is halted.
-/

namespace AccumulatorMachine

/-- The accumulator and the program counter. -/
structure Registers where
  accumulator : Word
  programCounter : Word
  deriving DecidableEq, Repr

namespace Registers

/-- Both registers zero. -/
def zero : Registers := ⟨0, 0⟩

/-- Both registers in decimal. -/
def text (registers : Registers) : String :=
  "acc = " ++ Decimal.ofWord registers.accumulator ++
    " | pc = " ++ Decimal.ofWord registers.programCounter

end Registers

/-- Outcome of an instruction that succeeds. -/
inductive Status
  /-- The next instruction can be executed. -/
  | running
  /-- The machine was told to stop. -/
  | halted
  deriving DecidableEq, Repr

/-- The accumulator machine. -/
structure Machine where
  registers : Registers
  memory : Memory
  code : Code
  halted : Bool

namespace Machine

/-- A machine that was just switched on, without a program. -/
def fresh : Machine where
  registers := .zero
  memory := .empty
  code := .empty
  halted := false

/-- Reset a machine to the state it is switched on in. -/
def clear (machine : Machine) : Machine :=
  { machine with
    registers := .zero
    memory := machine.memory.clear
    code := .empty
    halted := false }

/-- A cleared machine is like a fresh one. -/
theorem clear_eq_fresh (machine : Machine) : machine.clear = fresh := by
  rw [clear, machine.memory.clear_eq_empty]
  rfl

/-- Append an instruction to the program. -/
def pushCode (machine : Machine) (instruction : Instruction) :
    Except Code.Refusal Machine :=
  (machine.code.push instruction).map fun code => { machine with code }

/-- Write a data cell. -/
def setData (machine : Machine) (address value : Word) :
    Except Memory.InvalidAddress Machine :=
  (machine.memory.write address value).map fun memory => { machine with memory }

/-- The machine with its program counter at the next instruction. -/
def advance (machine : Machine) : Machine :=
  { machine with registers.programCounter := machine.registers.programCounter + 1 }

/-- The machine with another accumulator. -/
def withAccumulator (machine : Machine) (accumulator : Word) : Machine :=
  { machine with registers.accumulator := accumulator }

/-- The machine with another program counter. -/
def withProgramCounter (machine : Machine) (programCounter : Word) : Machine :=
  { machine with registers.programCounter := programCounter }

/-- The machine after it stopped. -/
def halt (machine : Machine) : Machine :=
  { machine with halted := true }

/-- One line about a machine: registers, halt mark and program size. -/
def summary (machine : Machine) : String :=
  "Machine \x7b registers: Registers \x7b accumulator: " ++
    Decimal.ofWord machine.registers.accumulator ++
    ", pc: " ++ Decimal.ofWord machine.registers.programCounter ++
    " \x7d, halted: " ++ (if machine.halted then "true" else "false") ++
    ", code: [" ++ Nat.repr machine.code.size ++ " instructions], memory: [...] \x7d"

end Machine
end AccumulatorMachine
