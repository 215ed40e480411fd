import AccumulatorMachine.Instruction

/-!
# The code store

A program is a list of at most 256 instructions, kept as packed numbers.
Instructions are appended while a program is loaded and only read afterwards.
-/

namespace AccumulatorMachine

/-- The instructions of a program, packed. -/
structure Code where
  packed : Array Int64
  size_le : packed.size ≤ codeMax

namespace Code

/-- What a code store refuses. -/
inductive Refusal
  | full
  | outOfBounds (index : Word) (size : Nat)
  deriving DecidableEq, Repr

/-- The wording of a refusal. -/
def Refusal.message : Refusal → String
  | .full => "code store is full (" ++ Nat.repr codeMax ++ " instructions)"
  | .outOfBounds index size =>
      "attempt to access code outside its bounds (index " ++ Decimal.ofWord index ++
        ", program size " ++ Nat.repr size ++ ")"

/-- A store without instructions. -/
def empty : Code :=
  ⟨#[], by decide⟩

/-- The number of instructions. -/
def size (code : Code) : Nat :=
  code.packed.size

/-- The instructions in order. -/
def instructions (code : Code) : List Instruction :=
  code.packed.toList.map Instruction.unpack

/-- Append an instruction, unless the store is full. -/
def push (code : Code) (instruction : Instruction) : Except Refusal Code :=
  if room : code.packed.size < codeMax then
    .ok ⟨code.packed.push instruction.pack, by rw [Array.size_push]; exact room⟩
  else
    .error .full

/-- The instruction at a position, if there is one. -/
def get? (code : Code) (position : Nat) : Option Instruction :=
  code.packed[position]?.map Instruction.unpack

/-- The position that a program counter denotes, unless it is negative. -/
def position? (index : Word) : Option Nat :=
  if 0 ≤ index.toInt then some index.toInt.toNat else none

/-- The instruction that a program counter points to. -/
def fetch (code : Code) (index : Word) : Except Refusal Instruction :=
  match (position? index).bind code.get? with
  | some instruction => .ok instruction
  | none => .error (.outOfBounds index code.size)

/-- The text of the instruction at a position, empty past the end. -/
def text (code : Code) (position : Nat) : String :=
  match code.get? position with
  | some instruction => instruction.text
  | none => ""

@[simp] theorem size_empty : empty.size = 0 := rfl

@[simp] theorem length_instructions (code : Code) :
    code.instructions.length = code.size := by
  simp [instructions, size]

end Code
end AccumulatorMachine
