import AccumulatorMachine.Fault

/-!
# Block copies

A descriptor of three cells gives a source address, a target address and a
length.  A copy is refused when the length is negative, when one of the blocks
would touch the descriptor, and when one of them leaves the memory, in that
order.  Cells are moved from the last to the first when the target is above the
source, else from the first to the last, so overlapping blocks arrive whole.
-/

namespace AccumulatorMachine

/-- Source, target and length of a block copy. -/
structure BlockCopy where
  source : Word
  target : Word
  length : Word
  deriving DecidableEq, Repr

namespace BlockCopy

/-- The addresses of the data memory. -/
def addresses : Interval :=
  .ofLength 0 dataSize

/-- The addresses that are read. -/
def sourceRange (block : BlockCopy) : Interval :=
  .ofLength block.source.toInt block.length.toInt

/-- The addresses that are written. -/
def targetRange (block : BlockCopy) : Interval :=
  .ofLength block.target.toInt block.length.toInt

/-- Whether a block holds one of the three cells of its descriptor. -/
def touches (block : BlockCopy) (descriptor : Word) : Bool :=
  [0, 1, 2].any fun offset : Int =>
    block.sourceRange.contains (descriptor.toInt + offset) ||
      block.targetRange.contains (descriptor.toInt + offset)

/-- Whether both blocks lie in the data memory. -/
def isInside (block : BlockCopy) : Bool :=
  addresses.includes block.sourceRange && addresses.includes block.targetRange

/-- Why a copy is refused, if it is. -/
def refusal? (block : BlockCopy) (descriptor : Word) : Option CopyRefusal :=
  if block.length < 0 then
    some (.negativeLength block.length)
  else if block.touches descriptor then
    some (.corruptsDescriptor descriptor block.sourceRange block.targetRange)
  else if !block.isInside then
    some (.outOfBounds block.sourceRange block.targetRange)
  else
    none

/-- The offsets of the cells in the order they are moved. -/
def offsets (block : BlockCopy) : List Nat :=
  let ascending := List.range block.length.toInt.toNat
  if block.source < block.target then ascending.reverse else ascending

/-- Move the cell at one offset. -/
def moveCell (block : BlockCopy) (memory : Memory) (offset : Nat) :
    Except Memory.InvalidAddress Memory := do
  let value ← memory.read (block.source + Int32.ofNat offset)
  memory.write (block.target + Int32.ofNat offset) value

/-- Move the cells at some offsets, one after the other.  Cells moved before a
failure stay moved. -/
def moveCells (block : BlockCopy) (memory : Memory) :
    List Nat → Except Memory.InvalidAddress Unit × Memory
  | [] => (.ok (), memory)
  | offset :: rest =>
      match block.moveCell memory offset with
      | .ok next => block.moveCells next rest
      | .error error => (.error error, memory)

/-- Move all cells. -/
def move (block : BlockCopy) (memory : Memory) :
    Except Memory.InvalidAddress Unit × Memory :=
  block.moveCells memory block.offsets

end BlockCopy

namespace Memory

/-- The block copy that the three cells from an address on describe. -/
def readDescriptor (memory : Memory) (descriptor : Word) :
    Except InvalidAddress BlockCopy := do
  let source ← memory.read descriptor
  let target ← memory.read (descriptor + 1)
  let length ← memory.read (descriptor + 2)
  return ⟨source, target, length⟩

/-- Carry out the block copy described at an address: its result, and the memory
as far as it was changed. -/
def copyBlock (memory : Memory) (descriptor : Word) : Except Fault Unit × Memory :=
  match memory.readDescriptor descriptor with
  | .error error => (.error (.invalidMemoryAccess error), memory)
  | .ok block =>
      match block.refusal? descriptor with
      | some refusal => (.error (.illegalCopy refusal), memory)
      | none =>
          let (result, moved) := block.move memory
          (result.mapError .invalidMemoryAccess, moved)

end Memory
end AccumulatorMachine
