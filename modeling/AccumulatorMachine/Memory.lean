import AccumulatorMachine.Numeral.Decimal

/-!
# Data memory

The machine has 512 data cells, all zero at first.  The memory remembers which
cell was written last since it was cleared.
-/

namespace AccumulatorMachine

/-- The index of a data cell. -/
abbrev CellIndex := Fin dataSize

/-- The data cells, and the one written last. -/
structure Memory where
  cells : Vector Word dataSize
  lastWritten : Option CellIndex
  deriving DecidableEq

namespace Memory

/-- An address outside the data memory. -/
structure InvalidAddress where
  address : Word
  deriving DecidableEq, Repr

/-- The wording of the error. -/
def InvalidAddress.message (error : InvalidAddress) : String :=
  "invalid address " ++ Decimal.ofWord error.address

/-- The cell that a word addresses, if it addresses one. -/
def index? (address : Word) : Option CellIndex :=
  if inside : 0 ≤ address.toInt ∧ address.toInt < (dataSize : Int) then
    some ⟨address.toInt.toNat, by omega⟩
  else
    none

theorem index?_eq_some_iff (address : Word) (index : CellIndex) :
    index? address = some index ↔ address.toInt = (index.val : Int) := by
  have bound := index.isLt
  unfold index?
  split
  · rename_i inside
    simp only [Option.some.injEq, Fin.ext_iff]
    omega
  · rename_i outside
    simp only [reduceCtorEq, false_iff]
    omega

theorem index?_eq_none_iff (address : Word) :
    index? address = none ↔ address.toInt < 0 ∨ (dataSize : Int) ≤ address.toInt := by
  unfold index?
  split
  · rename_i inside
    simp only [reduceCtorEq, false_iff]
    omega
  · rename_i outside
    simp only [true_iff]
    omega

/-- The memory of a machine that was just switched on. -/
def empty : Memory where
  cells := Vector.replicate dataSize 0
  lastWritten := none

/-- The value of a cell. -/
def cell (memory : Memory) (index : CellIndex) : Word :=
  memory.cells.get index

/-- The value of the cell at an address. -/
def read (memory : Memory) (address : Word) : Except InvalidAddress Word :=
  match index? address with
  | some index => .ok (memory.cell index)
  | none => .error ⟨address⟩

/-- The memory after a write to a cell. -/
def writeCell (memory : Memory) (index : CellIndex) (value : Word) : Memory where
  cells := memory.cells.set index value
  lastWritten := some index

/-- Write a value to the cell at an address. -/
def write (memory : Memory) (address value : Word) : Except InvalidAddress Memory :=
  match index? address with
  | some index => .ok (memory.writeCell index value)
  | none => .error ⟨address⟩

/-- All cells zero, none of them written. -/
def clear (memory : Memory) : Memory where
  cells := memory.cells.map fun _ => 0
  lastWritten := none

/-- Indices and values of the cells that are not zero, in order. -/
def nonzero (memory : Memory) : List (Nat × Word) :=
  (memory.cells.toList.zipIdx.filter fun cell => cell.1 != 0).map fun cell => (cell.2, cell.1)

/-- One line that says which cell was written last. -/
def summary (memory : Memory) : String :=
  let written :=
    match memory.lastWritten with
    | some index => "Some(" ++ Nat.repr index.val ++ ")"
    | none => "None"
  "Memory \x7b changed: " ++ written ++ ", cells: [...] \x7d"

@[simp] theorem cells_writeCell (memory : Memory) (index : CellIndex) (value : Word) :
    (memory.writeCell index value).cells = memory.cells.set index value := rfl

@[simp] theorem cell_empty (index : CellIndex) : empty.cell index = 0 := by
  change (Vector.replicate dataSize (0 : Word))[index.val] = 0
  rw [Vector.getElem_replicate]

/-- A write changes its cell and no other. -/
theorem cell_writeCell (memory : Memory) (index other : CellIndex) (value : Word) :
    (memory.writeCell index value).cell other =
      if index = other then value else memory.cell other := by
  change (memory.cells.set index value)[other.val] = _
  rw [Vector.getElem_set]
  simp only [Fin.ext_iff]
  rfl

@[simp] theorem lastWritten_writeCell (memory : Memory) (index : CellIndex) (value : Word) :
    (memory.writeCell index value).lastWritten = some index := rfl

theorem clear_eq_empty (memory : Memory) : memory.clear = empty := by
  rw [clear, empty, Memory.mk.injEq]
  refine ⟨?_, rfl⟩
  apply Vector.ext
  intro position bound
  rw [Vector.getElem_map, Vector.getElem_replicate]

end Memory
end AccumulatorMachine
