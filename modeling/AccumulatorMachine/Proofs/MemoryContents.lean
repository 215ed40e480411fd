import AccumulatorMachine.Memory
import AccumulatorMachine.Proofs.WordArithmetic
import Mathlib.Data.Option.Basic
import Mathlib.Tactic.ByContra

/-!
# Memory by integer addresses

`Memory.contents` gives the value at any integer address, nothing outside the
memory.  Reads and writes are described through it, and a memory is determined
by its contents and the cell written last.
-/

namespace AccumulatorMachine
namespace Memory

/-- Whether an integer is the address of a cell. -/
def IsAddress (address : Int) : Prop :=
  0 ≤ address ∧ address < (dataSize : Int)

instance (address : Int) : Decidable (IsAddress address) :=
  inferInstanceAs (Decidable (_ ∧ _))

/-- The value at an address, if it is the address of a cell. -/
def contents (memory : Memory) (address : Int) : Option Word :=
  if inside : IsAddress address then
    some (memory.cell ⟨address.toNat, by unfold IsAddress at inside; omega⟩)
  else
    none

/-- The address of the cell written last. -/
def lastAddress (memory : Memory) : Option Int :=
  memory.lastWritten.map fun index => (index.val : Int)

theorem isAddress_of_index (index : CellIndex) : IsAddress (index.val : Int) := by
  have bound := index.isLt
  unfold IsAddress
  omega

@[simp] theorem contents_index (memory : Memory) (index : CellIndex) :
    memory.contents (index.val : Int) = some (memory.cell index) := by
  unfold contents
  rw [dif_pos (isAddress_of_index index)]
  congr 2

/-- Exactly the addresses of cells have contents. -/
theorem contents_eq_none_iff (memory : Memory) (address : Int) :
    memory.contents address = none ↔ ¬IsAddress address := by
  unfold contents
  split <;> simp_all

theorem isAddress_of_contents {memory : Memory} {address : Int} {value : Word}
    (found : memory.contents address = some value) :
    IsAddress address := by
  by_contra outside
  rw [(contents_eq_none_iff memory address).mpr outside] at found
  contradiction

theorem exists_contents (memory : Memory) {address : Int}
    (inside : IsAddress address) :
    ∃ value, memory.contents address = some value := by
  unfold contents
  rw [dif_pos inside]
  exact ⟨_, rfl⟩

theorem index?_eq_none_iff_not_isAddress (address : Word) :
    index? address = none ↔ ¬IsAddress address.toInt := by
  rw [index?_eq_none_iff]
  unfold IsAddress
  omega

/-- A read answers the contents, or names the address. -/
theorem read_eq (memory : Memory) (address : Word) :
    memory.read address =
      match memory.contents address.toInt with
      | some value => .ok value
      | none => .error ⟨address⟩ := by
  unfold read
  cases found : index? address with
  | some index =>
      rw [(index?_eq_some_iff address index).mp found, contents_index]
  | none =>
      rw [(contents_eq_none_iff memory _).mpr
        ((index?_eq_none_iff_not_isAddress address).mp found)]

theorem read_eq_ok_iff (memory : Memory) (address value : Word) :
    memory.read address = .ok value ↔
      memory.contents address.toInt = some value := by
  rw [read_eq]
  cases memory.contents address.toInt <;> simp

theorem read_eq_error_of_outside (memory : Memory) {address : Word}
    (outside : ¬IsAddress address.toInt) :
    memory.read address = .error ⟨address⟩ := by
  rw [read_eq, (contents_eq_none_iff memory _).mpr outside]

/-- A write changes the contents at its own address only. -/
theorem contents_writeCell (memory : Memory) (index : CellIndex) (value : Word)
    (address : Int) :
    (memory.writeCell index value).contents address =
      if address = (index.val : Int) then some value
      else memory.contents address := by
  by_cases inside : IsAddress address
  · simp only [contents, dif_pos inside, cell_writeCell, Fin.ext_iff]
    unfold IsAddress at inside
    by_cases same : address = (index.val : Int)
    · rw [if_pos same, if_pos (by omega)]
    · rw [if_neg same, if_neg (by omega)]
  · have different : address ≠ (index.val : Int) := by
      rintro rfl
      exact inside (isAddress_of_index index)
    simp only [contents, dif_neg inside, if_neg different]

/-- A write inside the memory succeeds. -/
theorem exists_write (memory : Memory) {address : Word} (value : Word)
    (inside : IsAddress address.toInt) :
    ∃ written, memory.write address value = .ok written ∧
      written.lastAddress = some address.toInt ∧
      ∀ other, written.contents other =
        if other = address.toInt then some value else memory.contents other := by
  cases found : index? address with
  | none =>
      exact absurd inside ((index?_eq_none_iff_not_isAddress address).mp found)
  | some index =>
      have position := (index?_eq_some_iff address index).mp found
      refine ⟨memory.writeCell index value, ?_, ?_, ?_⟩
      · rw [write, found]
      · rw [lastAddress, lastWritten_writeCell, position]
        rfl
      · intro other
        rw [contents_writeCell, position]

theorem write_eq_error_of_outside (memory : Memory) {address : Word} (value : Word)
    (outside : ¬IsAddress address.toInt) :
    memory.write address value = .error ⟨address⟩ := by
  rw [write, (index?_eq_none_iff_not_isAddress address).mpr outside]

/-- A memory is determined by its contents and the cell written last. -/
theorem ext_contents {first second : Memory}
    (sameContents : ∀ address, first.contents address = second.contents address)
    (sameLast : first.lastAddress = second.lastAddress) :
    first = second := by
  have sameCells : first.cells = second.cells := by
    apply Vector.ext
    intro position bound
    have same := sameContents ((⟨position, bound⟩ : CellIndex).val : Int)
    rw [contents_index, contents_index, Option.some.injEq] at same
    exact same
  have injective : Function.Injective fun index : CellIndex => (index.val : Int) := by
    intro left right same
    apply Fin.ext
    exact Int.ofNat_inj.mp same
  have sameLastWritten : first.lastWritten = second.lastWritten :=
    Option.map_injective injective sameLast
  cases first
  cases second
  simp_all

end Memory
end AccumulatorMachine
