import AccumulatorMachine.Machine.Basic
import AccumulatorMachine.Machine.BlockCopy

/-!
# Operations

What the opcodes do, apart from their addressing modes.  An opcode either
performs an operation on its argument or looks the argument up in memory and
hands the value over to a simpler opcode.  Which of the two it does stands in a
table, indexed by the numbers of the opcodes.
-/

namespace AccumulatorMachine

/-- An operation on one operand. -/
inductive Operation
  | pass
  | load
  | store
  | jump
  | jumpIfZero
  | add
  | subtract
  | multiply
  | divide
  | conjoin
  | negate
  | testNegative
  | testZero
  | copy
  | halt
  deriving DecidableEq, Repr

/-- How an opcode is carried out. -/
inductive Action
  /-- Perform an operation on the argument. -/
  | perform (operation : Operation)
  /-- Hand the cell at the argument over to another opcode. -/
  | dereference (next : Opcode)
  deriving DecidableEq, Repr

namespace Opcode

/-- The table of instructions. -/
def action : Opcode → Action
  | noOperation => .perform .pass
  | loadImmediate => .perform .load
  | load => .dereference loadImmediate
  | loadIndirect => .dereference load
  | store => .perform .store
  | storeIndirect => .dereference store
  | jumpImmediate => .perform .jump
  | jump => .dereference jumpImmediate
  | jumpIfZeroImmediate => .perform .jumpIfZero
  | jumpIfZero => .dereference jumpIfZeroImmediate
  | addImmediate => .perform .add
  | add => .dereference addImmediate
  | addIndirect => .dereference add
  | subtractImmediate => .perform .subtract
  | subtract => .dereference subtractImmediate
  | subtractIndirect => .dereference subtract
  | multiplyImmediate => .perform .multiply
  | multiply => .dereference multiplyImmediate
  | multiplyIndirect => .dereference multiply
  | divideImmediate => .perform .divide
  | divide => .dereference divideImmediate
  | divideIndirect => .dereference divide
  | conjoinImmediate => .perform .conjoin
  | conjoin => .dereference conjoinImmediate
  | negate => .perform .negate
  | testNegative => .perform .testNegative
  | testZero => .perform .testZero
  | copy => .perform .copy
  | copyIndirect => .dereference copy
  | halt => .perform .halt

/-- The number of look-ups between an opcode and its operation. -/
def indirection : Opcode → Nat
  | loadIndirect | addIndirect | subtractIndirect | multiplyIndirect | divideIndirect => 2
  | load | storeIndirect | jump | jumpIfZero | add | subtract | multiply | divide
  | conjoin | copyIndirect => 1
  | _ => 0

/-- Each look-up leads to an opcode with fewer of them. -/
theorem indirection_lt_of_dereference {opcode next : Opcode}
    (handsOver : opcode.action = .dereference next) :
    next.indirection < opcode.indirection := by
  cases opcode <;> simp_all [action] <;> subst handsOver <;> decide

end Opcode

namespace Action

/-- The number of places in the table of instructions. -/
def tableSize : Nat := 0x20

/-- The place of an opcode number in the table, if it has one. -/
def place? (code : Word) : Option (Fin tableSize) :=
  if inside : 0 ≤ code.toInt ∧ code.toInt < (tableSize : Int) then
    some ⟨code.toInt.toNat, by omega⟩
  else
    none

/-- The table of instructions.  Numbers that belong to no opcode have an empty
place. -/
def table : Vector (Option Action) tableSize :=
  Opcode.all.foldl
    (fun entries opcode =>
      match place? opcode.code with
      | some place => entries.set place (some opcode.action)
      | none => entries)
    (Vector.replicate tableSize none)

/-- The action that the table holds for an opcode number. -/
def lookUp (code : Word) : Option Action :=
  (place? code).bind fun place => table.get place

theorem place?_eq_some_iff (code : Word) (place : Fin tableSize) :
    place? code = some place ↔ code = Int32.ofNat place.val := by
  have bound := place.isLt
  unfold place?
  split
  · rename_i inside
    simp only [Option.some.injEq, Fin.ext_iff]
    constructor
    · intro same
      apply Int32.toInt_inj.mp
      rw [Int32.toInt_ofNat_of_lt (by unfold tableSize at bound; omega)]
      omega
    · intro same
      rw [same, Int32.toInt_ofNat_of_lt (by unfold tableSize at bound; omega)]
      omega
  · rename_i outside
    simp only [reduceCtorEq, false_iff]
    intro same
    apply outside
    rw [same, Int32.toInt_ofNat_of_lt (by unfold tableSize at bound; omega)]
    omega

/-- The table holds the actions of the opcodes and nothing else. -/
theorem lookUp_eq_map (code : Word) :
    lookUp code = (Opcode.ofCode? code).map Opcode.action := by
  have places : ∀ place : Fin tableSize,
      table.get place = (Opcode.ofCode? (Int32.ofNat place.val)).map Opcode.action := by
    decide +kernel
  cases found : place? code with
  | some place =>
      rw [lookUp, found, Option.bind_some, places,
        (place?_eq_some_iff code place).mp found]
  | none =>
      have unknown : Opcode.ofCode? code = none := by
        rw [Option.eq_none_iff_forall_ne_some]
        intro opcode known
        rw [← Opcode.ofCode?_eq_some_iff.mp known] at found
        revert found
        cases opcode <;> decide
      rw [lookUp, found, unknown]
      rfl

end Action

namespace Operation

/-- Carry out an operation: its result, and the machine as far as it was
changed. -/
def apply (operation : Operation) (operand : Word) (machine : Machine) :
    Except Fault Status × Machine :=
  let accumulator := machine.registers.accumulator
  let continueWith (value : Word) : Except Fault Status × Machine :=
    (.ok .running, (machine.withAccumulator value).advance)
  match operation with
  | pass => (.ok .running, machine.advance)
  | load => continueWith operand
  | store =>
      match machine.setData operand accumulator with
      | .ok written => (.ok .running, written.advance)
      | .error error => (.error (.invalidMemoryAccess error), machine)
  | jump => (.ok .running, machine.withProgramCounter operand)
  | jumpIfZero =>
      if accumulator = 0 then
        (.ok .running, machine.withProgramCounter operand)
      else
        (.ok .running, machine.advance)
  | add => continueWith (accumulator + operand)
  | subtract => continueWith (accumulator - operand)
  | multiply => continueWith (accumulator * operand)
  | divide =>
      if operand = 0 then (.error .divisionByZero, machine)
      else continueWith (accumulator / operand)
  | conjoin => continueWith (.ofBool (operand != 0 && accumulator != 0))
  | negate => continueWith (.ofBool (accumulator == 0))
  | testNegative =>
      match machine.memory.read operand with
      | .ok value => continueWith (.ofBool (decide (value < 0)))
      | .error error => (.error (.invalidMemoryAccess error), machine)
  | testZero =>
      match machine.memory.read operand with
      | .ok value => continueWith (.ofBool (value == 0))
      | .error error => (.error (.invalidMemoryAccess error), machine)
  | copy =>
      match machine.memory.copyBlock operand with
      | (.ok (), memory) => (.ok .running, { machine with memory }.advance)
      | (.error fault, memory) => (.error fault, { machine with memory })
  | halt => (.ok .halted, machine)

end Operation
end AccumulatorMachine
