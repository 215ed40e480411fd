import AccumulatorMachine.Proofs.CodeStore
import AccumulatorMachine.Proofs.FaultOrigin

/-!
# Checked execution

The machine adds words without asking whether the sum is one, takes the ends of
blocks for numbers of sixty-four bits, and counts on it that an accepted block
can be moved and that an opcode handed over to has an entry in the table.  A
checked machine asks every time and stops at the first breach.  No machine ever
meets one: the checked step is the step.
-/

namespace AccumulatorMachine
namespace Checked

/-- What a checked machine stops at. -/
inductive Breach
  /-- The sum of two words is no word. -/
  | wordOverflow (first second : Word)
  /-- An integer is no number of sixty-four bits. -/
  | longOverflow (value : Int)
  /-- A cell of an accepted block is not in the memory. -/
  | lostCell (error : Memory.InvalidAddress)
  /-- An opcode that another one hands over to is not in the table. -/
  | missingEntry (opcode : Opcode)
  deriving DecidableEq, Repr

/-- The outcome of an instruction as far as it was carried out. -/
abbrev Carried := Except Breach (Except Fault Status × Machine)

/-- The sum of two words, if it is a word. -/
def addWords (first second : Word) : Except Breach Word :=
  let sum := first.toInt + second.toInt
  if Word.lowest ≤ sum ∧ sum ≤ Word.highest then
    .ok (Int32.ofInt sum)
  else
    .error (.wordOverflow first second)

/-- An integer, if it is a number of sixty-four bits. -/
def long (value : Int) : Except Breach Int :=
  if -9223372036854775808 ≤ value ∧ value ≤ 9223372036854775807 then
    .ok value
  else
    .error (.longOverflow value)

/-- The `length` addresses that start at a word. -/
def interval (start length : Word) : Except Breach Interval := do
  let behind ← long (start.toInt + length.toInt)
  let last ← long (behind - 1)
  return ⟨start.toInt, last⟩

/-- The addresses of the three cells of a descriptor. -/
def cells (descriptor : Word) : Except Breach (List Int) := do
  let behind ← long (descriptor.toInt + 3)
  return (List.range (behind - descriptor.toInt).toNat).map fun offset : Nat =>
    descriptor.toInt + offset

/-! ## Block copies -/

/-- Why a copy is refused, if it is. -/
def refusal? (block : BlockCopy) (descriptor : Word) :
    Except Breach (Option CopyRefusal) := do
  if block.length < 0 then
    return some (.negativeLength block.length)
  let source ← interval block.source block.length
  let target ← interval block.target block.length
  let descriptorCells ← cells descriptor
  if descriptorCells.any fun cell => source.contains cell || target.contains cell then
    return some (.corruptsDescriptor descriptor source target)
  if !(BlockCopy.addresses.includes source && BlockCopy.addresses.includes target) then
    return some (.outOfBounds source target)
  return none

/-- The block copy that the three cells from an address on describe. -/
def readDescriptor (memory : Memory) (descriptor : Word) :
    Except Breach (Except Memory.InvalidAddress BlockCopy) :=
  match memory.read descriptor with
  | .error error => .ok (.error error)
  | .ok source => do
      let second ← addWords descriptor 1
      match memory.read second with
      | .error error => .ok (.error error)
      | .ok target => do
          let third ← addWords descriptor 2
          match memory.read third with
          | .error error => .ok (.error error)
          | .ok length => .ok (.ok ⟨source, target, length⟩)

/-- Move the cell at one offset. -/
def moveCell (block : BlockCopy) (memory : Memory) (offset : Nat) :
    Except Breach Memory := do
  let sourceAddress ← addWords block.source (Int32.ofNat offset)
  let value ← (memory.read sourceAddress).mapError .lostCell
  let targetAddress ← addWords block.target (Int32.ofNat offset)
  (memory.write targetAddress value).mapError .lostCell

/-- Carry out the block copy described at an address. -/
def copyBlock (memory : Memory) (descriptor : Word) :
    Except Breach (Except Fault Unit × Memory) := do
  match ← readDescriptor memory descriptor with
  | .error error => return (.error (.invalidMemoryAccess error), memory)
  | .ok block =>
      match ← refusal? block descriptor with
      | some refusal => return (.error (.illegalCopy refusal), memory)
      | none => do
          let moved ← block.offsets.foldlM (moveCell block) memory
          return (.ok (), moved)

/-! ## Instructions -/

/-- Go on at the next instruction. -/
def proceed (machine : Machine) : Carried := do
  let programCounter ← addWords machine.registers.programCounter 1
  return (.ok .running, machine.withProgramCounter programCounter)

/-- Carry out an operation. -/
def apply (operation : Operation) (operand : Word) (machine : Machine) : Carried :=
  let accumulator := machine.registers.accumulator
  let proceedWith (value : Word) : Carried := proceed (machine.withAccumulator value)
  match operation with
  | .pass => proceed machine
  | .load => proceedWith operand
  | .store =>
      match machine.setData operand accumulator with
      | .ok written => proceed written
      | .error error => .ok (.error (.invalidMemoryAccess error), machine)
  | .jump => .ok (.ok .running, machine.withProgramCounter operand)
  | .jumpIfZero =>
      if accumulator = 0 then
        .ok (.ok .running, machine.withProgramCounter operand)
      else
        proceed machine
  | .add => proceedWith (accumulator + operand)
  | .subtract => proceedWith (accumulator - operand)
  | .multiply => proceedWith (accumulator * operand)
  | .divide =>
      if operand = 0 then .ok (.error .divisionByZero, machine)
      else proceedWith (accumulator / operand)
  | .conjoin => proceedWith (.ofBool (operand != 0 && accumulator != 0))
  | .negate => proceedWith (.ofBool (accumulator == 0))
  | .testNegative =>
      match machine.memory.read operand with
      | .ok value => proceedWith (.ofBool (decide (value < 0)))
      | .error error => .ok (.error (.invalidMemoryAccess error), machine)
  | .testZero =>
      match machine.memory.read operand with
      | .ok value => proceedWith (.ofBool (value == 0))
      | .error error => .ok (.error (.invalidMemoryAccess error), machine)
  | .copy => do
      match ← copyBlock machine.memory operand with
      | (.ok (), memory) => proceed { machine with memory }
      | (.error fault, memory) => .ok (.error fault, { machine with memory })
  | .halt => .ok (.ok .halted, machine)

/-- The number of look-ups before the operation of an action. -/
def lookUps : Action → Nat
  | .perform _ => 0
  | .dereference next => next.indirection + 1

theorem lookUp_code (opcode : Opcode) :
    Action.lookUp opcode.code = some opcode.action := by
  rw [Action.lookUp_eq_map, Opcode.ofCode?_code, Option.map_some]

theorem lookUps_lt {next : Opcode} {action : Action}
    (entry : Action.lookUp next.code = some action) :
    lookUps action < lookUps (.dereference next) := by
  rw [lookUp_code, Option.some.injEq] at entry
  cases action with
  | perform operation => exact Nat.succ_pos _
  | dereference later =>
      exact Nat.succ_lt_succ (Opcode.indirection_lt_of_dereference entry)

/-- Carry out an entry of the table. -/
def carryOut (machine : Machine) (action : Action) (argument : Word) : Carried :=
  match action with
  | .perform operation => apply operation argument machine
  | .dereference next =>
      match machine.memory.read argument with
      | .error error => .ok (.error (.invalidMemoryAccess error), machine)
      | .ok value =>
          match _entry : Action.lookUp next.code with
          | none => .error (.missingEntry next)
          | some action => carryOut machine action value
  termination_by lookUps action
  decreasing_by exact lookUps_lt _entry

/-- Carry out the instruction at the program counter. -/
def executeCurrent (machine : Machine) : Carried :=
  match machine.code.fetch machine.registers.programCounter with
  | .error refusal => .ok (.error (.invalidCodeAccess refusal), machine)
  | .ok instruction =>
      match Action.lookUp instruction.opcode with
      | none => .ok (.error (.invalidInstruction instruction.opcode), machine)
      | some action => carryOut machine action instruction.argument

/-- One step: its result and the machine it leaves. -/
def step (machine : Machine) : Except Breach (Except StepError Status × Machine) :=
  if machine.halted then
    .ok (.error .halted, machine)
  else
    (executeCurrent machine).map Machine.conclude

/-! ## Sums and intervals -/

theorem addWords_eq_ok {first second : Word}
    (lower : Word.lowest ≤ first.toInt + second.toInt)
    (upper : first.toInt + second.toInt ≤ Word.highest) :
    addWords first second = .ok (first + second) := by
  unfold addWords
  rw [if_pos ⟨lower, upper⟩, Int32.ofInt_add, Int32.ofInt_toInt, Int32.ofInt_toInt]

example : addWords 0x7FFFFFFF 1 = .error (.wordOverflow 0x7FFFFFFF 1) := by decide

/-- A sum that is an address is a word. -/
theorem addWords_of_sum_isAddress {first second : Word}
    (inside : Memory.IsAddress (first.toInt + second.toInt)) :
    addWords first second = .ok (first + second) := by
  unfold Memory.IsAddress dataSize at inside
  apply addWords_eq_ok
  · unfold Word.lowest
    omega
  · unfold Word.highest
    omega

/-- Next to a small number there are only words. -/
theorem addWords_of_near {first second : Word}
    (nonnegative : 0 ≤ first.toInt)
    (small : first.toInt < (dataSize : Int))
    (near : second.toInt = 1 ∨ second.toInt = 2) :
    addWords first second = .ok (first + second) := by
  unfold dataSize at small
  apply addWords_eq_ok
  · unfold Word.lowest
    omega
  · unfold Word.highest
    omega

theorem long_eq_ok (value : Int)
    (lower : -9223372036854775808 ≤ value)
    (upper : value ≤ 9223372036854775807) :
    long value = .ok value :=
  if_pos ⟨lower, upper⟩

/-- The ends of a block fit, whatever its start and its length. -/
theorem interval_eq_ok (start length : Word) :
    interval start length = .ok (.ofLength start.toInt length.toInt) := by
  have startLower := start.le_toInt
  have startUpper := start.toInt_lt
  have lengthLower := length.le_toInt
  have lengthUpper := length.toInt_lt
  have behind := long_eq_ok (start.toInt + length.toInt) (by omega) (by omega)
  have last := long_eq_ok (start.toInt + length.toInt - 1) (by omega) (by omega)
  simp only [interval, behind, last, bind, Except.bind]
  rfl

theorem cells_eq_ok (descriptor : Word) :
    cells descriptor = .ok (descriptorCells descriptor) := by
  have lower := descriptor.le_toInt
  have upper := descriptor.toInt_lt
  have behind := long_eq_ok (descriptor.toInt + 3) (by omega) (by omega)
  have count : (descriptor.toInt + 3 - descriptor.toInt).toNat = 3 := by omega
  simp only [cells, behind, bind, Except.bind, count]
  simp [List.range_succ, descriptorCells, pure, Except.pure]

/-! ## Block copies -/

theorem refusal?_eq_ok (block : BlockCopy) (descriptor : Word) :
    refusal? block descriptor = .ok (block.refusal? descriptor) := by
  have source : interval block.source block.length = .ok block.sourceRange :=
    interval_eq_ok _ _
  have target : interval block.target block.length = .ok block.targetRange :=
    interval_eq_ok _ _
  have touches : ((descriptorCells descriptor).any fun cell =>
      block.sourceRange.contains cell || block.targetRange.contains cell) =
        block.touches descriptor := by
    simp [descriptorCells, BlockCopy.touches]
  have isInside : (BlockCopy.addresses.includes block.sourceRange &&
      BlockCopy.addresses.includes block.targetRange) = block.isInside := rfl
  simp only [refusal?, BlockCopy.refusal?, source, target, cells_eq_ok, touches,
    isInside, bind, Except.bind]
  split_ifs <;> rfl

/-- After the first cell of a descriptor was read, the addresses of the other two
are words. -/
theorem readDescriptor_eq_ok (memory : Memory) (descriptor : Word) :
    readDescriptor memory descriptor = .ok (memory.readDescriptor descriptor) := by
  unfold readDescriptor Memory.readDescriptor
  cases first : memory.read descriptor with
  | error error => rfl
  | ok source =>
      have inside := Memory.isAddress_of_contents ((memory.read_eq_ok_iff _ _).mp first)
      have second : addWords descriptor 1 = .ok (descriptor + 1) :=
        addWords_of_near inside.1 inside.2 (Or.inl rfl)
      have third : addWords descriptor 2 = .ok (descriptor + 2) :=
        addWords_of_near inside.1 inside.2 (Or.inr rfl)
      simp only [second, third, bind, Except.bind]
      cases memory.read (descriptor + 1) with
      | error error => rfl
      | ok target =>
          cases memory.read (descriptor + 2) with
          | error error => rfl
          | ok length => rfl

theorem moveCell_eq_mapError {block : BlockCopy} {offset : Nat}
    (inBlock : (offset : Int) < block.length.toInt)
    (reaches : block.ReachesMemory offset)
    (memory : Memory) :
    moveCell block memory offset =
      (block.moveCell memory offset).mapError .lostCell := by
  have value : (Int32.ofNat offset).toInt = offset :=
    Word.toInt_ofNat_of_le (by have := block.length.toInt_le_highest; omega)
  have source : addWords block.source (Int32.ofNat offset) =
      .ok (block.source + Int32.ofNat offset) :=
    addWords_of_sum_isAddress (value ▸ reaches.1)
  have target : addWords block.target (Int32.ofNat offset) =
      .ok (block.target + Int32.ofNat offset) :=
    addWords_of_sum_isAddress (value ▸ reaches.2)
  simp only [moveCell, BlockCopy.moveCell, source, target, bind, Except.bind]
  cases memory.read (block.source + Int32.ofNat offset) with
  | error error => rfl
  | ok value => rfl

/-- Cells between addresses of the memory are moved one after the other, none of
them is lost. -/
theorem foldlM_moveCell {block : BlockCopy} {offsets : List Nat}
    (inBlock : ∀ offset ∈ offsets, (offset : Int) < block.length.toInt)
    (reaches : ∀ offset ∈ offsets, block.ReachesMemory offset)
    (memory : Memory) :
    ∃ moved, block.moveCells memory offsets = (.ok (), moved) ∧
      offsets.foldlM (moveCell block) memory = .ok moved := by
  induction offsets generalizing memory with
  | nil => exact ⟨memory, rfl, rfl⟩
  | cons offset rest inductionHypothesis =>
      rw [List.forall_mem_cons] at inBlock reaches
      obtain ⟨next, first, -⟩ := block.exists_moveCell memory reaches.1
      obtain ⟨moved, others, checked⟩ := inductionHypothesis inBlock.2 reaches.2 next
      refine ⟨moved, ?_, ?_⟩
      · rw [BlockCopy.moveCells, first]
        exact others
      · rw [List.foldlM_cons, moveCell_eq_mapError inBlock.1 reaches.1, first]
        exact checked

/-- The guard of a block copy keeps its cells in the memory. -/
theorem copyBlock_eq_ok (memory : Memory) (descriptor : Word) :
    copyBlock memory descriptor = .ok (memory.copyBlock descriptor) := by
  simp only [copyBlock, Memory.copyBlock, readDescriptor_eq_ok, bind, Except.bind]
  cases memory.readDescriptor descriptor with
  | error error => rfl
  | ok block =>
      simp only [refusal?_eq_ok]
      cases verdict : block.refusal? descriptor with
      | some refusal => rfl
      | none =>
          obtain ⟨-, -, stays⟩ := (block.refusal?_eq_none_iff descriptor).mp verdict
          have inBlock : ∀ offset ∈ block.offsets, (offset : Int) < block.length.toInt :=
            fun offset member => (block.mem_offsets offset).mp member
          obtain ⟨moved, succeeds, checked⟩ := foldlM_moveCell inBlock
            (fun offset member => BlockCopy.reachesMemory_of_stays stays (inBlock offset member))
            memory
          simp only [checked, BlockCopy.move, succeeds]
          rfl

/-! ## Instructions -/

/-- A program counter inside a program has a successor. -/
theorem proceed_eq_ok {machine : Machine}
    (nonnegative : 0 ≤ machine.registers.programCounter.toInt)
    (small : machine.registers.programCounter.toInt < (codeMax : Int)) :
    proceed machine = .ok (.ok .running, machine.advance) := by
  have next : addWords machine.registers.programCounter 1 =
      .ok (machine.registers.programCounter + 1) :=
    addWords_of_near nonnegative (by unfold codeMax at small; unfold dataSize; omega)
      (Or.inl rfl)
  simp only [proceed, next, bind, Except.bind]
  rfl

theorem apply_eq_ok {machine : Machine}
    (nonnegative : 0 ≤ machine.registers.programCounter.toInt)
    (small : machine.registers.programCounter.toInt < (codeMax : Int))
    (operation : Operation) (operand : Word) :
    apply operation operand machine = .ok (operation.apply operand machine) := by
  have proceeds {next : Machine}
      (same : next.registers.programCounter = machine.registers.programCounter) :
      proceed next = .ok (.ok .running, next.advance) :=
    proceed_eq_ok (same ▸ nonnegative) (same ▸ small)
  cases operation with
  | pass => exact proceeds rfl
  | load | add | subtract | multiply | conjoin | negate => exact proceeds rfl
  | store =>
      simp only [apply, Operation.apply, Machine.setData]
      cases machine.memory.write operand machine.registers.accumulator with
      | error error => rfl
      | ok memory => exact proceeds rfl
  | jump => rfl
  | jumpIfZero =>
      simp only [apply, Operation.apply]
      split_ifs
      · rfl
      · exact proceeds rfl
  | divide =>
      simp only [apply, Operation.apply]
      split_ifs
      · rfl
      · exact proceeds rfl
  | testNegative =>
      simp only [apply, Operation.apply]
      cases machine.memory.read operand with
      | error error => rfl
      | ok value => exact proceeds rfl
  | testZero =>
      simp only [apply, Operation.apply]
      cases machine.memory.read operand with
      | error error => rfl
      | ok value => exact proceeds rfl
  | copy =>
      simp only [apply, Operation.apply, copyBlock_eq_ok, bind, Except.bind]
      cases machine.memory.copyBlock operand with
      | mk result memory =>
          cases result with
          | error fault => rfl
          | ok done => exact proceeds rfl
  | halt => rfl

/-- Every opcode handed over to has its entry in the table, so an entry is
carried out to its operation. -/
theorem carryOut_eq_ok {machine : Machine}
    (nonnegative : 0 ≤ machine.registers.programCounter.toInt)
    (small : machine.registers.programCounter.toInt < (codeMax : Int))
    (opcode : Opcode) (argument : Word) :
    carryOut machine opcode.action argument = .ok (machine.execute opcode argument) := by
  -- An opcode hands over to one with fewer look-ups, so these decrease.
  induction steps : opcode.indirection using Nat.strongRecOn generalizing opcode argument with
  | ind steps inductionHypothesis =>
      cases action : opcode.action with
      | perform operation =>
          rw [carryOut, Machine.execute_of_perform action]
          exact apply_eq_ok nonnegative small operation argument
      | dereference next =>
          have fewer := Opcode.indirection_lt_of_dereference action
          rw [carryOut, Machine.execute_of_dereference action]
          cases machine.memory.read argument with
          | error error => rfl
          | ok value =>
              simp only
              split
              · rename_i missing
                rw [lookUp_code] at missing
                contradiction
              · rename_i entry found
                rw [lookUp_code, Option.some.injEq] at found
                rw [← found]
                exact inductionHypothesis _ (steps ▸ fewer) next value rfl

theorem executeCurrent_eq_ok (machine : Machine) :
    executeCurrent machine = .ok machine.executeCurrent := by
  unfold executeCurrent
  cases fetched : machine.code.fetch machine.registers.programCounter with
  | error refusal => rw [Machine.executeCurrent_of_refusal fetched]
  | ok instruction =>
      obtain ⟨position, inside, -⟩ := Code.fetch_eq_ok_iff.mp fetched
      have bound := position.isLt
      have size := machine.code.size_le
      rw [Machine.executeCurrent_of_fetch fetched]
      simp only [Action.lookUp_eq_map]
      cases known : Opcode.ofCode? instruction.opcode with
      | none =>
          rw [Machine.dispatch_of_unknown known]
          rfl
      | some opcode =>
          rw [Machine.dispatch_of_known known]
          exact carryOut_eq_ok (by omega) (by omega) opcode instruction.argument

/-- A step faults as the instruction at the program counter does. -/
theorem step_eq_fault_iff (machine : Machine) (fault : Fault) :
    machine.step.1 = .error (.fault fault) ↔
      machine.halted = false ∧ machine.executeCurrent.1 = .error fault := by
  cases active : machine.halted with
  | true => simp [Machine.step_of_halted active]
  | false =>
      rw [Machine.step_of_not_halted active]
      rcases machine.executeCurrent with ⟨cause | _ | _, next⟩ <;> simp [Machine.conclude]

/-- No step of any machine, whatever led to it, breaches anything: all sums of
words are words, all ends of blocks fit in sixty-four bits, accepted blocks are
moved without a cell lost, and the table has an entry for every opcode handed
over to.  The fault of an invalid instruction only ever names the number that
was fetched. -/
theorem step_eq_ok (machine : Machine) :
    step machine = .ok machine.step ∧
    ∀ code, machine.step.1 = .error (.fault (.invalidInstruction code)) ↔
      machine.halted = false ∧
        (∃ argument, machine.code.fetch machine.registers.programCounter =
          .ok ⟨code, argument⟩) ∧
        Action.lookUp code = none := by
  constructor
  · unfold step Machine.step
    rw [executeCurrent_eq_ok]
    split_ifs <;> rfl
  · intro code
    have unknown : Action.lookUp code = none ↔ Opcode.ofCode? code = none := by
      rw [Action.lookUp_eq_map, Option.map_eq_none_iff]
    rw [step_eq_fault_iff, Machine.executeCurrent_eq_invalidInstruction_iff, unknown,
      exists_and_right]

end Checked
end AccumulatorMachine
