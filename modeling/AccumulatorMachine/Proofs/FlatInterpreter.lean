import AccumulatorMachine.Proofs.CodeStore
import AccumulatorMachine.Proofs.FaultOrigin

/-!
# A flat interpreter

The instruction set written out number by number: every entry fetches its own
operand and states its own effect, in exact integer arithmetic that is cut to a
word at the end, and a block copy replaces all its cells at once.  The machine,
which finds its operations in a table and hands operands from one entry to the
next, takes the same steps.
-/

namespace AccumulatorMachine
namespace Flat

/-- The word that an integer leaves in thirty-two bits. -/
def wrap (value : Int) : Word :=
  Int32.ofInt value

/-- The outcome of an instruction: the machine after it, or a fault. -/
abbrev Outcome := Except Fault (Status × Machine)

/-- The value at an address, which has to be that of a cell. -/
def cell (memory : Memory) (address : Int) : Except Fault Word :=
  match memory.contents address with
  | some value => .ok value
  | none => .error (.invalidMemoryAccess ⟨wrap address⟩)

/-- The machine goes on at the next instruction. -/
def proceed (machine : Machine) : Outcome :=
  .ok (.running,
    { machine with
      registers.programCounter := wrap (machine.registers.programCounter.toInt + 1) })

/-- The machine goes on at the next instruction with another accumulator. -/
def proceedWith (machine : Machine) (accumulator : Int) : Outcome :=
  proceed { machine with registers.accumulator := wrap accumulator }

/-- The machine goes on elsewhere. -/
def jump (machine : Machine) (target : Word) : Outcome :=
  .ok (.running, { machine with registers.programCounter := target })

/-- The accumulator is written to an address. -/
def store (machine : Machine) (address : Word) : Outcome :=
  match Memory.index? address with
  | some index =>
      proceed { machine with
        memory := machine.memory.writeCell index machine.registers.accumulator }
  | none => .error (.invalidMemoryAccess ⟨address⟩)

/-- Whether an address is one of the `length` addresses from `first` on. -/
def within (first length address : Int) : Bool :=
  decide (first ≤ address) && decide (address < first + length)

/-- The memory in which a whole block was replaced at once. -/
def replaceBlock (memory : Memory) (source target length : Int) : Memory where
  cells := Vector.ofFn fun index : CellIndex =>
    if within target length index then
      (memory.contents (source + (index - target))).getD 0
    else
      memory.cell index
  lastWritten :=
    if length = 0 then memory.lastWritten
    else Memory.index? (wrap (if source < target then target else target + length - 1))

/-- The memory after the block copy described at an address. -/
def copy (memory : Memory) (descriptor : Word) : Except Fault Memory := do
  let source ← cell memory descriptor.toInt
  let target ← cell memory (descriptor.toInt + 1)
  let length ← cell memory (descriptor.toInt + 2)
  let sourceRange : Interval := ⟨source.toInt, source.toInt + length.toInt - 1⟩
  let targetRange : Interval := ⟨target.toInt, target.toInt + length.toInt - 1⟩
  if length.toInt < 0 then
    throw (.illegalCopy (.negativeLength length))
  else if [0, 1, 2].any fun offset =>
      within source.toInt length.toInt (descriptor.toInt + offset) ||
        within target.toInt length.toInt (descriptor.toInt + offset) then
    throw (.illegalCopy (.corruptsDescriptor descriptor sourceRange targetRange))
  else if 0 < length.toInt ∧
      ¬(0 ≤ source.toInt ∧ source.toInt + length.toInt ≤ 512 ∧
        0 ≤ target.toInt ∧ target.toInt + length.toInt ≤ 512) then
    throw (.illegalCopy (.outOfBounds sourceRange targetRange))
  else
    return replaceBlock memory source.toInt target.toInt length.toInt

/-- One for true, zero for false. -/
def truth (condition : Bool) : Int :=
  if condition then 1 else 0

/-- The instruction with a given opcode number. -/
def execute (machine : Machine) (opcode : Int) (argument : Word) : Outcome :=
  let accumulator := machine.registers.accumulator.toInt
  let look (address : Word) : Except Fault Word := cell machine.memory address.toInt
  match opcode with
  | 0x00 => proceed machine
  | 0x01 => proceedWith machine argument.toInt
  | 0x02 => do
      let operand ← look argument
      proceedWith machine operand.toInt
  | 0x03 => do
      let address ← look argument
      let operand ← look address
      proceedWith machine operand.toInt
  | 0x04 => store machine argument
  | 0x05 => do
      let address ← look argument
      store machine address
  | 0x06 => jump machine argument
  | 0x07 => do
      let target ← look argument
      jump machine target
  | 0x08 => if accumulator = 0 then jump machine argument else proceed machine
  | 0x09 => do
      let target ← look argument
      if accumulator = 0 then jump machine target else proceed machine
  | 0x0A => proceedWith machine (accumulator + argument.toInt)
  | 0x0B => do
      let operand ← look argument
      proceedWith machine (accumulator + operand.toInt)
  | 0x0C => do
      let address ← look argument
      let operand ← look address
      proceedWith machine (accumulator + operand.toInt)
  | 0x0D => proceedWith machine (accumulator - argument.toInt)
  | 0x0E => do
      let operand ← look argument
      proceedWith machine (accumulator - operand.toInt)
  | 0x0F => do
      let address ← look argument
      let operand ← look address
      proceedWith machine (accumulator - operand.toInt)
  | 0x10 => proceedWith machine (accumulator * argument.toInt)
  | 0x11 => do
      let operand ← look argument
      proceedWith machine (accumulator * operand.toInt)
  | 0x12 => do
      let address ← look argument
      let operand ← look address
      proceedWith machine (accumulator * operand.toInt)
  | 0x13 =>
      if argument.toInt = 0 then .error .divisionByZero
      else proceedWith machine (accumulator.tdiv argument.toInt)
  | 0x14 => do
      let operand ← look argument
      if operand.toInt = 0 then .error .divisionByZero
      else proceedWith machine (accumulator.tdiv operand.toInt)
  | 0x15 => do
      let address ← look argument
      let operand ← look address
      if operand.toInt = 0 then .error .divisionByZero
      else proceedWith machine (accumulator.tdiv operand.toInt)
  | 0x16 => proceedWith machine (truth (argument.toInt ≠ 0 ∧ accumulator ≠ 0))
  | 0x17 => do
      let operand ← look argument
      proceedWith machine (truth (operand.toInt ≠ 0 ∧ accumulator ≠ 0))
  | 0x18 => proceedWith machine (truth (accumulator = 0))
  | 0x19 => do
      let operand ← look argument
      proceedWith machine (truth (operand.toInt < 0))
  | 0x1A => do
      let operand ← look argument
      proceedWith machine (truth (operand.toInt = 0))
  | 0x1D => do
      let memory ← copy machine.memory argument
      proceed { machine with memory }
  | 0x1E => do
      let descriptor ← look argument
      let memory ← copy machine.memory descriptor
      proceed { machine with memory }
  | 0x1F => .ok (.halted, { machine with halted := true })
  | _ => .error (.invalidInstruction (wrap opcode))

/-- The instruction at the program counter.  A packed number is split by its
quotient and its remainder. -/
def step (machine : Machine) : Outcome :=
  let programCounter := machine.registers.programCounter
  if inside : 0 ≤ programCounter.toInt ∧
      programCounter.toInt < (machine.code.packed.size : Int) then
    let packed : Int := machine.code.packed[programCounter.toInt.toNat].toInt
    execute machine (packed / Word.modulus) (wrap packed)
  else
    .error (.invalidCodeAccess (.outOfBounds programCounter machine.code.packed.size))

/-- The result of a step by its outcome.  A fault only halts the machine. -/
def settle (machine : Machine) : Outcome → Except StepError Status × Machine
  | .ok (status, next) => (.ok status, next)
  | .error fault => (.error (.fault fault), machine.halt)

/-! ## Arithmetic -/

@[simp] theorem wrap_toInt (word : Word) : wrap word.toInt = word :=
  Int32.ofInt_toInt word

theorem wrap_add (first second : Word) :
    wrap (first.toInt + second.toInt) = first + second := by
  rw [wrap, Int32.ofInt_add, Int32.ofInt_toInt, Int32.ofInt_toInt]

theorem wrap_sub (first second : Word) :
    wrap (first.toInt - second.toInt) = first - second := by
  rw [wrap, Int32.ofInt_sub, Int32.ofInt_toInt, Int32.ofInt_toInt]

theorem wrap_mul (first second : Word) :
    wrap (first.toInt * second.toInt) = first * second := by
  rw [wrap, Int32.ofInt_mul, Int32.ofInt_toInt, Int32.ofInt_toInt]

theorem wrap_tdiv (first second : Word) :
    wrap (first.toInt.tdiv second.toInt) = first / second := by
  apply Int32.toInt_inj.mp
  rw [wrap, Int32.toInt_ofInt, Int32.toInt_div]

theorem wrap_truth (condition : Bool) : wrap (truth condition) = .ofBool condition := by
  cases condition <;> rfl

theorem toInt_eq_zero_iff (word : Word) : word.toInt = 0 ↔ word = 0 := by
  rw [← Int32.toInt_inj]
  rfl

theorem toInt_lt_zero_iff (word : Word) : word.toInt < 0 ↔ word < 0 := by
  rw [Int32.lt_iff_toInt_lt]
  rfl

/-! ## Operations -/

theorem proceed_eq (machine : Machine) : proceed machine = .ok (.running, machine.advance) := by
  unfold proceed Machine.advance
  rw [show machine.registers.programCounter.toInt + 1 =
      machine.registers.programCounter.toInt + (1 : Word).toInt by rfl, wrap_add]

theorem proceedWith_eq (machine : Machine) (accumulator : Int) :
    proceedWith machine accumulator =
      .ok (.running, (machine.withAccumulator (wrap accumulator)).advance) := by
  rw [proceedWith, proceed_eq]
  rfl

/-- The value at the address of a word is what a read answers. -/
theorem cell_eq (memory : Memory) (address : Word) :
    cell memory address.toInt = (memory.read address).mapError .invalidMemoryAccess := by
  rw [cell, memory.read_eq, wrap_toInt]
  cases memory.contents address.toInt <;> rfl

open Machine

/-- An entry that hands its operand over agrees with a flat one that looks the
operand up itself, if they agree on the operand. -/
theorem conclude_execute_of_dereference {opcode next : Opcode}
    (handsOver : opcode.action = .dereference next)
    {machine : Machine} {continuation : Word → Outcome}
    (agrees : ∀ operand,
      conclude (machine.execute next operand) = settle machine (continuation operand))
    (argument : Word) :
    conclude (machine.execute opcode argument) =
      settle machine (cell machine.memory argument.toInt >>= continuation) := by
  rw [execute_of_dereference handsOver, cell_eq]
  cases machine.memory.read argument with
  | ok operand => exact agrees operand
  | error error => rfl

/-- An entry that computes a new accumulator agrees with a flat one that computes
it exactly, if the word kept of the exact value is the same. -/
theorem conclude_execute_of_compute {opcode : Opcode} {operation : Operation}
    (performs : opcode.action = .perform operation)
    {machine : Machine} {operand value : Word} {exactValue : Int}
    (computes : operation.apply operand machine =
      (.ok .running, (machine.withAccumulator value).advance))
    (same : wrap exactValue = value) :
    conclude (machine.execute opcode operand) =
      settle machine (proceedWith machine exactValue) := by
  rw [execute_of_perform performs, computes, proceedWith_eq, same]
  rfl

theorem conclude_store (machine : Machine) (address : Word) :
    conclude (machine.execute .store address) = settle machine (store machine address) := by
  have performs : Opcode.store.action = .perform .store := rfl
  rw [execute_of_perform performs, Operation.apply, setData, Memory.write, store]
  cases Memory.index? address with
  | some index => exact (congrArg (settle machine) (proceed_eq _)).symm
  | none => rfl

theorem conclude_jump (machine : Machine) (target : Word) :
    conclude (machine.execute .jumpImmediate target) =
      settle machine (jump machine target) := by
  have performs : Opcode.jumpImmediate.action = .perform .jump := rfl
  rw [execute_of_perform performs]
  rfl

theorem conclude_jumpIfZero (machine : Machine) (target : Word) :
    conclude (machine.execute .jumpIfZeroImmediate target) =
      settle machine
        (if machine.registers.accumulator.toInt = 0 then jump machine target
          else proceed machine) := by
  have performs : Opcode.jumpIfZeroImmediate.action = .perform .jumpIfZero := rfl
  rw [execute_of_perform performs, Operation.apply, proceed_eq]
  by_cases zero : machine.registers.accumulator = 0
  · rw [if_pos zero, if_pos ((toInt_eq_zero_iff _).mpr zero)]
    rfl
  · rw [if_neg zero, if_neg (mt (toInt_eq_zero_iff _).mp zero)]
    rfl

theorem conclude_divide (machine : Machine) (divisor : Word) :
    conclude (machine.execute .divideImmediate divisor) =
      settle machine
        (if divisor.toInt = 0 then .error .divisionByZero
          else proceedWith machine
            (machine.registers.accumulator.toInt.tdiv divisor.toInt)) := by
  have performs : Opcode.divideImmediate.action = .perform .divide := rfl
  by_cases zero : divisor = 0
  · rw [execute_of_perform performs, Operation.apply, if_pos zero,
      if_pos ((toInt_eq_zero_iff _).mpr zero)]
    rfl
  · rw [if_neg (mt (toInt_eq_zero_iff _).mp zero)]
    refine conclude_execute_of_compute performs ?_ (wrap_tdiv _ _)
    rw [Operation.apply, if_neg zero]

theorem conclude_conjoin (machine : Machine) (operand : Word) :
    conclude (machine.execute .conjoinImmediate operand) =
      settle machine (proceedWith machine
        (truth (operand.toInt ≠ 0 ∧ machine.registers.accumulator.toInt ≠ 0))) := by
  have performs : Opcode.conjoinImmediate.action = .perform .conjoin := rfl
  refine conclude_execute_of_compute performs rfl ?_
  rw [wrap_truth]
  congr 1
  rw [Bool.eq_iff_iff]
  simp [toInt_eq_zero_iff]

theorem conclude_negate (machine : Machine) (operand : Word) :
    conclude (machine.execute .negate operand) =
      settle machine
        (proceedWith machine (truth (machine.registers.accumulator.toInt = 0))) := by
  have performs : Opcode.negate.action = .perform .negate := rfl
  refine conclude_execute_of_compute performs rfl ?_
  rw [wrap_truth]
  congr 1
  rw [Bool.eq_iff_iff]
  simp [toInt_eq_zero_iff]

/-- An entry that tests a cell agrees with a flat one that states the test on
integers. -/
theorem conclude_execute_of_test {opcode : Opcode} {operation : Operation}
    (performs : opcode.action = .perform operation)
    {machine : Machine}
    (test : Word → Bool)
    (exactTest : Int → Prop)
    [DecidablePred exactTest]
    (applies : ∀ address, operation.apply address machine =
      match machine.memory.read address with
      | .ok value =>
          (.ok .running, (machine.withAccumulator (.ofBool (test value))).advance)
      | .error error => (.error (.invalidMemoryAccess error), machine))
    (same : ∀ value, test value = true ↔ exactTest value.toInt)
    (address : Word) :
    conclude (machine.execute opcode address) =
      settle machine (do
        let operand ← cell machine.memory address.toInt
        proceedWith machine (truth (exactTest operand.toInt))) := by
  rw [execute_of_perform performs, applies, cell_eq]
  cases machine.memory.read address with
  | ok operand =>
      have sameTest : test operand = decide (exactTest operand.toInt) := by
        rw [Bool.eq_iff_iff, same, decide_eq_true_eq]
      simp only [sameTest, ← wrap_truth]
      exact (congrArg (settle machine) (proceedWith_eq machine _)).symm
  | error error => rfl

theorem conclude_testNegative (machine : Machine) (address : Word) :
    conclude (machine.execute .testNegative address) =
      settle machine (do
        let operand ← cell machine.memory address.toInt
        proceedWith machine (truth (operand.toInt < 0))) := by
  have performs : Opcode.testNegative.action = .perform .testNegative := rfl
  have sameTest (value : Word) : decide (value < 0) = true ↔ value.toInt < 0 := by
    rw [decide_eq_true_eq, toInt_lt_zero_iff]
  exact conclude_execute_of_test performs (fun value => decide (value < 0))
    (fun value => value < 0) (fun address => rfl) sameTest address

theorem conclude_testZero (machine : Machine) (address : Word) :
    conclude (machine.execute .testZero address) =
      settle machine (do
        let operand ← cell machine.memory address.toInt
        proceedWith machine (truth (operand.toInt = 0))) := by
  have performs : Opcode.testZero.action = .perform .testZero := rfl
  have sameTest (value : Word) : (value == 0) = true ↔ value.toInt = 0 := by
    rw [beq_iff_eq, toInt_eq_zero_iff]
  exact conclude_execute_of_test performs (fun value => value == 0)
    (fun value => value = 0) (fun address => rfl) sameTest address

/-! ## Block copies -/

theorem within_iff (first length address : Int) :
    within first length address = true ↔ first ≤ address ∧ address < first + length := by
  simp [within]

theorem any_within_iff (block : BlockCopy) (descriptor : Word) :
    ([0, 1, 2].any fun offset : Int =>
      within block.source.toInt block.length.toInt (descriptor.toInt + offset) ||
        within block.target.toInt block.length.toInt (descriptor.toInt + offset)) = true ↔
      block.TouchesDescriptor descriptor := by
  simp only [List.any_eq_true, Bool.or_eq_true, within_iff, BlockCopy.TouchesDescriptor,
    BlockCopy.InSource, BlockCopy.InTarget, descriptorCells, List.mem_cons,
    List.not_mem_nil, or_false, exists_eq_or_imp, exists_eq_left, Int.add_zero]

/-- Two blocks with a cell stay inside when their ends do. -/
theorem leavesMemory_iff (block : BlockCopy) :
    block.LeavesMemory ↔
      0 < block.length.toInt ∧
        ¬(0 ≤ block.source.toInt ∧ block.source.toInt + block.length.toInt ≤ 512 ∧
          0 ≤ block.target.toInt ∧ block.target.toInt + block.length.toInt ≤ 512) := by
  unfold BlockCopy.LeavesMemory BlockCopy.InSource BlockCopy.InTarget Memory.IsAddress
    dataSize
  constructor
  · rintro ⟨address, inSource | inTarget, outside⟩
    · exact ⟨by omega, by omega⟩
    · exact ⟨by omega, by omega⟩
  · rintro ⟨positive, sticksOut⟩
    by_cases sourceLow : block.source.toInt < 0
    · exact ⟨block.source.toInt, Or.inl (by omega), by omega⟩
    · by_cases sourceHigh : 512 < block.source.toInt + block.length.toInt
      · exact ⟨block.source.toInt + block.length.toInt - 1, Or.inl (by omega), by omega⟩
      · by_cases targetLow : block.target.toInt < 0
        · exact ⟨block.target.toInt, Or.inr (by omega), by omega⟩
        · exact ⟨block.target.toInt + block.length.toInt - 1, Or.inr (by omega),
            by omega⟩

/-- The address of a cell is kept by a word, which leads back to the cell. -/
theorem index?_wrap {address : Int} (inside : Memory.IsAddress address) :
    (Memory.index? (wrap address)).map (fun index => (index.val : Int)) = some address := by
  unfold Memory.IsAddress dataSize at inside
  have exact : (wrap address).toInt = address :=
    Word.toInt_ofInt_of_range (by unfold Word.lowest; omega) (by unfold Word.highest; omega)
  have found : Memory.index? (wrap address) =
      some ⟨address.toNat, by unfold dataSize; omega⟩ := by
    rw [Memory.index?_eq_some_iff, exact]
    exact (Int.toNat_of_nonneg inside.1).symm
  rw [found, Option.map_some, Int.toNat_of_nonneg inside.1]

theorem contents_replaceBlock (memory : Memory) (source target length : Int)
    {address : Int} (inside : Memory.IsAddress address) :
    (replaceBlock memory source target length).contents address =
      if within target length address then
        some ((memory.contents (source + (address - target))).getD 0)
      else memory.contents address := by
  obtain ⟨index, rfl⟩ : ∃ index : CellIndex, address = (index.val : Int) := by
    unfold Memory.IsAddress at inside
    exact ⟨⟨address.toNat, by omega⟩, by simp only; omega⟩
  have position :
      (replaceBlock memory source target length).cell index =
        if within target length index then
          (memory.contents (source + (index - target))).getD 0
        else memory.cell index := by
    change (Vector.ofFn _)[index.val] = _
    rw [Vector.getElem_ofFn]
  rw [Memory.contents_index, Memory.contents_index, position]
  split_ifs <;> rfl

/-- Replacing a block at once is what a move does. -/
theorem moved_replaceBlock {block : BlockCopy}
    (nonnegative : 0 ≤ block.length.toInt)
    (stays : ¬block.LeavesMemory)
    (memory : Memory) :
    block.Moved memory
      (replaceBlock memory block.source.toInt block.target.toInt block.length.toInt) := by
  have staysInside {address : Int} (inBlock : block.InSource address ∨ block.InTarget address) :
      Memory.IsAddress address := by
    by_contra outside
    exact stays ⟨address, inBlock, outside⟩
  refine ⟨fun offset lower upper => ?_, fun address outside => ?_, ?_⟩
  · have inSource : block.InSource (block.source.toInt + offset) := by
      unfold BlockCopy.InSource
      omega
    have inTarget : block.InTarget (block.target.toInt + offset) := by
      unfold BlockCopy.InTarget
      omega
    obtain ⟨value, found⟩ := memory.exists_contents (staysInside (Or.inl inSource))
    rw [contents_replaceBlock _ _ _ _ (staysInside (Or.inr inTarget)),
      if_pos ((within_iff _ _ _).mpr inTarget),
      show block.source.toInt + (block.target.toInt + offset - block.target.toInt) =
        block.source.toInt + offset by omega, found]
    rfl
  · by_cases inside : Memory.IsAddress address
    · rw [contents_replaceBlock _ _ _ _ inside, if_neg (mt (within_iff _ _ _).mp outside)]
    · rw [(Memory.contents_eq_none_iff _ _).mpr inside,
        (Memory.contents_eq_none_iff _ _).mpr inside]
  · rw [Memory.lastAddress, replaceBlock]
    by_cases empty : block.length.toInt = 0
    · rw [if_pos empty, if_pos empty]
      rfl
    · rw [if_neg empty, if_neg empty]
      split_ifs
      · exact index?_wrap (staysInside (Or.inr ⟨by omega, by omega⟩))
      · exact index?_wrap (staysInside (Or.inr ⟨by omega, by omega⟩))

theorem copy_of_describes {memory : Memory} {descriptor : Word} {block : BlockCopy}
    (describes : memory.Describes descriptor block) :
    copy memory descriptor =
      match block.refusal? descriptor with
      | some refusal => .error (.illegalCopy refusal)
      | none => .ok (replaceBlock memory block.source.toInt block.target.toInt
          block.length.toInt) := by
  have sourceRange : block.sourceRange =
      ⟨block.source.toInt, block.source.toInt + block.length.toInt - 1⟩ := rfl
  have targetRange : block.targetRange =
      ⟨block.target.toInt, block.target.toInt + block.length.toInt - 1⟩ := rfl
  simp only [copy, cell, describes.source, describes.target, describes.length, bind,
    Except.bind]
  by_cases negative : block.length.toInt < 0
  · rw [if_pos negative, (block.refusal?_eq_negativeLength_iff descriptor).mpr negative]
    rfl
  have nonnegative : 0 ≤ block.length.toInt := by omega
  rw [if_neg negative]
  by_cases touches : block.TouchesDescriptor descriptor
  · rw [if_pos ((any_within_iff block descriptor).mpr touches),
      (BlockCopy.refusal?_eq_corruptsDescriptor_iff nonnegative descriptor).mpr touches]
    rfl
  rw [if_neg (mt (any_within_iff block descriptor).mp touches)]
  by_cases leaves : block.LeavesMemory
  · rw [if_pos ((leavesMemory_iff block).mp leaves),
      (BlockCopy.refusal?_eq_outOfBounds_iff nonnegative touches).mpr leaves]
    rfl
  · rw [if_neg (mt (leavesMemory_iff block).mpr leaves),
      (block.refusal?_eq_none_iff descriptor).mpr ⟨nonnegative, touches, leaves⟩]
    rfl

/-- A copy fails at the first address of its descriptor outside the memory. -/
theorem copy_of_outside (memory : Memory) {descriptor : Word} {address : Int}
    (outside : outsideCell? descriptor = some address) :
    copy memory descriptor = .error (.invalidMemoryAccess ⟨wrap address⟩) := by
  have missing {place : Int} (away : ¬Memory.IsAddress place) :
      cell memory place = .error (.invalidMemoryAccess ⟨wrap place⟩) := by
    rw [cell, (memory.contents_eq_none_iff place).mpr away]
  have present {place : Int} (inside : Memory.IsAddress place) :
      ∃ value, cell memory place = .ok value := by
    obtain ⟨value, found⟩ := memory.exists_contents inside
    exact ⟨value, by rw [cell, found]⟩
  rcases outsideCell?_eq_some outside with
    ⟨rfl, first⟩ | ⟨rfl, first, second⟩ | ⟨rfl, first, second, third⟩
  · rw [copy, missing first]
    rfl
  · obtain ⟨source, sourceFound⟩ := present first
    rw [copy, sourceFound, missing second]
    rfl
  · obtain ⟨source, sourceFound⟩ := present first
    obtain ⟨target, targetFound⟩ := present second
    rw [copy, sourceFound, targetFound, missing third]
    rfl

/-- The memory after a copy is the one in which the block was replaced. -/
theorem copyBlock_eq (memory : Memory) (descriptor : Word) :
    memory.copyBlock descriptor =
      match copy memory descriptor with
      | .ok moved => (.ok (), moved)
      | .error fault => (.error fault, memory) := by
  cases reach : outsideCell? descriptor with
  | some address => rw [copy_of_outside memory reach, memory.copyBlock_of_outside reach, wrap]
  | none =>
      obtain ⟨block, describes⟩ := memory.exists_describes reach
      rw [copy_of_describes describes]
      cases verdict : block.refusal? descriptor with
      | some refusal => exact Memory.copyBlock_of_refusal describes verdict
      | none =>
          obtain ⟨nonnegative, -, stays⟩ :=
            (block.refusal?_eq_none_iff descriptor).mp verdict
          obtain ⟨moved, succeeds, whole⟩ := Memory.exists_copyBlock describes verdict
          rw [succeeds, whole.unique (moved_replaceBlock nonnegative stays memory)]

theorem conclude_copy (machine : Machine) (descriptor : Word) :
    conclude (machine.execute .copy descriptor) =
      settle machine (do
        let memory ← copy machine.memory descriptor
        proceed { machine with memory }) := by
  rw [execute_copy, copyBlock_eq]
  cases copy machine.memory descriptor with
  | ok memory => exact (congrArg (settle machine) (proceed_eq _)).symm
  | error fault => rfl

/-! ## Steps -/

/-- Every entry of the table does what the flat interpreter says. -/
theorem conclude_execute (machine : Machine) (opcode : Opcode) (argument : Word) :
    conclude (machine.execute opcode argument) =
      settle machine (execute machine opcode.code.toInt argument) := by
  -- The entries that others hand over to; a direct entry is one look-up before one
  -- of them, an indirect entry two.
  have load (operand : Word) :
      conclude (machine.execute .loadImmediate operand) =
        settle machine (proceedWith machine operand.toInt) :=
    conclude_execute_of_compute rfl rfl (wrap_toInt operand)
  have add (operand : Word) :
      conclude (machine.execute .addImmediate operand) =
        settle machine
          (proceedWith machine (machine.registers.accumulator.toInt + operand.toInt)) :=
    conclude_execute_of_compute rfl rfl (wrap_add _ operand)
  have subtract (operand : Word) :
      conclude (machine.execute .subtractImmediate operand) =
        settle machine
          (proceedWith machine (machine.registers.accumulator.toInt - operand.toInt)) :=
    conclude_execute_of_compute rfl rfl (wrap_sub _ operand)
  have multiply (operand : Word) :
      conclude (machine.execute .multiplyImmediate operand) =
        settle machine
          (proceedWith machine (machine.registers.accumulator.toInt * operand.toInt)) :=
    conclude_execute_of_compute rfl rfl (wrap_mul _ operand)
  cases opcode with
  | noOperation =>
      have performs : Opcode.noOperation.action = .perform .pass := rfl
      rw [execute_of_perform performs]
      exact (congrArg (settle machine) (proceed_eq machine)).symm
  | loadImmediate => exact load argument
  | load => exact conclude_execute_of_dereference rfl load argument
  | loadIndirect =>
      exact conclude_execute_of_dereference rfl
        (conclude_execute_of_dereference rfl load) argument
  | store => exact conclude_store machine argument
  | storeIndirect =>
      exact conclude_execute_of_dereference rfl (conclude_store machine) argument
  | jumpImmediate => exact conclude_jump machine argument
  | jump => exact conclude_execute_of_dereference rfl (conclude_jump machine) argument
  | jumpIfZeroImmediate => exact conclude_jumpIfZero machine argument
  | jumpIfZero =>
      exact conclude_execute_of_dereference rfl (conclude_jumpIfZero machine) argument
  | addImmediate => exact add argument
  | add => exact conclude_execute_of_dereference rfl add argument
  | addIndirect =>
      exact conclude_execute_of_dereference rfl
        (conclude_execute_of_dereference rfl add) argument
  | subtractImmediate => exact subtract argument
  | subtract => exact conclude_execute_of_dereference rfl subtract argument
  | subtractIndirect =>
      exact conclude_execute_of_dereference rfl
        (conclude_execute_of_dereference rfl subtract) argument
  | multiplyImmediate => exact multiply argument
  | multiply => exact conclude_execute_of_dereference rfl multiply argument
  | multiplyIndirect =>
      exact conclude_execute_of_dereference rfl
        (conclude_execute_of_dereference rfl multiply) argument
  | divideImmediate => exact conclude_divide machine argument
  | divide => exact conclude_execute_of_dereference rfl (conclude_divide machine) argument
  | divideIndirect =>
      exact conclude_execute_of_dereference rfl
        (conclude_execute_of_dereference rfl (conclude_divide machine)) argument
  | conjoinImmediate => exact conclude_conjoin machine argument
  | conjoin =>
      exact conclude_execute_of_dereference rfl (conclude_conjoin machine) argument
  | negate => exact conclude_negate machine argument
  | testNegative => exact conclude_testNegative machine argument
  | testZero => exact conclude_testZero machine argument
  | copy => exact conclude_copy machine argument
  | copyIndirect =>
      exact conclude_execute_of_dereference rfl (conclude_copy machine) argument
  | halt =>
      have performs : Opcode.halt.action = .perform .halt := rfl
      rw [execute_of_perform performs]
      rfl

/-- A number without an entry in the table has none in the flat interpreter
either. -/
theorem execute_of_unknown {code : Word} (unknown : Opcode.ofCode? code = none)
    (machine : Machine) (argument : Word) :
    execute machine code.toInt argument = .error (.invalidInstruction code) := by
  have different : ∀ number ∈ Opcode.all.map fun opcode => opcode.code.toInt,
      code.toInt ≠ number := by
    rintro number member rfl
    obtain ⟨opcode, -, same⟩ := List.mem_map.mp member
    exact Opcode.ofCode?_eq_none_iff.mp unknown opcode (Int32.toInt_inj.mp same)
  unfold execute
  split
  case h_31 => rw [wrap_toInt]
  all_goals
    rename_i same
    exact absurd same (different _ (by decide))

theorem conclude_executeCurrent (machine : Machine) :
    conclude machine.executeCurrent = settle machine (step machine) := by
  by_cases inside : 0 ≤ machine.registers.programCounter.toInt ∧
      machine.registers.programCounter.toInt < (machine.code.packed.size : Int)
  · have bound : machine.registers.programCounter.toInt.toNat <
        machine.code.packed.size := by omega
    have fetched := Code.fetch_of_inside bound (Int.toNat_of_nonneg inside.1).symm
    rw [executeCurrent_of_fetch fetched, step, dif_pos inside]
    simp only [wrap, ← Instruction.toInt_opcode_unpack, ← Instruction.argument_unpack]
    generalize Instruction.unpack _ = instruction
    cases known : Opcode.ofCode? instruction.opcode with
    | some opcode =>
        rw [dispatch_of_known known, conclude_execute, Opcode.ofCode?_eq_some_iff.mp known]
    | none =>
        rw [dispatch_of_unknown known, execute_of_unknown known]
        rfl
  · rw [executeCurrent_of_refusal (Code.fetch_of_outside inside), step, dif_neg inside]
    rfl

/-- Interpreters that settle on the same step fail with the same faults. -/
theorem eq_error_iff {machine : Machine} {outcome : Outcome}
    {result : Except Fault Status × Machine}
    (agrees : conclude result = settle machine outcome) (fault : Fault) :
    outcome = .error fault ↔ result.1 = .error fault := by
  obtain ⟨verdict, next⟩ := result
  have sameVerdict := congrArg Prod.fst agrees
  cases outcome with
  | ok finished =>
      rcases verdict with cause | (_ | _) <;> simp_all [conclude, settle]
  | error reason =>
      rcases verdict with cause | (_ | _) <;> simp_all [conclude, settle]

theorem step_eq_error_iff (machine : Machine) (fault : Fault) :
    step machine = .error fault ↔ machine.executeCurrent.1 = .error fault :=
  eq_error_iff (conclude_executeCurrent machine) fault

/-- A machine that is not halted takes the steps of the flat interpreter, with
the same results, and after a fault with nothing changed but that it is halted.
The flat interpreter faults outside the program, and for the numbers that are
those of no opcode. -/
theorem step_eq_settle_step {machine : Machine} (active : machine.halted = false) :
    machine.step = settle machine (step machine) ∧
    (∀ refusal, step machine = .error (.invalidCodeAccess refusal) ↔
      ¬(0 ≤ machine.registers.programCounter.toInt ∧
        machine.registers.programCounter.toInt < machine.code.packed.size) ∧
      refusal =
        .outOfBounds machine.registers.programCounter machine.code.packed.size) ∧
    (∀ number, step machine = .error (.invalidInstruction number) ↔
      ∃ position : Fin machine.code.packed.size,
        machine.registers.programCounter.toInt = position.val ∧
        number.toInt = machine.code.packed[position].toInt / Word.modulus ∧
        ∀ opcode : Opcode, opcode.code ≠ number) := by
  refine ⟨?_, fun refusal => ?_, fun number => ?_⟩
  · rw [step_of_not_halted active, conclude_executeCurrent]
  · rw [step_eq_error_iff, executeCurrent_eq_invalidCodeAccess_iff,
      Code.fetch_eq_error_iff]
    rfl
  · rw [step_eq_error_iff, executeCurrent_eq_invalidInstruction_iff]
    simp only [Code.fetch_eq_ok_iff, Opcode.ofCode?_eq_none_iff,
      ← Instruction.toInt_opcode_unpack, Int32.toInt_inj]
    constructor
    · rintro ⟨argument, ⟨position, same, unpacked⟩, unknown⟩
      exact ⟨position, same, congrArg Instruction.opcode unpacked.symm, unknown⟩
    · rintro ⟨position, same, rfl, unknown⟩
      exact ⟨_, ⟨position, same, rfl⟩, unknown⟩

/-- A value is loaded through the address that another cell holds. -/
theorem step_eq_settle_step_indirect :
    let memory := (Memory.empty.writeCell ⟨0, by decide⟩ 1).writeCell ⟨1, by decide⟩ 42
    let code : Code := ⟨#[Instruction.pack ⟨Opcode.loadIndirect.code, 0⟩], by decide⟩
    let machine : Machine := { fresh with memory, code }
    machine.halted = false ∧
      machine.step.1 = .ok .running ∧
      machine.step.2.registers = { accumulator := 42, programCounter := 1 } ∧
      step machine ≠ .error (.invalidInstruction 3) := by
  intro memory code machine
  have active : machine.halted = false := rfl
  obtain ⟨sameStep, -, unknown⟩ := step_eq_settle_step active
  have result : (settle machine (step machine)).1 = .ok .running := by decide +kernel
  have registers : (settle machine (step machine)).2.registers =
      { accumulator := 42, programCounter := 1 } := by decide +kernel
  refine ⟨active, sameStep ▸ result, sameStep ▸ registers, fun failed => ?_⟩
  obtain ⟨position, -, -, free⟩ := (unknown 3).mp failed
  exact free .loadIndirect rfl

end Flat
end AccumulatorMachine
