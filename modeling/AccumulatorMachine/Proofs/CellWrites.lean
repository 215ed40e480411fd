import AccumulatorMachine.Proofs.ExecutableLoading
import AccumulatorMachine.Proofs.RunLengths

/-!
# The writes of an instruction

What a step writes can be told from the machine before it: nothing, one cell, or
the cells of a block copy in the order of its offsets.  Carrying out these writes
one after the other gives the memory after the step, and likewise for runs.
-/

namespace AccumulatorMachine

/-! ## Writes -/

/-- The write of a value to the cell at an address, if there is such a cell. -/
def Memory.writesAt (address value : Word) : List Datum :=
  match index? address with
  | some index => [⟨index, value⟩]
  | none => []

namespace BlockCopy

/-- The write that moves the cell at an offset. -/
def cellWrites (block : BlockCopy) (memory : Memory) (offset : Nat) : List Datum :=
  match memory.read (block.source + Int32.ofNat offset) with
  | .ok value => Memory.writesAt (block.target + Int32.ofNat offset) value
  | .error _ => []

/-- The writes of a block copy in the order of its offsets, with the values that
the source block holds before the first of them. -/
def writes (block : BlockCopy) (memory : Memory) : List Datum :=
  block.offsets.flatMap (block.cellWrites memory)

end BlockCopy

/-- The writes of the block copy described at an address, none if it is
refused. -/
def Memory.copyWrites (memory : Memory) (descriptor : Word) : List Datum :=
  match memory.readDescriptor descriptor with
  | .ok block =>
      if (block.refusal? descriptor).isNone then block.writes memory else []
  | .error _ => []

/-- The writes of an operation. -/
def Operation.writes (operation : Operation) (operand : Word) (machine : Machine) :
    List Datum :=
  match operation with
  | store => Memory.writesAt operand machine.registers.accumulator
  | copy => machine.memory.copyWrites operand
  | _ => []

namespace Machine

/-- The writes of an opcode with a given argument. -/
def executionWrites (machine : Machine) (opcode : Opcode) (argument : Word) : List Datum :=
  match _handsOver : opcode.action with
  | .perform operation => operation.writes argument machine
  | .dereference next =>
      match machine.memory.read argument with
      | .ok value => machine.executionWrites next value
      | .error _ => []
  termination_by opcode.indirection
  decreasing_by exact Opcode.indirection_lt_of_dereference (by assumption)

/-- The writes of the instruction at the program counter. -/
def instructionWrites (machine : Machine) : List Datum :=
  match machine.code.fetch machine.registers.programCounter with
  | .error _ => []
  | .ok instruction =>
      match Opcode.ofCode? instruction.opcode with
      | some opcode => machine.executionWrites opcode instruction.argument
      | none => []

/-- The writes of a step.  A halted machine writes nothing. -/
def stepWrites (machine : Machine) : List Datum :=
  if machine.halted then [] else machine.instructionWrites

/-- The writes of up to `bound` steps, until one does not leave the machine
running. -/
def runWrites : Nat → Machine → List Datum
  | 0, _ => []
  | bound + 1, machine =>
      match machine.step with
      | (.ok .running, next) => machine.stepWrites ++ runWrites bound next
      | _ => machine.stepWrites

end Machine

/-! ## Memory -/

namespace Memory

/-- A memory after a write, unless the write fails, is the memory after the
writes at its address. -/
theorem write_eq (memory : Memory) (address value : Word) :
    (∃ written, memory.write address value = .ok written ∧
      written = memory.writeAll (writesAt address value)) ∨
    (∃ error, memory.write address value = .error error ∧ writesAt address value = []) := by
  unfold write writesAt
  cases index? address with
  | some index => exact Or.inl ⟨_, rfl, rfl⟩
  | none => exact Or.inr ⟨_, rfl, rfl⟩

end Memory

namespace BlockCopy

/-- Where a cell is moved from and to does not depend on the memory. -/
theorem exists_cellWrites {block : BlockCopy} {offset : Nat}
    (reaches : block.ReachesMemory offset) :
    ∃ origin place : CellIndex, (origin.val : Int) = block.source.toInt + offset ∧
      (place.val : Int) = block.target.toInt + offset ∧
      ∀ memory, block.cellWrites memory offset = [⟨place, memory.cell origin⟩] ∧
        block.moveCell memory offset = .ok (memory.writeCell place (memory.cell origin)) := by
  have inSource := toInt_add_offset reaches.1
  have inTarget := toInt_add_offset reaches.2
  obtain ⟨origin, atOrigin⟩ : ∃ origin,
      Memory.index? (block.source + Int32.ofNat offset) = some origin := by
    rw [← Option.ne_none_iff_exists', ne_eq, Memory.index?_eq_none_iff_not_isAddress, inSource]
    exact not_not.mpr reaches.1
  obtain ⟨place, atPlace⟩ : ∃ place,
      Memory.index? (block.target + Int32.ofNat offset) = some place := by
    rw [← Option.ne_none_iff_exists', ne_eq, Memory.index?_eq_none_iff_not_isAddress, inTarget]
    exact not_not.mpr reaches.2
  refine ⟨origin, place, ?_, ?_, fun memory => ⟨?_, ?_⟩⟩
  · rw [← inSource, (Memory.index?_eq_some_iff _ _).mp atOrigin]
  · rw [← inTarget, (Memory.index?_eq_some_iff _ _).mp atPlace]
  · rw [cellWrites, Memory.read, atOrigin]
    simp only [Memory.writesAt, atPlace]
  · rw [moveCell, Memory.read, atOrigin]
    change memory.write _ _ = _
    rw [Memory.write, atPlace]

/-- Cells that are moved one after the other are written with the values they
had before, as long as no cell is read after it was written. -/
theorem moveCells_eq (block : BlockCopy) (offsets : List Nat) (memory : Memory)
    (reaches : ∀ offset ∈ offsets, block.ReachesMemory offset)
    (ordered : offsets.Pairwise block.Before) :
    block.moveCells memory offsets =
      (.ok (), memory.writeAll (offsets.flatMap (block.cellWrites memory))) := by
  induction offsets generalizing memory with
  | nil => rfl
  | cons offset rest inductionHypothesis =>
      rw [List.forall_mem_cons] at reaches
      rw [List.pairwise_cons] at ordered
      obtain ⟨origin, place, -, atPlace, moves⟩ := exists_cellWrites reaches.1
      let next := memory.writeCell place (memory.cell origin)
      -- The cell written now is not the origin of a later move: `ordered.1` is why the
      -- later writes can be told from the memory before all of them.
      have unwritten : ∀ other ∈ rest,
          block.cellWrites next other = block.cellWrites memory other := by
        intro other later
        obtain ⟨otherOrigin, otherPlace, atOtherOrigin, -, otherMoves⟩ :=
          exists_cellWrites (reaches.2 other later)
        have different : place ≠ otherOrigin := by
          rintro rfl
          exact (ordered.1 other later).2 (atPlace.symm.trans atOtherOrigin)
        rw [(otherMoves next).1, (otherMoves memory).1, Memory.cell_writeCell,
          if_neg different]
      rw [moveCells, (moves memory).2]
      simp only
      rw [inductionHypothesis next reaches.2 ordered.2, List.flatMap_congr unwritten,
        List.flatMap_cons, (moves memory).1]
      rfl

/-- A copy that is not refused carries out its writes. -/
theorem move_eq {block : BlockCopy} {descriptor : Word}
    (accepted : block.refusal? descriptor = none) (memory : Memory) :
    block.move memory = (.ok (), memory.writeAll (block.writes memory)) := by
  obtain ⟨-, -, stays⟩ := (block.refusal?_eq_none_iff descriptor).mp accepted
  apply block.moveCells_eq block.offsets memory _ block.pairwise_offsets
  intro offset member
  exact reachesMemory_of_stays stays ((mem_offsets block offset).mp member)

end BlockCopy

/-- The memory after a copy, carried out or refused. -/
theorem Memory.copyBlock_snd (memory : Memory) (descriptor : Word) :
    (memory.copyBlock descriptor).2 = memory.writeAll (memory.copyWrites descriptor) := by
  unfold copyBlock copyWrites
  cases memory.readDescriptor descriptor with
  | error error => rfl
  | ok block =>
      cases verdict : block.refusal? descriptor with
      | some refusal =>
          simp only [verdict]
          rfl
      | none =>
          simp only [verdict, BlockCopy.move_eq verdict]
          rfl

/-! ## Steps and runs -/

theorem Operation.memory_apply (operation : Operation) (operand : Word) (machine : Machine) :
    (operation.apply operand machine).2.memory =
      machine.memory.writeAll (operation.writes operand machine) := by
  cases operation with
  | store =>
      rcases machine.memory.write_eq operand machine.registers.accumulator with
        ⟨written, succeeds, same⟩ | ⟨error, fails, nothing⟩
      · simp only [apply, Machine.setData, succeeds, writes, ← same]
        rfl
      · simp only [apply, Machine.setData, fails, writes, nothing]
        rfl
  | copy =>
      have moved := machine.memory.copyBlock_snd operand
      simp only [apply, writes, ← moved]
      rcases machine.memory.copyBlock operand with ⟨fault | _, memory⟩
      · rfl
      · rfl
  | jumpIfZero | divide | testNegative | testZero =>
      simp only [apply]
      split
      · rfl
      · rfl
  | pass | load | jump | add | subtract | multiply | conjoin | negate | halt => rfl

namespace Machine

theorem memory_execute (machine : Machine) (opcode : Opcode) (argument : Word) :
    (machine.execute opcode argument).2.memory =
      machine.memory.writeAll (machine.executionWrites opcode argument) := by
  fun_induction executionWrites machine opcode argument with
  | case1 opcode argument operation performs =>
      rw [execute_of_perform performs, Operation.memory_apply]
  | case2 opcode argument next handsOver value found inductionHypothesis =>
      rw [execute_of_dereference handsOver, found]
      exact inductionHypothesis
  | case3 opcode argument next handsOver error missing =>
      rw [execute_of_dereference handsOver, missing]
      rfl

/-- The writes of a step whose instruction performs an operation. -/
theorem stepWrites_of_perform {machine : Machine} (opcode : Opcode) (argument : Word)
    {operation : Operation}
    (active : machine.halted = false)
    (fetched : machine.code.fetch machine.registers.programCounter =
      .ok ⟨opcode.code, argument⟩)
    (performs : opcode.action = .perform operation) :
    machine.stepWrites = operation.writes argument machine := by
  rw [stepWrites, active, if_neg Bool.false_ne_true, instructionWrites, fetched]
  simp only [Opcode.ofCode?_code]
  rw [executionWrites]
  split
  · rename_i other found
    rw [performs] at found
    rw [Action.perform.inj found]
  · rename_i next found
    rw [performs] at found
    cases found

theorem memory_conclude (result : Except Fault Status × Machine) :
    (conclude result).2.memory = result.2.memory := by
  rcases result with ⟨fault | status, machine⟩
  · rfl
  · cases status with
    | running => rfl
    | halted => rfl

theorem memory_executeCurrent (machine : Machine) :
    machine.executeCurrent.2.memory = machine.memory.writeAll machine.instructionWrites := by
  unfold instructionWrites
  cases fetched : machine.code.fetch machine.registers.programCounter with
  | error refusal =>
      rw [executeCurrent_of_refusal fetched]
      rfl
  | ok instruction =>
      rw [executeCurrent_of_fetch fetched]
      cases known : Opcode.ofCode? instruction.opcode with
      | some opcode => simp only [dispatch_of_known known, memory_execute, known]
      | none =>
          simp only [dispatch_of_unknown known, known]
          rfl

/-- A step carries out its writes. -/
theorem memory_step (machine : Machine) :
    machine.step.2.memory = machine.memory.writeAll machine.stepWrites := by
  cases halted : machine.halted with
  | true =>
      rw [step_of_halted halted, stepWrites, if_pos halted]
      rfl
  | false =>
      rw [step_of_not_halted halted, memory_conclude, memory_executeCurrent, stepWrites, halted]
      rfl

theorem runWrites_succ_of_running {machine next : Machine}
    (stepped : machine.step = (.ok .running, next))
    (steps : Nat) :
    machine.runWrites (steps + 1) = machine.stepWrites ++ next.runWrites steps := by
  rw [runWrites, stepped]

theorem runWrites_succ_of_stopped {machine last : Machine} {result : Except StepError Status}
    (stepped : machine.step = (result, last))
    (stopped : result ≠ .ok .running)
    (steps : Nat) :
    machine.runWrites (steps + 1) = machine.stepWrites := by
  rw [runWrites, stepped]
  split
  · rename_i goesOn
    exact absurd (Prod.mk.inj goesOn).1 stopped
  · rfl

theorem stepWrites_of_halted {machine : Machine} (halted : machine.halted = true) :
    machine.stepWrites = [] :=
  if_pos halted

theorem runWrites_of_halted {machine : Machine} (halted : machine.halted = true)
    (steps : Nat) :
    machine.runWrites steps = [] := by
  cases steps with
  | zero => rfl
  | succ steps =>
      rw [runWrites_succ_of_stopped (step_of_halted halted) (error_ne_running _),
        stepWrites_of_halted halted]

/-- A run with a limit carries out its writes. -/
theorem memory_runFor (steps : Nat) (machine : Machine) :
    (runFor steps machine).2.memory = machine.memory.writeAll (machine.runWrites steps) := by
  induction steps generalizing machine with
  | zero => rfl
  | succ steps inductionHypothesis =>
      have written := memory_step machine
      rcases machine.step_cases with ⟨next, stepped⟩ | ⟨outcome, last, stepped, ends⟩
      · rw [stepped] at written
        rw [runFor_succ_of_running stepped, inductionHypothesis, written,
          ← Memory.writeAll_append, runWrites_succ_of_running stepped]
      · rw [stepped] at written
        rw [runFor_succ_of_stopped stepped ends, written, runWrites_succ_of_stopped stepped ends]

/-- A run without a limit carries out its writes. -/
theorem memory_run {bound : Nat} {machine last : Machine} {answer : Except StepError Nat}
    (ran : run bound machine = some (answer, last)) :
    last.memory = machine.memory.writeAll (machine.runWrites bound) := by
  obtain ⟨number, result, within, stops, -⟩ :=
    (runCounting_eq_some_iff bound 0 machine last answer).mp ran
  rw [← memory_runFor, stops.runFor_eq within]

end Machine
end AccumulatorMachine
