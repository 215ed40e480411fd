import AccumulatorMachine.Proofs.CellWrites

/-!
# Machines that step alike

No instruction reads which cell was written last, and `NOP`, `NOT` and `HALT` do
not read their argument.  Machines that differ in nothing else therefore give the
same results, step after step, and keep differing in nothing else.
-/

namespace AccumulatorMachine

/-- Instructions with the same opcode, and with the same argument unless that
opcode takes none. -/
def Instruction.ReadsAlike (first second : Instruction) : Prop :=
  first.opcode = second.opcode ∧
    ((∃ opcode, Opcode.ofCode? first.opcode = some opcode ∧ opcode.takesArgument = false) ∨
      first.argument = second.argument)

namespace Machine

/-- Machines that differ at most in the cell marked as written last and in
arguments that no instruction reads. -/
structure Alike (first second : Machine) : Prop where
  registers : first.registers = second.registers
  halted : first.halted = second.halted
  cells : first.memory.cells = second.memory.cells
  code : List.Forall₂ Instruction.ReadsAlike first.code.instructions second.code.instructions

/-- Outcomes with the same result that leave alike machines. -/
structure SameOutcome {ε α : Type} (first second : Except ε α × Machine) : Prop where
  result : first.1 = second.1
  machine : first.2.Alike second.2

/-- The machine after a number of steps, whatever their results are. -/
def afterSteps : Nat → Machine → Machine
  | 0, machine => machine
  | steps + 1, machine => afterSteps steps machine.step.2

end Machine

/-! ## Memory -/

namespace Memory

variable {first second : Memory}

/-- Reading finds the cells and nothing else. -/
theorem read_congr (cells : first.cells = second.cells) : first.read = second.read := by
  funext address
  simp only [read, cell, cells]

theorem cells_writeAll_congr (cells : first.cells = second.cells) (data : List Datum) :
    (first.writeAll data).cells = (second.writeAll data).cells := by
  induction data generalizing first second with
  | nil => exact cells
  | cons datum rest inductionHypothesis =>
      apply inductionHypothesis
      rw [cells_writeCell, cells_writeCell, cells]

theorem copyWrites_congr (cells : first.cells = second.cells) (descriptor : Word) :
    first.copyWrites descriptor = second.copyWrites descriptor := by
  have reads := read_congr cells
  have moves (block : BlockCopy) : block.cellWrites first = block.cellWrites second := by
    funext offset
    simp only [BlockCopy.cellWrites, reads]
  simp only [copyWrites, readDescriptor, BlockCopy.writes, reads, moves]

/-- Whether a copy succeeds can be told from its descriptor. -/
theorem copyBlock_fst (memory : Memory) (descriptor : Word) :
    (memory.copyBlock descriptor).1 =
      match memory.readDescriptor descriptor with
      | .error error => .error (.invalidMemoryAccess error)
      | .ok block =>
          match block.refusal? descriptor with
          | some refusal => .error (.illegalCopy refusal)
          | none => .ok () := by
  unfold copyBlock
  cases memory.readDescriptor descriptor with
  | error error => rfl
  | ok block =>
      cases verdict : block.refusal? descriptor with
      | some refusal => simp only [verdict]
      | none =>
          simp only [verdict, BlockCopy.move_eq verdict]
          rfl

/-- A copy gives the same result and the same cells. -/
theorem copyBlock_congr (cells : first.cells = second.cells) (descriptor : Word) :
    (first.copyBlock descriptor).1 = (second.copyBlock descriptor).1 ∧
      (first.copyBlock descriptor).2.cells = (second.copyBlock descriptor).2.cells := by
  -- The memory after a copy is compared by its writes, not move by move: they are
  -- the same because they depend on what is read only.
  constructor
  · rw [copyBlock_fst, copyBlock_fst]
    simp only [readDescriptor, read_congr cells]
  · rw [copyBlock_snd, copyBlock_snd, copyWrites_congr cells]
    exact cells_writeAll_congr cells _

end Memory

/-! ## Code -/

namespace Code

theorem get?_eq (code : Code) (position : Nat) :
    code.get? position = code.instructions[position]? := by
  simp [get?, instructions]

/-- A fetch from alike programs finds alike instructions or fails alike. -/
theorem fetch_cases {first second : Code}
    (alike : List.Forall₂ Instruction.ReadsAlike first.instructions second.instructions)
    (index : Word) :
    (∃ one other, first.fetch index = .ok one ∧ second.fetch index = .ok other ∧
      one.ReadsAlike other) ∨
    (∃ refusal, first.fetch index = .error refusal ∧ second.fetch index = .error refusal) := by
  have size : first.size = second.size := by
    rw [← first.length_instructions, ← second.length_instructions]
    exact alike.length_eq
  unfold fetch
  cases position? index with
  | none => exact Or.inr ⟨_, rfl, by rw [size]; rfl⟩
  | some position =>
      rw [Option.bind_some, Option.bind_some, get?_eq, get?_eq]
      by_cases inside : position < first.instructions.length
      · have inOther : position < second.instructions.length := alike.length_eq ▸ inside
        rw [List.getElem?_eq_getElem inside, List.getElem?_eq_getElem inOther]
        exact Or.inl ⟨_, _, rfl, rfl, alike.get inside inOther⟩
      · have outside := Nat.not_lt.mp inside
        rw [List.getElem?_eq_none outside,
          List.getElem?_eq_none (alike.length_eq ▸ outside), size]
        exact Or.inr ⟨_, rfl, rfl⟩

end Code

/-! ## Machines -/

namespace Machine

variable {first second : Machine}

/-- The same change of the registers keeps machines alike. -/
theorem Alike.changeRegisters (alike : first.Alike second) (change : Registers → Registers) :
    ({ first with registers := change first.registers } : Machine).Alike
      { second with registers := change second.registers } where
  registers := congrArg change alike.registers
  halted := alike.halted
  cells := alike.cells
  code := alike.code

theorem Alike.advance (alike : first.Alike second) : first.advance.Alike second.advance :=
  alike.changeRegisters fun registers =>
    { registers with programCounter := registers.programCounter + 1 }

theorem Alike.withAccumulator (alike : first.Alike second) (accumulator : Word) :
    (first.withAccumulator accumulator).Alike (second.withAccumulator accumulator) :=
  alike.changeRegisters fun registers => { registers with accumulator }

theorem Alike.withProgramCounter (alike : first.Alike second) (programCounter : Word) :
    (first.withProgramCounter programCounter).Alike
      (second.withProgramCounter programCounter) :=
  alike.changeRegisters fun registers => { registers with programCounter }

theorem Alike.halt (alike : first.Alike second) : first.halt.Alike second.halt where
  registers := alike.registers
  halted := rfl
  cells := alike.cells
  code := alike.code

theorem Alike.withMemory (alike : first.Alike second) {one other : Memory}
    (cells : one.cells = other.cells) :
    ({ first with memory := one } : Machine).Alike { second with memory := other } where
  registers := alike.registers
  halted := alike.halted
  cells := cells
  code := alike.code

end Machine

/-- An operation has the same outcome on alike machines. -/
theorem Operation.sameOutcome_apply (operation : Operation) (operand : Word)
    {first second : Machine} (alike : first.Alike second) :
    Machine.SameOutcome (operation.apply operand first) (operation.apply operand second) := by
  have goesOn (value : Word) :
      Machine.SameOutcome (ε := Fault) (.ok Status.running, (first.withAccumulator value).advance)
        (.ok Status.running, (second.withAccumulator value).advance) :=
    ⟨rfl, (alike.withAccumulator value).advance⟩
  have reads := Memory.read_congr alike.cells
  have accumulator : first.registers.accumulator = second.registers.accumulator :=
    congrArg Registers.accumulator alike.registers
  cases operation with
  | pass => exact ⟨rfl, alike.advance⟩
  | halt => exact ⟨rfl, alike⟩
  | jump => exact ⟨rfl, alike.withProgramCounter operand⟩
  | jumpIfZero =>
      simp only [apply, accumulator]
      split
      · exact ⟨rfl, alike.withProgramCounter operand⟩
      · exact ⟨rfl, alike.advance⟩
  | load | add | subtract | multiply | conjoin | negate =>
      simp only [apply, accumulator]
      exact goesOn _
  | divide =>
      simp only [apply, accumulator]
      split
      · exact ⟨rfl, alike⟩
      · exact goesOn _
  | testNegative | testZero =>
      simp only [apply, reads]
      split
      · exact goesOn _
      · exact ⟨rfl, alike⟩
  | store =>
      simp only [apply, Machine.setData, Memory.write, accumulator]
      cases Memory.index? operand with
      | none => exact ⟨rfl, alike⟩
      | some index =>
          have cells : (first.memory.writeCell index second.registers.accumulator).cells =
              (second.memory.writeCell index second.registers.accumulator).cells := by
            rw [Memory.cells_writeCell, Memory.cells_writeCell, alike.cells]
          exact ⟨rfl, (alike.withMemory cells).advance⟩
  | copy =>
      -- A copy that fails gives the memory back too.
      obtain ⟨result, cells⟩ := Memory.copyBlock_congr alike.cells operand
      rcases copied : first.memory.copyBlock operand with ⟨found, moved⟩
      rcases otherCopied : second.memory.copyBlock operand with ⟨otherFound, otherMoved⟩
      rw [copied, otherCopied] at result cells
      cases result
      simp only [apply, copied, otherCopied]
      cases found with
      | error fault => exact ⟨rfl, alike.withMemory cells⟩
      | ok => exact ⟨rfl, (alike.withMemory cells).advance⟩

namespace Machine

variable {first second : Machine}

/-- An opcode has the same outcome on alike machines. -/
theorem Alike.sameOutcome_execute (alike : first.Alike second) (opcode : Opcode)
    (argument : Word) :
    SameOutcome (first.execute opcode argument) (second.execute opcode argument) := by
  -- Alike machines look up the same value, so they hand it over to the same opcode,
  -- and each look-up leaves fewer of them.
  cases action : opcode.action with
  | perform operation =>
      rw [execute_of_perform action, execute_of_perform action]
      exact operation.sameOutcome_apply argument alike
  | dereference next =>
      rw [execute_of_dereference action, execute_of_dereference action,
        Memory.read_congr alike.cells]
      cases second.memory.read argument with
      | ok value => exact alike.sameOutcome_execute next value
      | error error => exact ⟨rfl, alike⟩
  termination_by opcode.indirection
  decreasing_by exact Opcode.indirection_lt_of_dereference action

/-- An opcode that takes no argument does the same with any. -/
theorem execute_of_unread {opcode : Opcode} (unread : opcode.takesArgument = false)
    (machine : Machine) (argument other : Word) :
    machine.execute opcode argument = machine.execute opcode other := by
  cases opcode with
  | noOperation =>
      have performs : Opcode.noOperation.action = .perform .pass := rfl
      rw [execute_of_perform performs, execute_of_perform performs]
      rfl
  | negate =>
      have performs : Opcode.negate.action = .perform .negate := rfl
      rw [execute_of_perform performs, execute_of_perform performs]
      rfl
  | halt =>
      have performs : Opcode.halt.action = .perform .halt := rfl
      rw [execute_of_perform performs, execute_of_perform performs]
      rfl
  | _ => cases unread

/-- Alike instructions have the same outcome on alike machines. -/
theorem Alike.sameOutcome_dispatch (alike : first.Alike second) {one other : Instruction}
    (reads : one.ReadsAlike other) :
    SameOutcome (first.dispatch one) (second.dispatch other) := by
  obtain ⟨sameOpcode, unread | sameArgument⟩ := reads
  · obtain ⟨opcode, known, unread⟩ := unread
    rw [dispatch_of_known known, dispatch_of_known (sameOpcode ▸ known),
      execute_of_unread unread second other.argument one.argument]
    exact alike.sameOutcome_execute opcode one.argument
  · cases known : Opcode.ofCode? one.opcode with
    | some opcode =>
        rw [dispatch_of_known known, dispatch_of_known (sameOpcode ▸ known), sameArgument]
        exact alike.sameOutcome_execute opcode other.argument
    | none =>
        rw [dispatch_of_unknown known, dispatch_of_unknown (sameOpcode ▸ known), sameOpcode]
        exact ⟨rfl, alike⟩

theorem Alike.sameOutcome_executeCurrent (alike : first.Alike second) :
    SameOutcome first.executeCurrent second.executeCurrent := by
  rcases Code.fetch_cases alike.code first.registers.programCounter with
    ⟨one, other, fetched, otherFetched, reads⟩ | ⟨refusal, refused, otherRefused⟩
  · rw [alike.registers] at otherFetched
    rw [executeCurrent_of_fetch fetched, executeCurrent_of_fetch otherFetched]
    exact alike.sameOutcome_dispatch reads
  · rw [alike.registers] at otherRefused
    rw [executeCurrent_of_refusal refused, executeCurrent_of_refusal otherRefused]
    exact ⟨rfl, alike⟩

theorem SameOutcome.conclude {one other : Except Fault Status × Machine}
    (same : SameOutcome one other) :
    SameOutcome (Machine.conclude one) (Machine.conclude other) := by
  obtain ⟨result, next⟩ := one
  obtain ⟨otherResult, otherNext⟩ := other
  obtain ⟨rfl, alike⟩ := same
  cases result with
  | error fault => exact ⟨rfl, alike.halt⟩
  | ok status =>
      cases status with
      | running => exact ⟨rfl, alike⟩
      | halted => exact ⟨rfl, alike.halt⟩

/-- A step has the same outcome on alike machines. -/
theorem Alike.sameOutcome_step (alike : first.Alike second) :
    SameOutcome first.step second.step := by
  cases halted : first.halted with
  | true =>
      rw [step_of_halted halted, step_of_halted (alike.halted ▸ halted)]
      exact ⟨rfl, alike⟩
  | false =>
      rw [step_of_not_halted halted, step_of_not_halted (alike.halted ▸ halted)]
      exact alike.sameOutcome_executeCurrent.conclude

/-- Alike machines stay alike, step after step. -/
theorem Alike.afterSteps (alike : first.Alike second) (steps : Nat) :
    (afterSteps steps first).Alike (Machine.afterSteps steps second) := by
  induction steps generalizing first second with
  | zero => exact alike
  | succ steps inductionHypothesis => exact inductionHypothesis alike.sameOutcome_step.machine

end Machine
end AccumulatorMachine
