import AccumulatorMachine.Proofs.BlockMove

/-!
# Where faults come from

A step faults with an invalid code access exactly when the program counter lies
outside the program, and with an invalid instruction exactly when the number it
fetched belongs to no opcode.  All other faults are those of operations and of
the look-ups of their operands; no entry of the table hands an operand over to a
number without an entry.

An instruction that faults leaves the machine as it found it.  For most
operations nothing is changed before the last look-up; a block copy changes
cells before its last look-up, but a copy that gets there cannot fail any more.
-/

namespace AccumulatorMachine

/-- Faults of an operation or of the look-up of an operand. -/
def Fault.isOperational : Fault → Bool
  | divisionByZero | illegalCopy _ | invalidMemoryAccess _ => true
  | invalidInstruction _ | invalidCodeAccess _ => false

/-! ## Operations -/

/-- A block copy that fails leaves the memory as it was. -/
theorem Memory.copyBlock_error {memory after : Memory} {descriptor : Word}
    {fault : Fault}
    (failed : memory.copyBlock descriptor = (.error fault, after)) :
    after = memory ∧ fault.isOperational = true := by
  cases reach : outsideCell? descriptor with
  | some address =>
      rw [memory.copyBlock_of_outside reach] at failed
      cases failed
      exact ⟨rfl, rfl⟩
  | none =>
      obtain ⟨block, describes⟩ := memory.exists_describes reach
      cases verdict : block.refusal? descriptor with
      | some refusal =>
          rw [copyBlock_of_refusal describes verdict] at failed
          cases failed
          exact ⟨rfl, rfl⟩
      | none =>
          obtain ⟨moved, succeeds, -⟩ := exists_copyBlock describes verdict
          rw [succeeds] at failed
          cases failed

/-- An operation that fails leaves the machine as it was. -/
theorem Operation.apply_error {operation : Operation} {operand : Word}
    {machine after : Machine} {fault : Fault}
    (failed : operation.apply operand machine = (.error fault, after)) :
    after = machine ∧ fault.isOperational = true := by
  cases operation with
  | store =>
      simp only [apply] at failed
      split at failed <;> cases failed
      exact ⟨rfl, rfl⟩
  | jumpIfZero =>
      simp only [apply] at failed
      split at failed <;> cases failed
  | divide =>
      simp only [apply] at failed
      split at failed <;> cases failed
      exact ⟨rfl, rfl⟩
  | testNegative =>
      simp only [apply] at failed
      split at failed <;> cases failed
      exact ⟨rfl, rfl⟩
  | testZero =>
      simp only [apply] at failed
      split at failed <;> cases failed
      exact ⟨rfl, rfl⟩
  | copy =>
      simp only [apply] at failed
      split at failed
      · cases failed
      · rename_i cause memory copied
        obtain ⟨rfl, operational⟩ := Memory.copyBlock_error copied
        cases failed
        exact ⟨rfl, operational⟩
  | pass | load | jump | add | subtract | multiply | conjoin | negate | halt =>
      cases failed

/-! ## Instructions -/

namespace Machine

/-- An instruction that fails, at whatever look-up, leaves the machine as it
was. -/
theorem dispatch_error {machine after : Machine} {instruction : Instruction}
    {fault : Fault}
    (failed : machine.dispatch instruction = (.error fault, after)) :
    after = machine := by
  fun_induction dispatch machine instruction with
  | case1 instruction unknown => exact (Prod.mk.inj failed).2.symm
  | case2 instruction operation entry => exact (Operation.apply_error failed).1
  | case3 instruction next entry value found inductionHypothesis =>
      exact inductionHypothesis failed
  | case4 instruction next entry error missing => exact (Prod.mk.inj failed).2.symm

/-- Only what an opcode does or looks up makes it fail: the table has an entry
for every opcode that another one hands over to. -/
theorem isOperational_of_dispatch {machine : Machine} {instruction : Instruction}
    {opcode : Opcode} {fault : Fault}
    (known : Opcode.ofCode? instruction.opcode = some opcode)
    (failed : (machine.dispatch instruction).1 = .error fault) :
    fault.isOperational = true := by
  fun_induction dispatch machine instruction generalizing opcode with
  | case1 instruction unknown =>
      rw [Action.lookUp_eq_map, known] at unknown
      cases unknown
  | case2 instruction operation entry =>
      exact (Operation.apply_error (Prod.ext failed rfl)).2
  | case3 instruction next entry value found inductionHypothesis =>
      exact inductionHypothesis (Opcode.ofCode?_code next) failed
  | case4 instruction next entry error missing =>
      cases failed
      rfl

theorem executeCurrent_error {machine after : Machine} {fault : Fault}
    (failed : machine.executeCurrent = (.error fault, after)) :
    after = machine := by
  rw [executeCurrent] at failed
  split at failed
  · exact dispatch_error failed
  · exact (Prod.mk.inj failed).2.symm

/-- The fault of an invalid code access is that of the fetch. -/
theorem executeCurrent_eq_invalidCodeAccess_iff (machine : Machine)
    (refusal : Code.Refusal) :
    machine.executeCurrent.1 = .error (.invalidCodeAccess refusal) ↔
      machine.code.fetch machine.registers.programCounter = .error refusal := by
  cases fetched : machine.code.fetch machine.registers.programCounter with
  | error cause =>
      rw [executeCurrent_of_refusal fetched]
      simp
  | ok instruction =>
      rw [executeCurrent_of_fetch fetched]
      simp only [reduceCtorEq, iff_false]
      intro failed
      cases known : Opcode.ofCode? instruction.opcode with
      | some opcode =>
          have operational := isOperational_of_dispatch known failed
          cases operational
      | none =>
          rw [dispatch_of_unknown known] at failed
          cases failed

/-- The fault of an invalid instruction names the number that was fetched. -/
theorem executeCurrent_eq_invalidInstruction_iff (machine : Machine) (code : Word) :
    machine.executeCurrent.1 = .error (.invalidInstruction code) ↔
      ∃ argument,
        machine.code.fetch machine.registers.programCounter = .ok ⟨code, argument⟩ ∧
          Opcode.ofCode? code = none := by
  cases fetched : machine.code.fetch machine.registers.programCounter with
  | error cause =>
      rw [executeCurrent_of_refusal fetched]
      simp
  | ok instruction =>
      rw [executeCurrent_of_fetch fetched]
      cases known : Opcode.ofCode? instruction.opcode with
      | some opcode =>
          constructor
          · intro failed
            have operational := isOperational_of_dispatch known failed
            cases operational
          · rintro ⟨argument, same, unknown⟩
            cases same
            rw [unknown] at known
            cases known
      | none =>
          rw [dispatch_of_unknown known]
          constructor
          · intro failed
            cases failed
            exact ⟨instruction.argument, rfl, known⟩
          · rintro ⟨argument, same, unknown⟩
            cases same
            rfl

end Machine
end AccumulatorMachine
