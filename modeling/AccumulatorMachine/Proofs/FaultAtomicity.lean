import AccumulatorMachine.Machine.Run
import AccumulatorMachine.Proofs.FaultOrigin

/-!
# Faults leave no trace

A step that faults only halts the machine, and a run that ends in a fault ends
where the instructions completed before it led.
-/

namespace AccumulatorMachine
namespace Machine

/-- A step that faults only halts the machine. -/
theorem step_fault {machine after : Machine} {fault : Fault}
    (faulted : machine.step = (.error (.fault fault), after)) :
    after = machine.halt := by
  rw [step] at faulted
  split at faulted
  · cases faulted
  · rcases failed : machine.executeCurrent with ⟨cause | status, next⟩
    · rw [failed, executeCurrent_error failed] at faulted
      exact (Prod.mk.inj faulted).2.symm
    · rw [failed] at faulted
      cases status <;> cases faulted

/-! ## Runs -/

/-- A limited run that ends in a fault completed some instructions, and its last
step faulted. -/
theorem exists_completed_of_runFor_fault {steps : Nat} {machine last : Machine}
    {fault : Fault}
    (ran : runFor steps machine = (.error (.fault fault), last)) :
    ∃ completed before, completed < steps ∧
      runFor completed machine = (.ok .running, before) ∧
      before.step = (.error (.fault fault), last) := by
  induction steps generalizing machine with
  | zero => cases ran
  | succ steps inductionHypothesis =>
      match stepped : machine.step with
      | (.ok .running, next) =>
          rw [runFor_succ_of_running stepped] at ran
          obtain ⟨completed, before, fewer, reached, faulted⟩ := inductionHypothesis ran
          refine ⟨completed + 1, before, by omega, ?_, faulted⟩
          rw [runFor_succ_of_running stepped, reached]
      | (.ok .halted, next) =>
          rw [runFor_succ_of_halted stepped] at ran
          cases ran
      | (.error error, next) =>
          rw [runFor_succ_of_error stepped] at ran
          exact ⟨0, machine, by omega, runFor_zero machine, stepped.trans ran⟩

/-- An unlimited run that ends in an error ends like a limited one. -/
theorem runFor_of_runCounting_error {bound count : Nat} {machine last : Machine}
    {error : StepError}
    (ran : runCounting bound count machine = some (.error error, last)) :
    runFor bound machine = (.error error, last) := by
  induction bound generalizing count machine with
  | zero => cases ran
  | succ bound inductionHypothesis =>
      rw [runCounting] at ran
      match stepped : machine.step with
      | (.ok .running, next) =>
          simp only [stepped] at ran
          rw [runFor_succ_of_running stepped]
          exact inductionHypothesis ran
      | (.ok .halted, next) =>
          simp only [stepped] at ran
          cases ran
      | (.error cause, next) =>
          simp only [stepped, Option.some.injEq] at ran
          rw [runFor_succ_of_error stepped, Prod.mk.injEq]
          simpa using ran

/-- A fault changes nothing but the mark that says whether the machine is
halted.  Where a run ends in a fault, its last machine is the one that the
instructions completed before it led to, halted, with the program counter where
the fault arose. -/
theorem fault_only_halts :
    (∀ machine after fault, step machine = (.error (.fault fault), after) →
      after = { machine with halted := true }) ∧
    (∀ steps machine last fault, runFor steps machine = (.error (.fault fault), last) →
      ∃ completed before, completed < steps ∧
        runFor completed machine = (.ok .running, before) ∧
        before.step = (.error (.fault fault), last) ∧
        last = { before with halted := true }) ∧
    (∀ bound machine last fault, run bound machine = some (.error (.fault fault), last) →
      ∃ completed before, completed < bound ∧
        runFor completed machine = (.ok .running, before) ∧
        before.step = (.error (.fault fault), last) ∧
        last = { before with halted := true }) := by
  refine ⟨fun machine after fault faulted => step_fault faulted,
    fun steps machine last fault ran => ?_, fun bound machine last fault ran => ?_⟩
  · obtain ⟨completed, before, fewer, reached, faulted⟩ :=
      exists_completed_of_runFor_fault ran
    exact ⟨completed, before, fewer, reached, faulted, step_fault faulted⟩
  · obtain ⟨completed, before, fewer, reached, faulted⟩ :=
      exists_completed_of_runFor_fault (runFor_of_runCounting_error ran)
    exact ⟨completed, before, fewer, reached, faulted, step_fault faulted⟩

/-- A program that jumps behind its own end and faults there. -/
theorem fault_only_halts_behind_end :
    let code : Code := ⟨#[Instruction.pack ⟨Opcode.jumpImmediate.code, 5⟩], by decide⟩
    let machine : Machine := { fresh with code }
    let fault : Fault := .invalidCodeAccess (.outOfBounds 5 1)
    let last := (machine.withProgramCounter 5).halt
    step (machine.withProgramCounter 5) = (.error (.fault fault), last) ∧
      last = { machine.withProgramCounter 5 with halted := true } ∧
      runFor 3 machine = (.error (.fault fault), last) ∧
      (∃ completed before, completed < 3 ∧
        runFor completed machine = (.ok .running, before) ∧
        before.step = (.error (.fault fault), last) ∧
        last = { before with halted := true }) ∧
      run 3 machine = some (.error (.fault fault), last) ∧
      (∃ completed before, completed < 3 ∧
        runFor completed machine = (.ok .running, before) ∧
        before.step = (.error (.fault fault), last) ∧
        last = { before with halted := true }) ∧
      last.registers.programCounter = 5 := by
  intro code machine fault last
  have jumped : machine.step = (.ok .running, machine.withProgramCounter 5) := by
    have performs : Opcode.jumpImmediate.action = .perform .jump := rfl
    have fetched : machine.code.fetch machine.registers.programCounter =
        .ok ⟨Opcode.jumpImmediate.code, 5⟩ := by decide +kernel
    have carriedOut := execute_of_perform performs machine 5
    rw [execute, ← executeCurrent_of_fetch fetched] at carriedOut
    rw [step_of_not_halted rfl, carriedOut]
    rfl
  have faulted : (machine.withProgramCounter 5).step = (.error (.fault fault), last) := rfl
  have limited : runFor 3 machine = (.error (.fault fault), last) := by
    rw [runFor_succ_of_running jumped, runFor_succ_of_error faulted]
  have unlimited : run 3 machine = some (.error (.fault fault), last) := by
    simp only [run, runCounting, jumped, faulted]
  exact ⟨faulted, fault_only_halts.1 _ last fault faulted, limited,
    fault_only_halts.2.1 3 machine last fault limited, unlimited,
    fault_only_halts.2.2 3 machine last fault unlimited, rfl⟩

end Machine
end AccumulatorMachine
