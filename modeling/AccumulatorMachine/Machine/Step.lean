import AccumulatorMachine.Machine.Operation

/-!
# Steps

A step fetches the instruction at the program counter and carries it out.  A
fault and the instruction `HALT` leave the machine halted; a halted machine
refuses to step.
-/

namespace AccumulatorMachine
namespace Machine

/-- The number of look-ups that an opcode number can still lead to. -/
def remainingLookUps (code : Word) : Nat :=
  ((Opcode.ofCode? code).map Opcode.indirection).getD 0

theorem remainingLookUps_lt {code : Word} {next : Opcode}
    (handsOver : Action.lookUp code = some (.dereference next)) :
    remainingLookUps next.code < remainingLookUps code := by
  rw [Action.lookUp_eq_map, Option.map_eq_some_iff] at handsOver
  obtain ⟨opcode, known, action⟩ := handsOver
  simpa [remainingLookUps, known] using Opcode.indirection_lt_of_dereference action

/-- Carry out an instruction, whose opcode may be any number: its result, and
the machine as far as it was changed. -/
def dispatch (machine : Machine) (instruction : Instruction) :
    Except Fault Status × Machine :=
  match _entry : Action.lookUp instruction.opcode with
  | none => (.error (.invalidInstruction instruction.opcode), machine)
  | some (.perform operation) => operation.apply instruction.argument machine
  | some (.dereference next) =>
      match machine.memory.read instruction.argument with
      | .ok value => machine.dispatch ⟨next.code, value⟩
      | .error error => (.error (.invalidMemoryAccess error), machine)
  termination_by remainingLookUps instruction.opcode
  decreasing_by exact remainingLookUps_lt (by assumption)

/-- Carry out an opcode with a given argument. -/
def execute (machine : Machine) (opcode : Opcode) (argument : Word) :
    Except Fault Status × Machine :=
  machine.dispatch ⟨opcode.code, argument⟩

theorem dispatch_of_unknown {instruction : Instruction}
    (unknown : Opcode.ofCode? instruction.opcode = none) (machine : Machine) :
    machine.dispatch instruction =
      (.error (.invalidInstruction instruction.opcode), machine) := by
  have entry : Action.lookUp instruction.opcode = none := by
    rw [Action.lookUp_eq_map, unknown]
    rfl
  rw [dispatch]
  split <;> simp_all

theorem execute_of_perform {opcode : Opcode} {operation : Operation}
    (performs : opcode.action = .perform operation)
    (machine : Machine) (argument : Word) :
    machine.execute opcode argument = operation.apply argument machine := by
  have entry : Action.lookUp opcode.code = some (.perform operation) := by
    rw [Action.lookUp_eq_map, Opcode.ofCode?_code, Option.map_some, performs]
  rw [execute, dispatch]
  split <;> simp_all

theorem execute_of_dereference {opcode next : Opcode}
    (handsOver : opcode.action = .dereference next)
    (machine : Machine) (argument : Word) :
    machine.execute opcode argument =
      match machine.memory.read argument with
      | .ok value => machine.execute next value
      | .error error => (.error (.invalidMemoryAccess error), machine) := by
  have entry : Action.lookUp opcode.code = some (.dereference next) := by
    rw [Action.lookUp_eq_map, Opcode.ofCode?_code, Option.map_some, handsOver]
  rw [execute, dispatch]
  split <;> simp_all [execute]

theorem dispatch_of_known {instruction : Instruction} {opcode : Opcode}
    (known : Opcode.ofCode? instruction.opcode = some opcode) (machine : Machine) :
    machine.dispatch instruction = machine.execute opcode instruction.argument := by
  rw [execute, Opcode.ofCode?_eq_some_iff.mp known]

/-- Carry out the instruction at the program counter. -/
def executeCurrent (machine : Machine) : Except Fault Status × Machine :=
  match machine.code.fetch machine.registers.programCounter with
  | .ok instruction => machine.dispatch instruction
  | .error refusal => (.error (.invalidCodeAccess refusal), machine)

/-- The end of a step.  The machine is halted unless it can go on. -/
def conclude : Except Fault Status × Machine → Except StepError Status × Machine
  | (.ok .running, next) => (.ok .running, next)
  | (.ok .halted, next) => (.ok .halted, next.halt)
  | (.error fault, next) => (.error (.fault fault), next.halt)

/-- One step: its result and the machine it leaves. -/
def step (machine : Machine) : Except StepError Status × Machine :=
  if machine.halted then
    (.error .halted, machine)
  else
    conclude machine.executeCurrent

theorem executeCurrent_of_fetch {machine : Machine} {instruction : Instruction}
    (fetched : machine.code.fetch machine.registers.programCounter = .ok instruction) :
    machine.executeCurrent = machine.dispatch instruction := by
  rw [executeCurrent, fetched]

theorem executeCurrent_of_refusal {machine : Machine} {refusal : Code.Refusal}
    (refused : machine.code.fetch machine.registers.programCounter = .error refusal) :
    machine.executeCurrent = (.error (.invalidCodeAccess refusal), machine) := by
  rw [executeCurrent, refused]

theorem step_of_halted {machine : Machine} (halted : machine.halted = true) :
    machine.step = (.error .halted, machine) := by
  rw [step, if_pos halted]

/-- A machine that is not halted carries out its current instruction. -/
theorem step_of_not_halted {machine : Machine} (active : machine.halted = false) :
    machine.step = conclude machine.executeCurrent := by
  rw [step, if_neg (by rw [active]; exact Bool.false_ne_true)]

end Machine
end AccumulatorMachine
