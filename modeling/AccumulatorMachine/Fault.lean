import AccumulatorMachine.Code
import AccumulatorMachine.Interval
import AccumulatorMachine.Memory

/-!
# Faults

What can go wrong while an instruction is executed.  An error may have a cause
of its own; `causes` lists the wordings of all causes, the nearest first.
-/

namespace AccumulatorMachine

/-- Reasons to refuse a block copy. -/
inductive CopyRefusal
  | negativeLength (length : Word)
  | corruptsDescriptor (descriptor : Word) (source target : Interval)
  | outOfBounds (source target : Interval)
  deriving DecidableEq, Repr

/-- The wording of a refusal. -/
def CopyRefusal.message : CopyRefusal → String
  | .negativeLength length => "negative copy length " ++ Decimal.ofWord length
  | .corruptsDescriptor descriptor source target =>
      "copying " ++ source.text ++ " to " ++ target.text ++
        " would overwrite its descriptor at " ++ Decimal.ofWord descriptor
  | .outOfBounds source target =>
      "copying " ++ source.text ++ " to " ++ target.text ++ " goes outside of data memory"

/-- Faults of an instruction. -/
inductive Fault
  | divisionByZero
  | invalidInstruction (opcode : Word)
  | illegalCopy (refusal : CopyRefusal)
  | invalidMemoryAccess (error : Memory.InvalidAddress)
  | invalidCodeAccess (refusal : Code.Refusal)
  deriving DecidableEq, Repr

namespace Fault

/-- The wording of a fault. -/
def message : Fault → String
  | divisionByZero => "division by zero"
  | invalidInstruction opcode => "invalid instruction " ++ opcode.bitsText
  | illegalCopy refusal => "illegal copy: " ++ refusal.message
  | invalidMemoryAccess error => "invalid memory access (" ++ error.message ++ ")"
  | invalidCodeAccess refusal => "invalid code access (" ++ refusal.message ++ ")"

/-- The wordings of what caused a fault. -/
def causes : Fault → List String
  | divisionByZero => []
  | invalidInstruction _ => []
  | illegalCopy refusal => [refusal.message]
  | invalidMemoryAccess error => [error.message]
  | invalidCodeAccess refusal => [refusal.message]

end Fault

/-- Why a step does not succeed: it met a fault, or the machine was halted
before it. -/
inductive StepError
  | fault (cause : Fault)
  | halted
  deriving DecidableEq, Repr

namespace StepError

/-- The wording of the error. -/
def message : StepError → String
  | .fault cause => "CPU exception: " ++ cause.message
  | .halted => "machine is halted"

/-- The wordings of what caused the error. -/
def causes : StepError → List String
  | .fault cause => cause.message :: cause.causes
  | .halted => []

end StepError
end AccumulatorMachine
