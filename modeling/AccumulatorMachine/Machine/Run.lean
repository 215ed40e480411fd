import AccumulatorMachine.Machine.Step

/-!
# Runs

A run repeats steps.  `runFor` stops after a number of steps, `run` only when
the machine does, and `resume` also at a watched program counter.  As the last
two need not end, they take a bound on the number of steps and answer nothing
when the bound is reached first; a larger bound never changes an answer.
-/

namespace AccumulatorMachine
namespace Machine

/-- Step a number of times, or until a step does not leave the machine
running. -/
def runFor : Nat → Machine → Except StepError Status × Machine
  | 0, machine => (.ok .running, machine)
  | steps + 1, machine =>
      match machine.step with
      | (.ok .running, next) => runFor steps next
      | stopped => stopped

/-- Step until a step does not leave the machine running or leaves the program
counter at a watched place. -/
def resume (watched : Word → Bool) :
    Nat → Machine → Option (Except StepError Status × Machine)
  | 0, _ => none
  | bound + 1, machine =>
      match machine.step with
      | (.ok .running, next) =>
          if watched next.registers.programCounter then
            some (.ok .running, next)
          else
            resume watched bound next
      | stopped => some stopped

/-- Step until the machine stops, counting the instructions carried out after
the first `count`. -/
def runCounting : Nat → Nat → Machine → Option (Except StepError Nat × Machine)
  | 0, _, _ => none
  | bound + 1, count, machine =>
      match machine.step with
      | (.ok .running, next) => runCounting bound (count + 1) next
      | (.ok .halted, next) => some (.ok (count + 1), next)
      | (.error error, next) => some (.error error, next)

/-- Step until the machine stops.  A machine that halts answers the number of
its instructions, the last one included. -/
def run (bound : Nat) (machine : Machine) : Option (Except StepError Nat × Machine) :=
  runCounting bound 0 machine

@[simp] theorem runFor_zero (machine : Machine) :
    runFor 0 machine = (.ok .running, machine) := rfl

theorem runFor_succ_of_running {machine next : Machine}
    (stepped : machine.step = (.ok .running, next))
    (steps : Nat) :
    runFor (steps + 1) machine = runFor steps next := by
  rw [runFor, stepped]

theorem runFor_succ_of_error {machine last : Machine} {error : StepError}
    (stepped : machine.step = (.error error, last))
    (steps : Nat) :
    runFor (steps + 1) machine = (.error error, last) := by
  rw [runFor, stepped]

theorem runFor_succ_of_halted {machine last : Machine}
    (stepped : machine.step = (.ok .halted, last))
    (steps : Nat) :
    runFor (steps + 1) machine = (.ok .halted, last) := by
  rw [runFor, stepped]

@[simp] theorem resume_zero (watched : Word → Bool) (machine : Machine) :
    resume watched 0 machine = none := rfl

@[simp] theorem runCounting_zero (count : Nat) (machine : Machine) :
    runCounting 0 count machine = none := rfl

end Machine
end AccumulatorMachine
