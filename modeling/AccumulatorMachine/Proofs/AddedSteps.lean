import AccumulatorMachine.Proofs.AlikeMachines
import AccumulatorMachine.Proofs.DecimalNumerals
import AccumulatorMachine.Proofs.SessionFrames
import AccumulatorMachine.Proofs.TruthfulAnswers
import AccumulatorMachine.Proofs.WrittenCommands

/-!
# Added steps

A halted machine stays as it is when it is asked for a step, so a run with a limit leaves
the machine that as many steps leave, whatever these answer, and limits add up.  A
session that steps twice then is where it would be after stepping once for both counts,
also when the first count already halted the machine.
-/

namespace AccumulatorMachine
namespace Machine

theorem afterSteps_add (first second : Nat) (machine : Machine) :
    machine.afterSteps (first + second) = (machine.afterSteps first).afterSteps second := by
  induction first generalizing machine with
  | zero => rw [Nat.zero_add, afterSteps]
  | succ first inductionHypothesis =>
      rw [Nat.add_right_comm, afterSteps, afterSteps, inductionHypothesis]

theorem afterSteps_of_halted {machine : Machine} (halted : machine.halted = true)
    (steps : Nat) :
    machine.afterSteps steps = machine := by
  induction steps with
  | zero => rfl
  | succ steps inductionHypothesis => rw [afterSteps, step_of_halted halted, inductionHypothesis]

/-- A run with a limit leaves the machine that so many steps leave: it ends early only
with a halted machine, which further steps do not change. -/
theorem machine_runFor (steps : Nat) (machine : Machine) :
    (runFor steps machine).2 = machine.afterSteps steps := by
  induction steps generalizing machine with
  | zero => rfl
  | succ steps inductionHypothesis =>
      rcases machine.step_cases with ⟨next, stepped⟩ | ⟨result, last, stepped, stopped⟩
      · rw [runFor_succ_of_running stepped, afterSteps, stepped, inductionHypothesis]
      · have halted : last.halted = true := (halted_of_step stepped).mpr stopped
        rw [runFor_succ_of_stopped stepped stopped, afterSteps, stepped,
          afterSteps_of_halted halted]

end Machine

namespace Session

/-- The line that asks for a number of steps. -/
def stepLine (count : Nat) : Text :=
  Text.spaced ["step".toList, (Nat.repr count).toList]

theorem arePlainWords_repr (count : Nat) : Text.ArePlainWords [(Nat.repr count).toList] := by
  rw [Text.ArePlainWords, List.forall_mem_singleton]
  constructor
  · rw [Nat.toList_repr]
    exact Nat.toDigits_ne_nil
  · intro c member special
    have noDigit : Text.specials.all (fun special => !special.isDigit) = true := by decide
    have notDigit := List.all_eq_true.mp noDigit c special
    rw [Decimal.isDigit_of_mem_repr member] at notDigit
    cases notDigit

theorem readInput_stepLine {count : Nat} (fits : count < UInt64.size) :
    readInput (stepLine count) = .command (.step count) := by
  have number : NumberForm.count.read (Nat.repr count).toList = .ok (.count count) := by
    simp only [NumberForm.read, Decimal.readCount_repr fits]
  have unlikeFlag : (Nat.repr count).toList.head? ≠ some '-' := fun starts =>
    absurd (Decimal.isDigit_of_mem_repr (List.mem_of_mem_head? starts)) (by decide)
  have read : (Reading.start stepVerb).readWords [(Nat.repr count).toList] =
      .ok (.step count) :=
    Reading.readWords_of_reads (.cons number (fun _ => unlikeFlag) .nil) rfl rfl
      (Reading.holds_start stepVerb) rfl rfl
  rw [stepLine, readInput_spaced (by decide) rfl (arePlainWords_repr count), read]

/-- A session after a number of steps.  A halted machine is not stepped, and listing goes
on where it was. -/
def stepped (session : Session) (count : Nat) : Session :=
  if session.machine.halted then session
  else session.withRun (session.machine.afterSteps count)

section Steps

variable {conditions : Conditions} {session : Session} {count : Nat}

theorem stepped_of_halted (halted : session.machine.halted = true) :
    session.stepped count = session :=
  if_pos halted

theorem stepped_of_not_halted (active : session.machine.halted = false) :
    session.stepped count = session.withRun (session.machine.afterSteps count) := by
  rw [stepped, active, if_neg Bool.false_ne_true]

@[simp] theorem machine_stepped (session : Session) (count : Nat) :
    (session.stepped count).machine = session.machine.afterSteps count := by
  cases halted : session.machine.halted with
  | true => rw [stepped_of_halted halted, Machine.afterSteps_of_halted halted]
  | false =>
      rw [stepped_of_not_halted halted]
      rfl

theorem stepped_remember (session : Session) (command : Command) (count : Nat) :
    (session.remember command).stepped count = (session.stepped count).remember command := by
  cases halted : session.machine.halted with
  | true =>
      have same : (session.remember command).stepped count = session.remember command :=
        stepped_of_halted halted
      rw [same, stepped_of_halted halted]
  | false =>
      have same : (session.remember command).stepped count =
          (session.remember command).withRun (session.machine.afterSteps count) :=
        stepped_of_not_halted halted
      rw [same, stepped_of_not_halted halted]
      rfl

/-- Steps of a session add up.  When the first ones halted the machine, the others find
it halted and change nothing. -/
theorem stepped_add (session : Session) (first second : Nat) :
    (session.stepped first).stepped second = session.stepped (first + second) := by
  cases halted : session.machine.halted with
  | true => rw [stepped_of_halted halted, stepped_of_halted halted, stepped_of_halted halted]
  | false =>
      rw [stepped_of_not_halted halted, stepped_of_not_halted halted, Machine.afterSteps_add]
      cases halting : (session.machine.afterSteps first).halted with
      | true => rw [stepped_of_halted halting, Machine.afterSteps_of_halted halting]
      | false =>
          rw [stepped_of_not_halted halting]
          rfl

/-- The line is answered by stepping, or when the machine is halted by saying so. -/
theorem exists_enter_stepLine (conditions : Conditions) (session : Session)
    (fits : count < UInt64.size) :
    ∃ turn, session.enter conditions (stepLine count) = some turn ∧
      turn.session = (session.stepped count).remember (.step count) ∧
      turn.isOver = false ∧
      (session.machine.halted = true →
        turn.events = [.executing (.step count), .haltedBefore]) := by
  rw [enter_of_readInput conditions session (readInput_stepLine fits), perform,
    ← stepped_remember]
  cases halted : session.machine.halted with
  | true =>
      have refused : (session.remember (.step count)).execute conditions (.step count) =
          some ((session.remember (.step count)).tell [.haltedBefore]) :=
        execute_of_halted rfl halted
      have unchanged : (session.remember (.step count)).stepped count =
          session.remember (.step count) :=
        stepped_of_halted halted
      rw [refused, unchanged]
      exact ⟨_, rfl, rfl, rfl, fun _ => rfl⟩
  | false =>
      have active : (session.remember (.step count)).execute conditions (.step count) =
          some ((session.remember (.step count)).step conditions count) :=
        if_neg (by
          rw [Bool.not_eq_true]
          exact halted)
      have moved : (session.remember (.step count)).stepped count =
          (session.remember (.step count)).withRun (session.machine.runFor count).2 := by
        rw [Machine.machine_runFor]
        exact stepped_of_not_halted halted
      rw [active, moved, step_eq]
      exact ⟨_, rfl, rfl, rfl, fun contrary => absurd contrary Bool.false_ne_true⟩

end Steps

/-- Stepping twice leaves the machine, the breakpoints and the place in the listing that
stepping once for both counts leaves, whether or not the machine halts on the way or is
halted before, and the machine is the one that a run with both limits leaves.  When a
step halts the machine, no instruction is executed after it, and a command that comes
after it is refused. -/
theorem steps_add (conditions : Conditions) (session : Session) {first second : Nat}
    (within : first + second < UInt64.size) :
    ∃ one two both,
      session.turns conditions [stepLine first, stepLine second] = some [one, two] ∧
      session.turns conditions [stepLine (first + second)] = some [both] ∧
      two.session.machine = both.session.machine ∧
      two.session.breakpoints = both.session.breakpoints ∧
      two.session.listPosition = both.session.listPosition ∧
      both.session.machine = (session.machine.runFor (first + second)).2 ∧
      ∀ number result last, session.machine.StopsAt number result last →
        (number ≤ first + second → two.session.machine = last) ∧
        (number ≤ first →
          one.session.machine = last ∧
            two.events = [.executing (.step second), .haltedBefore]) := by
  obtain ⟨one, enteredOne, afterOne, oneGoesOn, -⟩ :=
    session.exists_enter_stepLine conditions (by omega : first < UInt64.size)
  obtain ⟨two, enteredTwo, afterTwo, twoGoesOn, twoRefused⟩ :=
    one.session.exists_enter_stepLine conditions (by omega : second < UInt64.size)
  obtain ⟨both, enteredBoth, afterBoth, bothGoesOn, -⟩ :=
    session.exists_enter_stepLine conditions within
  have leftByTwo : two.session = both.session.remember (.step second) := by
    rw [afterTwo, afterOne, stepped_remember, stepped_add, afterBoth]
    rfl
  have machineOne : one.session.machine = (session.machine.runFor first).2 := by
    rw [afterOne, Machine.machine_runFor]
    exact session.machine_stepped first
  have machineBoth : both.session.machine = (session.machine.runFor (first + second)).2 := by
    rw [afterBoth, Machine.machine_runFor]
    exact session.machine_stepped (first + second)
  have machineTwo : two.session.machine = both.session.machine := by
    rw [leftByTwo]
    rfl
  refine ⟨one, two, both, ?_, ?_, machineTwo, by rw [leftByTwo]; rfl, by rw [leftByTwo]; rfl,
    machineBoth, fun number result last stops => ⟨fun reached => ?_, fun reached => ?_⟩⟩
  · simp [turns, enteredOne, oneGoesOn, enteredTwo]
  · simp [turns, enteredBoth]
  · rw [machineTwo, machineBoth, stops.runFor_eq reached]
  · have isLast : one.session.machine = last := by
      rw [machineOne, stops.runFor_eq reached]
    refine ⟨isLast, twoRefused ?_⟩
    rw [isLast]
    exact stops.halted

/-- A program that halts with its second step is stepped three times and then twice. -/
theorem steps_add_halting :
    let conditions : Conditions := ⟨⟨"a", []⟩, .normal, 0⟩
    let machine : Machine := { Machine.fresh with
      code := ⟨#[Instruction.pack ⟨Opcode.noOperation.code, 0⟩,
        Instruction.pack ⟨Opcode.halt.code, 0⟩], by decide⟩ }
    3 + 2 < UInt64.size ∧
    ∃ one two both,
      (start machine).turns conditions ["step 3".toList, "step 2".toList] = some [one, two] ∧
      (start machine).turns conditions ["step 5".toList] = some [both] ∧
      both.session.machine = machine.advance.halt ∧
      two.session.machine = machine.advance.halt ∧
      two.events = [.executing (.step 2), .haltedBefore] := by
  intro conditions machine
  have within : 3 + 2 < UInt64.size := by decide
  have firstStep : machine.step = (.ok .running, machine.advance) :=
    Machine.step_of_perform .noOperation 0 rfl (by decide +kernel) rfl
  have secondStep : machine.advance.step = (.ok .halted, machine.advance.halt) :=
    Machine.step_of_perform .halt 0 rfl (by decide +kernel) rfl
  have stops : machine.StopsAt 2 (.ok .halted) machine.advance.halt :=
    .later firstStep (.now secondStep Machine.halted_ne_running)
  obtain ⟨one, two, both, answered, answeredBoth, same, -, -, -, ends⟩ :=
    steps_add conditions (start machine) within
  obtain ⟨reached, refused⟩ := ends 2 _ _ stops
  have last := reached (by decide)
  exact ⟨within, one, two, both, answered, answeredBoth, same ▸ last, last,
    (refused (by decide)).2⟩

end Session
end AccumulatorMachine
