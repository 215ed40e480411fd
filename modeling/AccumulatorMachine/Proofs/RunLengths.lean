import AccumulatorMachine.Proofs.FaultAtomicity

/-!
# Lengths of runs

All runs of a machine take the same steps, and at most one of these is the first
that does not leave the machine running.  Its number decides what a run answers:
a limit below it leaves the machine running, any other limit ends with its
result, and a run without a limit returns that number or that error, or, when
there is no such step, not at all.
-/

namespace AccumulatorMachine
namespace Machine

/-- The first step that does not leave the machine running has a given number,
counted from one; its result, and the machine after it. -/
inductive StopsAt : Machine → Nat → Except StepError Status → Machine → Prop
  | now {machine last : Machine} {result : Except StepError Status} :
      machine.step = (result, last) → result ≠ .ok .running →
        StopsAt machine 1 result last
  | later {machine next last : Machine} {number : Nat} {result : Except StepError Status} :
      machine.step = (.ok .running, next) → StopsAt next number result last →
        StopsAt machine (number + 1) result last

/-- A run without a limit returns an answer and leaves a machine. -/
def Returns (machine : Machine) (answer : Except StepError Nat) (last : Machine) : Prop :=
  ∃ bound, run bound machine = some (answer, last)

/-! ## The step that ends a run -/

theorem halted_ne_running :
    (Except.ok .halted : Except StepError Status) ≠ .ok .running := by
  intro same
  cases same

theorem error_ne_running (error : StepError) :
    (Except.error error : Except StepError Status) ≠ .ok .running := by
  intro same
  cases same

/-- A step leaves the machine running or ends a run. -/
theorem step_cases (machine : Machine) :
    (∃ next, machine.step = (.ok .running, next)) ∨
      ∃ result last, machine.step = (result, last) ∧ result ≠ .ok .running := by
  rcases stepped : machine.step with ⟨result, last⟩
  by_cases goesOn : result = .ok .running
  · rw [goesOn]
    exact Or.inl ⟨last, rfl⟩
  · exact Or.inr ⟨result, last, rfl, goesOn⟩

theorem StopsAt.pos {machine last : Machine} {number : Nat}
    {result : Except StepError Status}
    (stops : StopsAt machine number result last) :
    1 ≤ number := by
  cases stops with
  | now stepped stopped => exact Nat.le_refl 1
  | later stepped stops => exact Nat.le_add_left 1 _

theorem StopsAt.ne_running {machine last : Machine} {number : Nat}
    {result : Except StepError Status}
    (stops : StopsAt machine number result last) :
    result ≠ .ok .running := by
  induction stops with
  | now stepped stopped => exact stopped
  | later stepped stops inductionHypothesis => exact inductionHypothesis

theorem stopsAt_iff_of_running {machine next : Machine}
    (stepped : machine.step = (.ok .running, next))
    (number : Nat)
    (result : Except StepError Status)
    (last : Machine) :
    StopsAt machine number result last ↔
      ∃ previous, number = previous + 1 ∧ StopsAt next previous result last := by
  constructor
  · intro stops
    cases stops with
    | now stoppedStep stopped =>
        rw [stepped, Prod.mk.injEq] at stoppedStep
        exact absurd stoppedStep.1.symm stopped
    | later runningStep stops =>
        rw [stepped, Prod.mk.injEq] at runningStep
        exact ⟨_, rfl, runningStep.2 ▸ stops⟩
  · rintro ⟨previous, rfl, stops⟩
    exact .later stepped stops

theorem stopsAt_iff_of_stopped {machine stoppedMachine : Machine}
    {stoppedResult : Except StepError Status}
    (stepped : machine.step = (stoppedResult, stoppedMachine))
    (stopped : stoppedResult ≠ .ok .running)
    (number : Nat)
    (result : Except StepError Status)
    (last : Machine) :
    StopsAt machine number result last ↔
      number = 1 ∧ result = stoppedResult ∧ last = stoppedMachine := by
  constructor
  · intro stops
    cases stops with
    | now sameStep _ =>
        rw [stepped, Prod.mk.injEq] at sameStep
        exact ⟨rfl, sameStep.1.symm, sameStep.2.symm⟩
    | later runningStep _ =>
        rw [stepped, Prod.mk.injEq] at runningStep
        exact absurd runningStep.1 stopped
  · rintro ⟨rfl, rfl, rfl⟩
    exact .now stepped stopped

/-- A step whose instruction performs an operation. -/
theorem step_of_perform {machine : Machine} (opcode : Opcode) (argument : Word)
    {operation : Operation}
    (active : machine.halted = false)
    (fetched : machine.code.fetch machine.registers.programCounter =
      .ok ⟨opcode.code, argument⟩)
    (performs : opcode.action = .perform operation) :
    machine.step = conclude (operation.apply argument machine) := by
  rw [step_of_not_halted active, executeCurrent_of_fetch fetched,
    ← execute_of_perform performs]
  rfl

/-! ## Runs with a limit -/

theorem runFor_succ_of_stopped {machine last : Machine} {result : Except StepError Status}
    (stepped : machine.step = (result, last))
    (stopped : result ≠ .ok .running)
    (steps : Nat) :
    runFor (steps + 1) machine = (result, last) := by
  match result with
  | .error error => exact runFor_succ_of_error stepped steps
  | .ok .halted => exact runFor_succ_of_halted stepped steps
  | .ok .running => exact absurd rfl stopped

/-- A limit that the last step keeps does not matter. -/
theorem StopsAt.runFor_eq {machine last : Machine} {number : Nat}
    {result : Except StepError Status}
    (stops : StopsAt machine number result last)
    {steps : Nat}
    (reaches : number ≤ steps) :
    runFor steps machine = (result, last) := by
  induction stops generalizing steps with
  | now stepped stopped =>
      obtain ⟨others, rfl⟩ := Nat.exists_eq_add_of_le' reaches
      exact runFor_succ_of_stopped stepped stopped others
  | later stepped stops inductionHypothesis =>
      obtain ⟨others, rfl⟩ := Nat.exists_eq_add_of_le' (Nat.le_of_add_left_le reaches)
      rw [runFor_succ_of_running stepped]
      exact inductionHypothesis (Nat.le_of_succ_le_succ reaches)

/-- A limit below the last step leaves the machine running. -/
theorem StopsAt.runFor_running {machine last : Machine} {number : Nat}
    {result : Except StepError Status}
    (stops : StopsAt machine number result last)
    {steps : Nat}
    (fewer : steps < number) :
    (runFor steps machine).1 = .ok .running := by
  induction stops generalizing steps with
  | now stepped stopped =>
      rw [Nat.lt_one_iff.mp fewer, runFor_zero]
  | later stepped stops inductionHypothesis =>
      cases steps with
      | zero => rw [runFor_zero]
      | succ steps =>
          rw [runFor_succ_of_running stepped]
          exact inductionHypothesis (Nat.lt_of_succ_lt_succ fewer)

/-- A run that stops within its limit ends with the step that ends all runs. -/
theorem exists_stopsAt_of_runFor {steps : Nat} {machine last : Machine}
    {result : Except StepError Status}
    (ran : runFor steps machine = (result, last))
    (stopped : result ≠ .ok .running) :
    ∃ number, number ≤ steps ∧ StopsAt machine number result last := by
  induction steps generalizing machine with
  | zero =>
      rw [runFor_zero, Prod.mk.injEq] at ran
      exact absurd ran.1.symm stopped
  | succ steps inductionHypothesis =>
      rcases machine.step_cases with ⟨next, stepped⟩ | ⟨outcome, next, stepped, ends⟩
      · rw [runFor_succ_of_running stepped] at ran
        obtain ⟨number, within, stops⟩ := inductionHypothesis ran
        exact ⟨number + 1, Nat.succ_le_succ within, .later stepped stops⟩
      · rw [runFor_succ_of_stopped stepped ends, Prod.mk.injEq] at ran
        obtain ⟨rfl, rfl⟩ := ran
        exact ⟨1, Nat.le_add_left 1 steps, .now stepped ends⟩

/-- The limits of two runs, one after the other, add up. -/
theorem runFor_add (first second : Nat) (machine : Machine) :
    runFor (first + second) machine =
      match runFor first machine with
      | (.ok .running, middle) => runFor second middle
      | stopped => stopped := by
  induction first generalizing machine with
  | zero => rw [Nat.zero_add, runFor_zero]
  | succ first inductionHypothesis =>
      rw [Nat.add_right_comm]
      rcases machine.step_cases with ⟨next, stepped⟩ | ⟨outcome, next, stepped, ends⟩
      · rw [runFor_succ_of_running stepped, runFor_succ_of_running stepped]
        exact inductionHypothesis next
      · rw [runFor_succ_of_stopped stepped ends, runFor_succ_of_stopped stepped ends]
        split
        · rename_i stopped
          exact absurd (Prod.mk.inj stopped).1 ends
        · rfl

/-! ## Runs without a limit -/

theorem runCounting_succ_of_running {machine next : Machine}
    (stepped : machine.step = (.ok .running, next))
    (bound count : Nat) :
    runCounting (bound + 1) count machine = runCounting bound (count + 1) next := by
  rw [runCounting, stepped]

theorem runCounting_succ_of_stopped {machine last : Machine}
    {result : Except StepError Status}
    (stepped : machine.step = (result, last))
    (stopped : result ≠ .ok .running)
    (bound count : Nat) :
    runCounting (bound + 1) count machine =
      some (result.map fun _ => count + 1, last) := by
  rw [runCounting, stepped]
  cases result with
  | error error => rfl
  | ok status =>
      cases status with
      | running => exact absurd rfl stopped
      | halted => rfl

/-- A run without a limit counts its steps up to the one that ends it. -/
theorem runCounting_eq_some_iff (bound count : Nat) (machine last : Machine)
    (answer : Except StepError Nat) :
    runCounting bound count machine = some (answer, last) ↔
      ∃ number result, number ≤ bound ∧ StopsAt machine number result last ∧
        answer = result.map fun _ => count + number := by
  induction bound generalizing count machine with
  | zero =>
      apply iff_of_false
      · rw [runCounting_zero]
        exact (Option.some_ne_none _).symm
      · rintro ⟨number, result, within, stops, -⟩
        exact absurd (Nat.le_trans stops.pos within) (Nat.not_succ_le_zero 0)
  | succ bound inductionHypothesis =>
      rcases machine.step_cases with ⟨next, stepped⟩ | ⟨outcome, next, stepped, ends⟩
      · simp only [runCounting_succ_of_running stepped, inductionHypothesis,
          stopsAt_iff_of_running stepped]
        constructor
        · rintro ⟨number, result, within, stops, rfl⟩
          refine ⟨number + 1, result, Nat.succ_le_succ within, ⟨number, rfl, stops⟩, ?_⟩
          rw [Nat.add_assoc, Nat.add_comm 1 number]
        · rintro ⟨_, result, within, ⟨number, rfl, stops⟩, rfl⟩
          refine ⟨number, result, Nat.le_of_succ_le_succ within, stops, ?_⟩
          rw [Nat.add_assoc, Nat.add_comm 1 number]
      · simp only [runCounting_succ_of_stopped stepped ends,
          stopsAt_iff_of_stopped stepped ends, Option.some.injEq, Prod.mk.injEq]
        constructor
        · rintro ⟨rfl, rfl⟩
          exact ⟨1, outcome, Nat.le_add_left 1 bound, ⟨rfl, rfl, rfl⟩, rfl⟩
        · rintro ⟨_, _, -, ⟨rfl, rfl, rfl⟩, rfl⟩
          exact ⟨rfl, rfl⟩

/-- A run without a limit returns what the step that ends it leaves. -/
theorem returns_iff (machine last : Machine) (answer : Except StepError Nat) :
    Returns machine answer last ↔
      ∃ number result, StopsAt machine number result last ∧
        answer = result.map fun _ => number := by
  simp only [Returns, run, runCounting_eq_some_iff, Nat.zero_add]
  constructor
  · rintro ⟨bound, number, result, -, stops, counted⟩
    exact ⟨number, result, stops, counted⟩
  · rintro ⟨number, result, stops, counted⟩
    exact ⟨number, number, result, Nat.le_refl number, stops, counted⟩

theorem returns_ok_iff (machine last : Machine) (count : Nat) :
    Returns machine (.ok count) last ↔ StopsAt machine count (.ok .halted) last := by
  rw [returns_iff]
  constructor
  · rintro ⟨number, result, stops, counted⟩
    match result with
    | .ok .halted =>
        rw [Except.ok.inj counted]
        exact stops
    | .ok .running => exact absurd rfl stops.ne_running
  · intro stops
    exact ⟨count, .ok .halted, stops, rfl⟩

theorem returns_error_iff (machine last : Machine) (error : StepError) :
    Returns machine (.error error) last ↔
      ∃ number, StopsAt machine number (.error error) last := by
  rw [returns_iff]
  constructor
  · rintro ⟨number, result, stops, counted⟩
    match result with
    | .error cause =>
        rw [Except.error.inj counted]
        exact ⟨number, stops⟩
  · rintro ⟨number, stops⟩
    exact ⟨number, .error error, stops, rfl⟩

/-! ## Runs compared -/

/-- Limits add up.  A run without a limit returns a number of steps exactly when
that is the least limit with which a run halts, and an error exactly when a run
with some limit ends in it, and leaves the same machine as that run.  It does
not return exactly when all limits leave the machine running. -/
theorem runs_agree (machine : Machine) :
    (∀ first second,
      runFor (first + second) machine =
        match runFor first machine with
        | (.ok .running, middle) => runFor second middle
        | stopped => stopped) ∧
    (∀ count last,
      Returns machine (.ok count) last ↔
        1 ≤ count ∧ runFor count machine = (.ok .halted, last) ∧
          ∀ fewer, fewer < count → (runFor fewer machine).1 ≠ .ok .halted) ∧
    (∀ error last,
      Returns machine (.error error) last ↔
        ∃ steps, runFor steps machine = (.error error, last)) ∧
    ((∀ answer last, ¬Returns machine answer last) ↔
      ∀ steps, (runFor steps machine).1 = .ok .running) := by
  refine ⟨fun first second => runFor_add first second machine,
    fun count last => ?_, fun error last => ?_, ?_⟩
  · rw [returns_ok_iff]
    constructor
    · intro stops
      refine ⟨stops.pos, stops.runFor_eq (Nat.le_refl count), fun fewer less halted => ?_⟩
      rw [stops.runFor_running less] at halted
      cases halted
    · -- The step that ends all runs is not before the least limit, and by the limit it
      -- has come, so it is that step.
      rintro ⟨-, halted, least⟩
      obtain ⟨number, within, stops⟩ := exists_stopsAt_of_runFor halted halted_ne_running
      have notFewer : ¬number < count := by
        intro less
        apply least number less
        rw [stops.runFor_eq (Nat.le_refl number)]
      rwa [Nat.le_antisymm within (Nat.not_lt.mp notFewer)] at stops
  · rw [returns_error_iff]
    constructor
    · rintro ⟨number, stops⟩
      exact ⟨number, stops.runFor_eq (Nat.le_refl number)⟩
    · rintro ⟨steps, failed⟩
      obtain ⟨number, -, stops⟩ := exists_stopsAt_of_runFor failed (error_ne_running error)
      exact ⟨number, stops⟩
  · constructor
    · intro endless steps
      by_contra stopped
      obtain ⟨number, -, stops⟩ := exists_stopsAt_of_runFor (Prod.ext rfl rfl) stopped
      exact endless _ _ ((returns_iff machine _ _).mpr ⟨number, _, stops, rfl⟩)
    · intro running answer last returned
      obtain ⟨number, result, stops, -⟩ := (returns_iff machine last answer).mp returned
      apply stops.ne_running
      rw [← running number, stops.runFor_eq (Nat.le_refl number)]

/-- A program that halts with its second instruction, and one that jumps to
itself. -/
theorem runs_agree_halting_looping :
    let halting : Machine := { fresh with
      code := ⟨#[Instruction.pack ⟨Opcode.noOperation.code, 0⟩,
        Instruction.pack ⟨Opcode.halt.code, 0⟩], by decide⟩ }
    let looping : Machine := { fresh with
      code := ⟨#[Instruction.pack ⟨Opcode.jumpImmediate.code, 0⟩], by decide⟩ }
    Returns halting (.ok 2) halting.advance.halt ∧
      ∀ answer last, ¬Returns looping answer last := by
  intro halting looping
  have first : halting.step = (.ok .running, halting.advance) :=
    step_of_perform .noOperation 0 rfl (by decide +kernel) rfl
  have second : halting.advance.step = (.ok .halted, halting.advance.halt) :=
    step_of_perform .halt 0 rfl (by decide +kernel) rfl
  have again : looping.step = (.ok .running, looping) :=
    step_of_perform .jumpImmediate 0 rfl (by decide +kernel) rfl
  constructor
  · refine ((runs_agree halting).2.1 2 halting.advance.halt).mpr ⟨by decide, ?_, ?_⟩
    · rw [runFor_succ_of_running first, runFor_succ_of_halted second]
    · intro fewer less
      obtain rfl | rfl : fewer = 0 ∨ fewer = 1 := by omega
      · rw [runFor_zero]
        exact halted_ne_running.symm
      · rw [runFor_succ_of_running first, runFor_zero]
        exact halted_ne_running.symm
  · apply (runs_agree looping).2.2.2.mpr
    intro steps
    induction steps with
    | zero => rw [runFor_zero]
    | succ steps inductionHypothesis =>
        rw [runFor_succ_of_running again]
        exact inductionHypothesis

end Machine
end AccumulatorMachine
