import AccumulatorMachine.Proofs.HaltedMachines

/-!
# What answers say about the machine

The answer to a call for steps says whether the machine that the call leaves can
go on.  That is true of it, with one exception: a run with the limit zero looks
at nothing, and so it calls a halted machine running.
-/

namespace AccumulatorMachine

/-- What an answer says is true of a machine: one that is running takes a next
step, and with every other answer to a call for steps it is halted. -/
def Answer.IsTrueOf (machine : Machine) : Answer → Prop
  | .stepped (.ok .running) => machine.halted = false ∧ machine.step.1 ≠ .error .halted
  | .stepped _ | .counted _ => machine.halted = true
  | .pushed _ | .written _ | .loaded _ | .cleared => True

namespace Machine

/-! ## Runs -/

/-- Only a halted machine refuses to step. -/
theorem step_ne_refusal {machine : Machine} (active : machine.halted = false) :
    machine.step.1 ≠ .error .halted := by
  rw [step_of_not_halted active]
  rcases machine.executeCurrent with ⟨fault | _ | _, last⟩
  · intro same
    cases same
  · exact (error_ne_running .halted).symm
  · intro same
    cases same

/-- The step that ends all runs leaves the machine halted. -/
theorem StopsAt.halted {machine last : Machine} {number : Nat}
    {result : Except StepError Status}
    (stops : StopsAt machine number result last) :
    last.halted = true := by
  induction stops with
  | now stepped stopped => exact (halted_of_step stepped).mpr stopped
  | later _ _ inductionHypothesis => exact inductionHypothesis

/-- A run that uses up its limit leaves a machine that is not halted, unless it was
halted to begin with and the limit is zero. -/
theorem halted_of_runFor_running {machine last : Machine} {steps : Nat}
    (ran : runFor steps machine = (.ok .running, last)) :
    last.halted = true ↔ steps = 0 ∧ machine.halted = true := by
  induction steps generalizing machine with
  | zero =>
      cases ran
      exact (and_iff_right rfl).symm
  | succ steps inductionHypothesis =>
      rcases machine.step_cases with ⟨next, stepped⟩ | ⟨result, next, stepped, stopped⟩
      · rw [runFor_succ_of_running stepped] at ran
        -- The first step left the machine running, so no halted machine comes after it.
        have active : ¬next.halted = true := fun halted =>
          (halted_of_step stepped).mp halted rfl
        rw [inductionHypothesis ran]
        exact iff_of_false (fun both => active both.2) (fun both => Nat.succ_ne_zero _ both.1)
      · rw [runFor_succ_of_stopped stepped stopped, Prod.mk.injEq] at ran
        exact absurd ran.1 stopped

end Machine

namespace Call

variable {machine after : Machine} {answer : Answer}

theorem isTrueOf_of_step (responded : step.respond machine = some (answer, after)) :
    answer.IsTrueOf after := by
  rcases stepped : machine.step with ⟨result, next⟩
  have marked := Machine.halted_of_step stepped
  simp only [respond, stepped] at responded
  cases responded
  cases result with
  | error error => exact marked.mpr (Machine.error_ne_running error)
  | ok status =>
      cases status with
      | running =>
          have active : after.halted = false := by
            rw [← Bool.not_eq_true, marked, not_not]
          exact ⟨active, Machine.step_ne_refusal active⟩
      | halted => exact marked.mpr Machine.halted_ne_running

theorem isTrueOf_of_run {bound : Nat}
    (responded : (run bound).respond machine = some (answer, after)) :
    answer.IsTrueOf after := by
  obtain ⟨⟨count, last⟩, ran, same⟩ := Option.map_eq_some_iff.mp responded
  cases same
  obtain ⟨number, result, -, stops, -⟩ :=
    (Machine.runCounting_eq_some_iff bound 0 machine after count).mp ran
  exact stops.halted

/-- A run with a limit tells the truth unless it is asked of a halted machine with
the limit zero. -/
theorem isTrueOf_iff_of_runFor {steps : Nat}
    (responded : (runFor steps).respond machine = some (answer, after)) :
    answer.IsTrueOf after ↔ ¬(steps = 0 ∧ machine.halted = true) := by
  rcases ran : machine.runFor steps with ⟨result, last⟩
  simp only [respond, ran] at responded
  cases responded
  by_cases goesOn : result = .ok .running
  · subst goesOn
    rw [← Machine.halted_of_runFor_running ran, Bool.not_eq_true]
    exact ⟨And.left, fun active => ⟨active, Machine.step_ne_refusal active⟩⟩
  · obtain ⟨number, within, stops⟩ := Machine.exists_stopsAt_of_runFor ran goesOn
    have someSteps : ¬(steps = 0 ∧ machine.halted = true) := by
      rintro ⟨rfl, -⟩
      exact Nat.not_succ_le_zero 0 (Nat.le_trans stops.pos within)
    apply iff_of_true _ someSteps
    cases result with
    | error _ => exact stops.halted
    | ok status =>
        cases status with
        | running => exact absurd rfl goesOn
        | halted => exact stops.halted

/-- Whatever the machine and the call, the answer is true of the machine that the
call leaves, except for a run of a halted machine with the limit zero. -/
theorem answer_isTrueOf_iff {call : Call}
    (responded : call.respond machine = some (answer, after)) :
    answer.IsTrueOf after ↔ ¬(call = .runFor 0 ∧ machine.halted = true) := by
  have others (differs : call ≠ .runFor 0) (isTrue : answer.IsTrueOf after) :
      answer.IsTrueOf after ↔ ¬(call = .runFor 0 ∧ machine.halted = true) :=
    iff_of_true isTrue fun both => differs both.1
  cases call with
  | runFor steps => rw [isTrueOf_iff_of_runFor responded, runFor.injEq]
  | step => exact others (by simp) (isTrueOf_of_step responded)
  | run bound => exact others (by simp) (isTrueOf_of_run responded)
  | pushCode instruction =>
      apply others (by simp)
      simp only [respond] at responded
      split at responded <;> cases responded <;> trivial
  | setData address value =>
      apply others (by simp)
      simp only [respond] at responded
      split at responded <;> cases responded <;> trivial
  | load executable =>
      cases responded
      exact others (by simp) trivial
  | clear =>
      cases responded
      exact others (by simp) trivial

/-- A run that halts on its second step, and a run of a machine that is halted
already. -/
theorem answer_isTrueOf_iff_halting :
    let machine : Machine := { Machine.fresh with
      code := ⟨#[Instruction.pack ⟨Opcode.noOperation.code, 0⟩,
        Instruction.pack ⟨Opcode.halt.code, 0⟩], by decide⟩ }
    let last := machine.advance.halt
    (runFor 3).respond machine = some (.stepped (.ok .halted), last) ∧
    (Answer.stepped (.ok .halted)).IsTrueOf last ∧
    (runFor 3).respond last = some (.stepped (.error .halted), last) ∧
    (Answer.stepped (.error .halted)).IsTrueOf last := by
  intro machine last
  have first : machine.step = (.ok .running, machine.advance) :=
    Machine.step_of_perform .noOperation 0 rfl (by decide +kernel) rfl
  have second : machine.advance.step = (.ok .halted, last) :=
    Machine.step_of_perform .halt 0 rfl (by decide +kernel) rfl
  have halts : (runFor 3).respond machine = some (.stepped (.ok .halted), last) := by
    rw [respond, Machine.runFor_succ_of_running first, Machine.runFor_succ_of_halted second]
  have refuses : (runFor 3).respond last = some (.stepped (.error .halted), last) := by
    rw [respond, Machine.runFor_succ_of_error (Machine.step_of_halted rfl)]
  have someSteps : Call.runFor 3 ≠ .runFor 0 := by decide
  exact ⟨halts, (answer_isTrueOf_iff halts).mpr fun both => someSteps both.1,
    refuses, (answer_isTrueOf_iff refuses).mpr fun both => someSteps both.1⟩

/-- A machine that was halted by its only instruction is called running by a run with
the limit zero, and refuses to step. -/
theorem runFor_zero_calls_halted_running :
    let machine : Machine := { Machine.fresh with
      code := ⟨#[Instruction.pack ⟨Opcode.halt.code, 0⟩], by decide⟩ }
    Recorded.fresh.performAll [.pushCode ⟨Opcode.halt.code, 0⟩, .step] =
      some ⟨machine.halt, []⟩ ∧
    (runFor 0).respond machine.halt = some (.stepped (.ok .running), machine.halt) ∧
    machine.halt.halted = true ∧
    machine.halt.step.1 = .error .halted ∧
    ¬(Answer.stepped (.ok .running)).IsTrueOf machine.halt := by
  intro machine
  have fetched : machine.code.fetch machine.registers.programCounter =
      .ok ⟨Opcode.halt.code, 0⟩ := by decide +kernel
  have halts : machine.step = (.ok .halted, machine.halt) :=
    Machine.step_of_perform .halt 0 rfl fetched rfl
  have writesNothing : machine.stepWrites = [] :=
    Machine.stepWrites_of_perform .halt 0 rfl fetched rfl
  have pushed : Recorded.fresh.perform (.pushCode ⟨Opcode.halt.code, 0⟩) =
      some ⟨machine, []⟩ := rfl
  have stepped : Recorded.perform ⟨machine, []⟩ .step = some ⟨machine.halt, []⟩ := by
    rw [Recorded.perform, perform, writes, writesNothing, halts]
    rfl
  refine ⟨?_, rfl, rfl, ?_, fun isTrue => Bool.false_ne_true isTrue.1.symm⟩
  · rw [Recorded.performAll_cons, pushed, Option.bind_some, Recorded.performAll_cons, stepped]
    rfl
  · rw [Machine.step_of_halted rfl]

end Call
end AccumulatorMachine
