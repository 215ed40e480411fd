import AccumulatorMachine.Proofs.AlikeMachines
import AccumulatorMachine.Proofs.HaltedMachines
import AccumulatorMachine.Proofs.SessionFrames

/-!
# Paused runs

A run that watches some program counters takes the steps that every run takes.  It
ends with the first one that does not leave the machine running or that leaves the
program counter at a watched place.  The steps that remain then end with the same
machine as before, so that resuming again and again leads where a run without a
pause leads.
-/

namespace AccumulatorMachine
namespace Machine

/-- The outcome of a step ends a run that watches some program counters. -/
def Pauses (watched : Word → Bool) (outcome : Except StepError Status × Machine) : Prop :=
  outcome.1 ≠ .ok .running ∨ watched outcome.2.registers.programCounter = true

/-- A run takes a number of steps before the first one that ends it. -/
structure PausesAfter (watched : Word → Bool) (machine : Machine) (others : Nat) :
    Prop where
  pauses : Pauses watched (machine.afterSteps others).step
  least : ∀ fewer, fewer < others → ¬Pauses watched (machine.afterSteps fewer).step

/-! ## Steps -/

/-- One more step can be taken last as well as first. -/
theorem afterSteps_succ (steps : Nat) (machine : Machine) :
    machine.afterSteps (steps + 1) = (machine.afterSteps steps).step.2 := by
  induction steps generalizing machine with
  | zero => rfl
  | succ steps inductionHypothesis => exact inductionHypothesis machine.step.2

section Watched

variable {watched : Word → Bool} {machine : Machine}

theorem pausesAfter_zero_iff :
    machine.PausesAfter watched 0 ↔ Pauses watched machine.step := by
  constructor
  · intro first
    exact first.pauses
  · intro pauses
    exact ⟨pauses, fun fewer less => absurd less (Nat.not_lt_zero fewer)⟩

theorem pausesAfter_succ_iff {others : Nat} :
    machine.PausesAfter watched (others + 1) ↔
      ¬Pauses watched machine.step ∧ machine.step.2.PausesAfter watched others := by
  constructor
  · intro first
    exact ⟨first.least 0 (Nat.succ_pos others), first.pauses,
      fun fewer less => first.least (fewer + 1) (Nat.succ_lt_succ less)⟩
  · rintro ⟨goesOn, first⟩
    refine ⟨first.pauses, fun fewer less => ?_⟩
    cases fewer with
    | zero => exact goesOn
    | succ fewer => exact first.least fewer (Nat.lt_of_succ_lt_succ less)

theorem resume_succ_of_pauses (pauses : Pauses watched machine.step) (bound : Nat) :
    resume watched (bound + 1) machine = some machine.step := by
  rw [resume]
  rcases stepped : machine.step with ⟨error | _ | _, next⟩
  · rfl
  · rw [stepped] at pauses
    exact if_pos (pauses.resolve_left (absurd rfl))
  · rfl

theorem resume_succ_of_not_pauses (goesOn : ¬Pauses watched machine.step) (bound : Nat) :
    resume watched (bound + 1) machine = resume watched bound machine.step.2 := by
  rw [Pauses, not_or, not_not] at goesOn
  obtain ⟨running, unwatched⟩ := goesOn
  have stepped : machine.step = (.ok .running, machine.step.2) := Prod.ext running rfl
  rw [resume, stepped]
  exact if_neg unwatched

/-- A run ends with the first step that pauses it, if its bound allows for that
step. -/
theorem resume_eq_some_iff {bound : Nat} {outcome : Except StepError Status × Machine} :
    resume watched bound machine = some outcome ↔
      ∃ others, others < bound ∧ machine.PausesAfter watched others ∧
        (machine.afterSteps others).step = outcome := by
  induction bound generalizing machine with
  | zero =>
      apply iff_of_false
      · rw [resume_zero]
        exact (Option.some_ne_none outcome).symm
      · rintro ⟨others, less, -⟩
        exact Nat.not_lt_zero others less
  | succ bound inductionHypothesis =>
      by_cases pauses : Pauses watched machine.step
      · rw [resume_succ_of_pauses pauses, Option.some.injEq]
        constructor
        · intro same
          exact ⟨0, Nat.succ_pos bound, pausesAfter_zero_iff.mpr pauses, same⟩
        · rintro ⟨others, -, first, same⟩
          cases others with
          | zero => exact same
          | succ others => exact absurd pauses (pausesAfter_succ_iff.mp first).1
      · -- The step that ends the run has one step less before it when it is counted from
        -- the machine after the first step.
        rw [resume_succ_of_not_pauses pauses, inductionHypothesis]
        constructor
        · rintro ⟨others, less, first, same⟩
          exact ⟨others + 1, Nat.succ_lt_succ less,
            pausesAfter_succ_iff.mpr ⟨pauses, first⟩, same⟩
        · rintro ⟨others, less, first, same⟩
          cases others with
          | zero => exact absurd (pausesAfter_zero_iff.mp first) pauses
          | succ others =>
              exact ⟨others, Nat.lt_of_succ_lt_succ less,
                (pausesAfter_succ_iff.mp first).2, same⟩

/-- A run that is allowed all steps up to the last one takes this one too, or it
pauses with fewer steps to go. -/
theorem StopsAt.exists_resume (watched : Word → Bool) {number bound : Nat}
    {result : Except StepError Status} {last : Machine}
    (stops : StopsAt machine number result last)
    (within : number ≤ bound) :
    ∃ outcome, resume watched bound machine = some outcome ∧
      (outcome.2.halted = true ∧ outcome.2 = last ∨
        outcome.2.halted = false ∧
          ∃ remaining, remaining < number ∧ StopsAt outcome.2 remaining result last) := by
  induction stops generalizing bound with
  | @now machine last result stepped stopped =>
      obtain ⟨others, rfl⟩ := Nat.exists_eq_add_of_le' within
      have pauses : Pauses watched machine.step := by
        rw [stepped]
        exact Or.inl stopped
      refine ⟨_, resume_succ_of_pauses pauses others, Or.inl ?_⟩
      rw [stepped]
      exact ⟨(halted_of_step stepped).mpr stopped, rfl⟩
  | @later machine next last number result stepped stops inductionHypothesis =>
      obtain ⟨others, rfl⟩ := Nat.exists_eq_add_of_le' (Nat.le_of_add_left_le within)
      by_cases pauses : Pauses watched machine.step
      · refine ⟨_, resume_succ_of_pauses pauses others, Or.inr ?_⟩
        rw [stepped]
        have active : ¬next.halted = true := by
          rw [halted_of_step stepped, not_not]
        exact ⟨Bool.eq_false_iff.mpr active, number, Nat.lt_succ_self number, stops⟩
      · obtain ⟨outcome, resumed, ends⟩ :=
          inductionHypothesis (Nat.le_of_succ_le_succ within)
        rw [resume_succ_of_not_pauses pauses, stepped]
        refine ⟨outcome, resumed, ends.imp_right ?_⟩
        rintro ⟨active, remaining, less, stops⟩
        exact ⟨active, remaining, Nat.lt_succ_of_lt less, stops⟩

end Watched

end Machine

namespace Session

/-- Entering an input until the machine is halted leads from a session to
another. -/
inductive LeadsTo (conditions : Conditions) (input : Text) : Session → Session → Prop
  | halted {session : Session} :
      session.machine.halted = true → LeadsTo conditions input session session
  | again {session final : Session} {turn : Turn} :
      session.machine.halted = false →
        session.enter conditions input = some turn →
        LeadsTo conditions input turn.session final →
        LeadsTo conditions input session final

section Resuming

variable {conditions : Conditions} {session final other : Session} {input : Text}

/-- An input asks for a command again when this is the one remembered. -/
theorem Asks.persists {command : Command} (asks : session.Asks input command)
    {next : Session} (remembered : next.lastCommand = some command) :
    next.Asks input command := by
  cases asks with
  | words blank split read => exact .words blank split read
  | again blank last => exact .again blank remembered

theorem execute_resume (conditions : Conditions) (session : Session)
    (active : session.machine.halted = false) :
    session.execute conditions .resume = session.resume conditions := by
  rw [execute, active, if_neg Bool.false_ne_true]

/-- What is told after a run has a breakpoint in it when the machine was left
running. -/
theorem reachedBreakpoint_mem_iff (result : Except StepError Status) (notes : List Note)
    (address : Word) :
    .reachedBreakpoint address ∈
        notes.map Event.noted ++ session.breakpointEvents result ++
          session.endEvents result ↔
      result = .ok .running ∧ address = session.programCounter := by
  rcases result with error | _ | _ <;> simp [breakpointEvents, endEvents]

/-- Resuming leaves the machine of the run. -/
theorem exists_enter_of_resume {outcome : Except StepError Status × Machine}
    (active : session.machine.halted = false) (asks : session.Asks input .resume)
    (resumed : session.machine.resume session.breakpoints.contains conditions.bound =
      some outcome) :
    ∃ turn, session.enter conditions input = some turn ∧
      turn.session = (session.remember .resume).withRun outcome.2 ∧
      turn.isOver = false ∧
      ∀ address, .reachedBreakpoint address ∈ turn.events ↔
        outcome.1 = .ok .running ∧ address = outcome.2.registers.programCounter := by
  obtain ⟨result, machine⟩ := outcome
  let next := (session.remember .resume).withRun machine
  let notes := session.machine.narrate conditions.verbosity session.breakpoints.contains
    conditions.bound
  have carriedOut : (session.remember .resume).execute conditions .resume =
      some (next.tell
        (notes.map .noted ++ next.breakpointEvents result ++ next.endEvents result)) := by
    rw [execute_resume conditions (session.remember .resume) active]
    exact congrArg (Option.map _) resumed
  refine ⟨_, (enter_eq_some_iff asks).mpr ⟨_, carriedOut, rfl⟩, rfl, rfl, fun address => ?_⟩
  have announced : Event.reachedBreakpoint address ≠ .executing .resume := by
    intro same
    cases same
  exact (List.mem_cons.trans (or_iff_right announced)).trans
    (next.reachedBreakpoint_mem_iff result notes address)

theorem exists_resume_of_enter {turn : Turn}
    (active : session.machine.halted = false) (asks : session.Asks input .resume)
    (entered : session.enter conditions input = some turn) :
    ∃ outcome, session.machine.resume session.breakpoints.contains conditions.bound =
      some outcome := by
  obtain ⟨executed, carriedOut, -⟩ := (enter_eq_some_iff asks).mp entered
  rw [execute_resume conditions (session.remember .resume) active, resume,
    Option.map_eq_some_iff] at carriedOut
  obtain ⟨outcome, resumed, -⟩ := carriedOut
  exact ⟨outcome, resumed⟩

/-- There is one session to which entering an input leads. -/
theorem LeadsTo.unique (leads : LeadsTo conditions input session final)
    (leadsOther : LeadsTo conditions input session other) :
    other = final := by
  induction leads with
  | halted halted =>
      cases leadsOther with
      | halted _ => rfl
      | again active _ _ =>
          rw [halted] at active
          cases active
  | again active entered _ inductionHypothesis =>
      cases leadsOther with
      | halted halted =>
          rw [halted] at active
          cases active
      | again _ enteredOther leadsOther =>
          rw [entered, Option.some.injEq] at enteredOther
          subst enteredOther
          exact inductionHypothesis leadsOther

/-- Resuming again and again leads to the step that ends all runs, since fewer steps
remain after every pause. -/
theorem exists_leadsTo {number : Nat} {result : Except StepError Status} {last : Machine}
    (stops : session.machine.StopsAt number result last)
    (within : number ≤ conditions.bound)
    (active : session.machine.halted = false) (asks : session.Asks input .resume) :
    ∃ final, LeadsTo conditions input session final ∧ final.machine = last := by
  induction number using Nat.strongRecOn generalizing session with
  | ind number inductionHypothesis =>
      obtain ⟨outcome, resumed, ends⟩ :=
        stops.exists_resume session.breakpoints.contains within
      obtain ⟨turn, entered, same, -⟩ := exists_enter_of_resume active asks resumed
      have machineSame : turn.session.machine = outcome.2 := congrArg Session.machine same
      -- A pause before the last step took at least one step, so fewer remain after it.
      rcases ends with ⟨halted, isLast⟩ | ⟨running, remaining, less, remains⟩
      · refine ⟨turn.session, .again active entered (.halted ?_), machineSame.trans isLast⟩
        rw [machineSame]
        exact halted
      · rw [← machineSame] at running remains
        have asksAgain : turn.session.Asks input .resume :=
          asks.persists (congrArg Session.lastCommand same)
        obtain ⟨final, leads, isLast⟩ := inductionHypothesis remaining less remains
          (Nat.le_trans (Nat.le_of_lt less) within) running asksAgain
        exact ⟨final, .again active entered leads, isLast⟩

end Resuming

/-- Breakpoints do not change what a program computes.  Resuming a machine that is not
halted takes the steps up to the first one that does not leave it running or that
leaves the program counter at a breakpoint, does not return when there is none, and
tells of a breakpoint when that step left the machine running at one.  When a run
without a pause returns, resuming until the machine is halted comes to an end, and it
ends with the machine that the run leaves. -/
theorem continue_splits_run {session : Session} {input : Text}
    (active : session.machine.halted = false) (asks : session.Asks input .resume) :
    (∀ conditions others,
      session.machine.PausesAfter session.breakpoints.contains others →
      others < conditions.bound →
      ∃ turn, session.enter conditions input = some turn ∧
        turn.session = (session.remember .resume).withRun
          (session.machine.afterSteps (others + 1)) ∧
        turn.isOver = false ∧
        ∀ address, .reachedBreakpoint address ∈ turn.events ↔
          (session.machine.afterSteps others).step.1 = .ok .running ∧
          address = turn.session.programCounter ∧
          session.breakpoints.contains address = true) ∧
    (∀ conditions turn, session.enter conditions input = some turn →
      ∃ others, others < conditions.bound ∧
        session.machine.PausesAfter session.breakpoints.contains others) ∧
    ∀ answer last, session.machine.Returns answer last →
      ∃ bound, ∀ conditions : Conditions, bound ≤ conditions.bound →
        ∃ final, LeadsTo conditions input session final ∧ final.machine = last ∧
          ∀ other, LeadsTo conditions input session other → other = final := by
  refine ⟨fun conditions others first within => ?_, fun conditions turn entered => ?_,
    fun answer last returns => ?_⟩
  · have resumed := Machine.resume_eq_some_iff.mpr ⟨others, within, first, rfl⟩
    obtain ⟨turn, entered, left, goesOn, told⟩ := exists_enter_of_resume active asks resumed
    have counted := session.machine.afterSteps_succ others
    rw [← counted] at left told
    refine ⟨turn, entered, left, goesOn, fun address => (told address).trans ?_⟩
    rw [left]
    refine and_congr_right fun running => (and_iff_left_of_imp ?_).symm
    rintro rfl
    have watched := first.pauses.resolve_left (not_not_intro running)
    rw [← counted] at watched
    exact watched
  · obtain ⟨outcome, resumed⟩ := exists_resume_of_enter active asks entered
    obtain ⟨others, within, first, -⟩ := Machine.resume_eq_some_iff.mp resumed
    exact ⟨others, within, first⟩
  · obtain ⟨number, result, stops, -⟩ := (Machine.returns_iff _ last answer).mp returns
    refine ⟨number, fun conditions within => ?_⟩
    obtain ⟨final, leads, isLast⟩ := exists_leadsTo stops within active asks
    exact ⟨final, leads, isLast, fun other leadsOther => leads.unique leadsOther⟩

/-- A program that halts with its second instruction, with breakpoints at both. -/
theorem continue_splits_run_halting :
    let halting : Machine := { Machine.fresh with
      code := ⟨#[Instruction.pack ⟨Opcode.noOperation.code, 0⟩,
        Instruction.pack ⟨Opcode.halt.code, 0⟩], by decide⟩ }
    let session := { start halting with
      breakpoints := (Breakpoints.empty.insert 0).insert 1 }
    let conditions : Conditions := ⟨⟨"a", []⟩, .normal, 1⟩
    let last := halting.advance.halt
    halting.halted = false ∧
    session.Asks "continue".toList .resume ∧
    halting.PausesAfter session.breakpoints.contains 0 ∧
    (∃ turn, session.enter conditions "continue".toList = some turn ∧
      turn.session.machine = halting.advance ∧
      .reachedBreakpoint 1 ∈ turn.events) ∧
    halting.Returns (.ok 2) last ∧
    ∃ bound, ∀ conditions : Conditions, bound ≤ conditions.bound →
      ∃ final, LeadsTo conditions "continue".toList session final ∧ final.machine = last := by
  intro halting session conditions last
  have active : session.machine.halted = false := rfl
  have asks : session.Asks "continue".toList .resume := .words rfl rfl rfl
  obtain ⟨pauses, -, ends⟩ := continue_splits_run active asks
  have stepped : halting.step = (.ok .running, halting.advance) :=
    Machine.step_of_perform .noOperation 0 rfl (by decide +kernel) rfl
  have second : halting.advance.step = (.ok .halted, last) :=
    Machine.step_of_perform .halt 0 rfl (by decide +kernel) rfl
  have first : halting.PausesAfter session.breakpoints.contains 0 := by
    rw [Machine.pausesAfter_zero_iff, stepped]
    exact Or.inr (by decide +kernel)
  have returns : halting.Returns (.ok 2) last :=
    (Machine.returns_ok_iff halting last 2).mpr
      (.later stepped (.now second Machine.halted_ne_running))
  have left : session.machine.afterSteps (0 + 1) = halting.advance := congrArg Prod.snd stepped
  refine ⟨active, asks, first, ?_, returns, ?_⟩
  · obtain ⟨turn, entered, same, -, told⟩ := pauses conditions 0 first Nat.zero_lt_one
    rw [left] at same
    refine ⟨turn, entered, congrArg machine same, (told 1).mpr ⟨?_, ?_, ?_⟩⟩
    · exact congrArg Prod.fst stepped
    · rw [same]
      decide +kernel
    · decide +kernel
  · obtain ⟨bound, leads⟩ := ends _ last returns
    refine ⟨bound, fun conditions within => ?_⟩
    obtain ⟨final, reaches, isLast, -⟩ := leads conditions within
    exact ⟨final, reaches, isLast⟩

end Session
end AccumulatorMachine
