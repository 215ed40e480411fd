import AccumulatorMachine.Proofs.CallHistories

/-!
# Halted machines

A step leaves a machine halted unless it answers that the machine is running.  A
halted machine executes nothing: until it is cleared, calls only bring data and
instructions from outside, and a call that asks for a step is refused.
-/

namespace AccumulatorMachine

/-! ## Steps -/

/-- No operation touches the mark that says whether the machine is halted. -/
theorem Operation.halted_apply (operation : Operation) (operand : Word) (machine : Machine) :
    (operation.apply operand machine).2.halted = machine.halted := by
  cases operation with
  | store =>
      simp only [apply, Machine.setData]
      cases machine.memory.write operand machine.registers.accumulator with
      | ok memory => rfl
      | error error => rfl
  | copy =>
      simp only [apply]
      rcases machine.memory.copyBlock operand with ⟨fault | _, memory⟩
      · rfl
      · rfl
  | jumpIfZero | divide | testNegative | testZero =>
      simp only [apply]
      split
      · rfl
      · rfl
  | pass | load | jump | add | subtract | multiply | conjoin | negate | halt => rfl

namespace Machine

theorem halted_dispatch (machine : Machine) (instruction : Instruction) :
    (machine.dispatch instruction).2.halted = machine.halted := by
  fun_induction dispatch machine instruction with
  | case1 | case4 => rfl
  | case2 => exact Operation.halted_apply _ _ _
  | case3 _ _ _ _ _ inductionHypothesis => exact inductionHypothesis

theorem halted_executeCurrent (machine : Machine) :
    machine.executeCurrent.2.halted = machine.halted := by
  unfold executeCurrent
  split
  · exact machine.halted_dispatch _
  · rfl

/-- A step leaves the machine halted unless it answers that the machine is
running. -/
theorem halted_of_step {machine next : Machine} {result : Except StepError Status}
    (stepped : machine.step = (result, next)) :
    next.halted = true ↔ result ≠ .ok .running := by
  cases halted : machine.halted with
  | true =>
      rw [step_of_halted halted] at stepped
      cases stepped
      exact iff_of_true halted (error_ne_running _)
  | false =>
      have kept := machine.halted_executeCurrent
      rw [step_of_not_halted halted] at stepped
      rcases executed : machine.executeCurrent with ⟨fault | _ | _, last⟩ <;>
        rw [executed] at stepped kept <;>
        cases stepped
      · exact iff_of_true rfl (error_ne_running _)
      · exact iff_of_false (by rw [kept, halted]; exact Bool.false_ne_true) (fun ends => ends rfl)
      · exact iff_of_true rfl halted_ne_running

end Machine

/-! ## Code that is loaded -/

/-- The instruction on a line. -/
def Executable.instruction? (line : Text) : Option Instruction :=
  match Loading.readNumbers line with
  | .ok [opcode, argument] => some ⟨opcode, argument⟩
  | _ => none

theorem Executable.instruction?_eq_some {line : Text} {instruction : Instruction}
    (holds : HoldsInstruction line instruction) :
    instruction? line = some instruction := by
  rw [instruction?, (readNumbers_eq_ok_iff line _).mpr holds]

/-- The instructions that loading a text appends: those on the code lines before
the line where loading stops. -/
def Machine.loadCode (machine : Machine) (executable : Text) : List Instruction :=
  (Executable.codeLines (Executable.carriedLines machine executable)).filterMap
    Executable.instruction?

theorem Machine.instructions_load (machine : Machine) (executable : Text) :
    (machine.load executable).2.code.instructions =
      machine.code.instructions ++ machine.loadCode executable := by
  obtain ⟨appended, instructions, -, whole⟩ :=
    (Executable.carried_carriedLines machine executable).code
  rw [loadCode, whole, filterMap_of_forall₂ Executable.instruction?
    (fun _ _ => Executable.instruction?_eq_some) instructions]

/-! ## Exchanges -/

/-- What a call answers. -/
inductive Answer
  | pushed (result : Except Code.Refusal Unit)
  | written (result : Except Memory.InvalidAddress Unit)
  | loaded (result : Except LoadError Unit)
  | stepped (result : Except StepError Status)
  | counted (result : Except StepError Nat)
  | cleared

namespace Call

/-- The answer to a call and the machine after it; nothing if the call does not
return. -/
def respond (machine : Machine) : Call → Option (Answer × Machine)
  | pushCode instruction =>
      match machine.pushCode instruction with
      | .ok next => some (.pushed (.ok ()), next)
      | .error refusal => some (.pushed (.error refusal), machine)
  | setData address value =>
      match machine.setData address value with
      | .ok next => some (.written (.ok ()), next)
      | .error error => some (.written (.error error), machine)
  | load executable =>
      let (result, next) := machine.load executable
      some (.loaded result, next)
  | step =>
      let (result, next) := machine.step
      some (.stepped result, next)
  | run bound => (machine.run bound).map fun (result, next) => (.counted result, next)
  | runFor steps =>
      let (result, next) := machine.runFor steps
      some (.stepped result, next)
  | clear => some (.cleared, machine.clear)

/-- A call performed is a call responded to, without the answer. -/
theorem perform_eq_map_respond (machine : Machine) (call : Call) :
    call.perform machine = (call.respond machine).map Prod.snd := by
  cases call with
  | pushCode instruction =>
      simp only [perform, respond]
      cases machine.pushCode instruction with
      | ok next => rfl
      | error refusal => rfl
  | setData address value =>
      simp only [perform, respond]
      cases machine.setData address value with
      | ok next => rfl
      | error error => rfl
  | run bound =>
      rw [perform, respond, Option.map_map]
      rfl
  | load | step | runFor | clear => rfl

/-- The data that a call brings from outside. -/
def suppliedData (machine : Machine) : Call → List Datum
  | setData address value => Memory.writesAt address value
  | load executable => machine.loadWrites executable
  | _ => []

/-- A halted machine writes the data that a call brings, and no other. -/
theorem writes_of_halted {machine : Machine} (halted : machine.halted = true) (call : Call) :
    call.writes machine = call.suppliedData machine := by
  cases call with
  | step => exact Machine.stepWrites_of_halted halted
  | run bound => exact Machine.runWrites_of_halted halted bound
  | runFor steps => exact Machine.runWrites_of_halted halted steps
  | pushCode | setData | load | clear => rfl

/-- The instructions that a call brings from outside, as far as there is room. -/
def suppliedCode (machine : Machine) : Call → List Instruction
  | pushCode instruction => if machine.code.size < codeMax then [instruction] else []
  | load executable => machine.loadCode executable
  | _ => []

/-- The answer of a halted machine to a call that asks for a step. -/
def refusal? : Call → Option Answer
  | step | runFor (_ + 1) => some (.stepped (.error .halted))
  | run _ => some (.counted (.error .halted))
  | _ => none

end Call

/-- A call with the machine before it, the answer and the machine after it. -/
structure Exchange where
  before : Machine
  call : Call
  answer : Answer
  after : Machine

/-- Exchanges lead from one machine to another. -/
inductive Exchanged : Machine → List Exchange → Machine → Prop
  | nil (machine : Machine) : Exchanged machine [] machine
  | cons {before after last : Machine} {call : Call} {answer : Answer}
      {rest : List Exchange} :
      call.respond before = some (answer, after) →
        Exchanged after rest last →
        Exchanged before (⟨before, call, answer, after⟩ :: rest) last

namespace Exchange

/-- The data that an exchange brings from outside. -/
def suppliedData (exchange : Exchange) : List Datum :=
  exchange.call.suppliedData exchange.before

/-- The instructions that an exchange brings from outside. -/
def suppliedCode (exchange : Exchange) : List Instruction :=
  exchange.call.suppliedCode exchange.before

/-- No instruction is executed: the machine is halted as before, it has what was
brought from outside and nothing else is new, and a call for a step is refused. -/
structure IsIdle (exchange : Exchange) : Prop where
  halted : exchange.after.halted = true
  registers : exchange.after.registers = exchange.before.registers
  memory : exchange.after.memory =
    exchange.before.memory.writeAll exchange.suppliedData
  code : exchange.after.code.instructions =
    exchange.before.code.instructions ++ exchange.suppliedCode
  refused : ∀ answer, exchange.call.refusal? = some answer →
    exchange.answer = answer ∧ exchange.after = exchange.before

section Halted

variable {before after : Machine} {answer : Answer}

/-- Whatever is asked of refusals holds for a call that asks for no step. -/
theorem forall_refusal {call : Call} {holds : Answer → Prop}
    (asksNoStep : call.refusal? = none) :
    ∀ refusal, call.refusal? = some refusal → holds refusal := by
  intro refusal asked
  rw [asksNoStep] at asked
  cases asked

/-- What is written to a halted machine are the data that the call brings. -/
theorem memory_of_halted {call : Call} (halted : before.halted = true)
    (responded : call.respond before = some (answer, after)) (keeps : call ≠ .clear) :
    after.memory = before.memory.writeAll (call.suppliedData before) := by
  have performed : call.perform before = some after := by
    rw [Call.perform_eq_map_respond, responded]
    rfl
  rw [Call.memory_perform performed keeps, Call.writes_of_halted halted]

/-- An exchange that brings no instruction and leaves a halted machine as it is. -/
theorem isIdle_of_unchanged {call : Call} (halted : before.halted = true)
    (memory : before.memory = before.memory.writeAll (call.suppliedData before))
    (noCode : call.suppliedCode before = [])
    (refused : ∀ refusal, call.refusal? = some refusal → answer = refusal) :
    IsIdle ⟨before, call, answer, before⟩ where
  halted := halted
  registers := rfl
  memory := memory
  code := by
    rw [suppliedCode, noCode, List.append_nil]
  refused refusal asked := ⟨refused refusal asked, rfl⟩

theorem isIdle_pushCode {instruction : Instruction} (halted : before.halted = true)
    (responded : (Call.pushCode instruction).respond before = some (answer, after)) :
    IsIdle ⟨before, .pushCode instruction, answer, after⟩ := by
  have memory := memory_of_halted halted responded nofun
  by_cases room : before.code.size < codeMax
  · obtain ⟨longer, pushed, whole⟩ := Code.exists_push instruction room
    simp only [Call.respond, Machine.pushCode, pushed] at responded
    cases responded
    refine ⟨halted, rfl, memory, ?_, forall_refusal rfl⟩
    rw [suppliedCode, Call.suppliedCode, if_pos room]
    exact whole
  · have refused := Code.push_of_full instruction (Nat.not_lt.mp room)
    simp only [Call.respond, Machine.pushCode, refused] at responded
    cases responded
    exact isIdle_of_unchanged halted memory (if_neg room) (forall_refusal rfl)

theorem isIdle_setData {address value : Word} (halted : before.halted = true)
    (responded : (Call.setData address value).respond before = some (answer, after)) :
    IsIdle ⟨before, .setData address value, answer, after⟩ := by
  have memory := memory_of_halted halted responded nofun
  cases written : before.memory.write address value with
  | ok after =>
      simp only [Call.respond, Machine.setData, written] at responded
      cases responded
      exact ⟨halted, rfl, memory, (List.append_nil _).symm, forall_refusal rfl⟩
  | error error =>
      simp only [Call.respond, Machine.setData, written] at responded
      cases responded
      exact isIdle_of_unchanged halted memory rfl (forall_refusal rfl)

theorem isIdle_load {executable : Text} (halted : before.halted = true)
    (responded : (Call.load executable).respond before = some (answer, after)) :
    IsIdle ⟨before, .load executable, answer, after⟩ := by
  have carried := Executable.carried_carriedLines before executable
  have memory := memory_of_halted halted responded nofun
  cases responded
  exact ⟨carried.halted.trans halted, carried.registers, memory,
    before.instructions_load executable, forall_refusal rfl⟩

/-- Unless it clears the machine, a call to a halted machine executes nothing. -/
theorem isIdle_of_halted {call : Call} (halted : before.halted = true)
    (responded : call.respond before = some (answer, after))
    (keeps : call ≠ .clear) :
    IsIdle ⟨before, call, answer, after⟩ := by
  -- Only the calls that ask for a step look at the halt mark.
  have refuses : before.step = (.error .halted, before) := Machine.step_of_halted halted
  have memory := memory_of_halted halted responded keeps
  cases call with
  | pushCode instruction => exact isIdle_pushCode halted responded
  | setData address value => exact isIdle_setData halted responded
  | load executable => exact isIdle_load halted responded
  | step =>
      simp only [Call.respond, refuses] at responded
      cases responded
      exact isIdle_of_unchanged halted memory rfl fun _ asked => Option.some.inj asked
  | run bound =>
      cases bound with
      | zero => cases responded
      | succ bound =>
          simp only [Call.respond, Machine.run,
            Machine.runCounting_succ_of_stopped refuses (Machine.error_ne_running _)]
            at responded
          cases responded
          exact isIdle_of_unchanged halted memory rfl fun _ asked => Option.some.inj asked
  | runFor steps =>
      cases steps with
      | zero =>
          cases responded
          exact isIdle_of_unchanged halted memory rfl (forall_refusal rfl)
      | succ steps =>
          simp only [Call.respond, Machine.runFor_succ_of_error refuses] at responded
          cases responded
          exact isIdle_of_unchanged halted memory rfl fun _ asked => Option.some.inj asked
  | clear => exact absurd rfl keeps

end Halted

end Exchange

/-! ## Sequences of calls -/

/-- A halted machine answers every call.  A run without a limit needs one step to
find out that the machine is halted. -/
theorem Call.exists_respond {machine : Machine} (halted : machine.halted = true)
    {call : Call} (givesStep : ∀ bound, call = .run bound → 1 ≤ bound) :
    ∃ answer after, call.respond machine = some (answer, after) := by
  cases call with
  | run bound =>
      obtain ⟨others, rfl⟩ := Nat.exists_eq_add_of_le' (givesStep bound rfl)
      rw [respond, Machine.run, Machine.runCounting_succ_of_stopped
        (Machine.step_of_halted halted) (Machine.error_ne_running _)]
      exact ⟨_, _, rfl⟩
  | pushCode instruction =>
      simp only [respond]
      cases machine.pushCode instruction with
      | ok next => exact ⟨_, _, rfl⟩
      | error refusal => exact ⟨_, _, rfl⟩
  | setData address value =>
      simp only [respond]
      cases machine.setData address value with
      | ok next => exact ⟨_, _, rfl⟩
      | error error => exact ⟨_, _, rfl⟩
  | load | step | runFor | clear => exact ⟨_, _, rfl⟩

namespace Exchanged

/-- A halted machine answers one call after the other. -/
theorem exists_of_halted {machine : Machine} (halted : machine.halted = true)
    {calls : List Call}
    (giveStep : ∀ bound, Call.run bound ∈ calls → 1 ≤ bound)
    (uncleared : Call.clear ∉ calls) :
    ∃ exchanges last, Exchanged machine exchanges last ∧
      exchanges.map Exchange.call = calls := by
  induction calls generalizing machine with
  | nil => exact ⟨[], machine, .nil machine, rfl⟩
  | cons call rest inductionHypothesis =>
      rw [List.mem_cons, not_or] at uncleared
      obtain ⟨answer, after, responded⟩ := Call.exists_respond halted
        fun bound same => giveStep bound (same ▸ List.mem_cons_self)
      have idle := Exchange.isIdle_of_halted halted responded (Ne.symm uncleared.1)
      obtain ⟨exchanges, last, exchanged, same⟩ := inductionHypothesis idle.halted
        (fun bound member => giveStep bound (List.mem_cons_of_mem call member)) uncleared.2
      exact ⟨_, last, .cons responded exchanged, congrArg (call :: ·) same⟩

section Run

variable {machine last : Machine} {exchanges : List Exchange}

/-- Unless it is cleared, every call finds a halted machine and executes
nothing. -/
theorem forall_isIdle (exchanged : Exchanged machine exchanges last)
    (halted : machine.halted = true)
    (keep : ∀ exchange ∈ exchanges, exchange.call ≠ .clear) :
    ∀ exchange ∈ exchanges, exchange.IsIdle := by
  induction exchanged with
  | nil => exact List.forall_mem_nil _
  | cons responded _ inductionHypothesis =>
      rw [List.forall_mem_cons] at keep ⊢
      have idle := Exchange.isIdle_of_halted halted responded keep.1
      exact ⟨idle, inductionHypothesis idle.halted keep.2⟩

/-- What idle exchanges leave is what they bring. -/
theorem last_of_forall_isIdle (exchanged : Exchanged machine exchanges last)
    (halted : machine.halted = true)
    (idle : ∀ exchange ∈ exchanges, exchange.IsIdle) :
    last.halted = true ∧ last.registers = machine.registers ∧
    last.memory = machine.memory.writeAll (exchanges.flatMap Exchange.suppliedData) ∧
    last.code.instructions =
      machine.code.instructions ++ exchanges.flatMap Exchange.suppliedCode := by
  induction exchanged with
  | nil => exact ⟨halted, rfl, rfl, (List.append_nil _).symm⟩
  | cons _ _ inductionHypothesis =>
      rw [List.forall_mem_cons] at idle
      obtain ⟨first, others⟩ := idle
      obtain ⟨lastHalted, registers, memory, code⟩ := inductionHypothesis first.halted others
      refine ⟨lastHalted, registers.trans first.registers, ?_, ?_⟩
      · rw [memory, first.memory, List.flatMap_cons, Memory.writeAll_append]
      · rw [code, first.code, List.flatMap_cons, List.append_assoc]

end Run

end Exchanged

/-- A halted machine stays halted until it is cleared, whatever calls are made and
whether they succeed or fail.  Its registers stay as they are; its cells change by
the data that calls bring and its code by the instructions that they bring, and by
nothing else; a call that asks for a step is refused and changes nothing.
Clearing makes it a fresh machine. -/
theorem Machine.halted_until_cleared {machine : Machine} (halted : machine.halted = true) :
    (∀ calls : List Call, (∀ bound, Call.run bound ∈ calls → 1 ≤ bound) →
      Call.clear ∉ calls →
      ∃ exchanges last, Exchanged machine exchanges last ∧
        exchanges.map Exchange.call = calls) ∧
    ∀ exchanges last, Exchanged machine exchanges last →
      (∀ exchange ∈ exchanges, exchange.call ≠ .clear) →
      last.halted = true ∧ last.registers = machine.registers ∧
      last.memory = machine.memory.writeAll (exchanges.flatMap Exchange.suppliedData) ∧
      last.code.instructions =
        machine.code.instructions ++ exchanges.flatMap Exchange.suppliedCode ∧
      (∀ exchange ∈ exchanges, ∀ answer, exchange.call.refusal? = some answer →
        exchange.answer = answer ∧ exchange.after = exchange.before) ∧
      Call.clear.respond last = some (.cleared, fresh) := by
  refine ⟨fun calls giveStep uncleared => Exchanged.exists_of_halted halted giveStep uncleared,
    fun exchanges last exchanged keep => ?_⟩
  have idle := exchanged.forall_isIdle halted keep
  obtain ⟨lastHalted, registers, memory, code⟩ := exchanged.last_of_forall_isIdle halted idle
  have refused := fun exchange member => (idle exchange member).refused
  refine ⟨lastHalted, registers, memory, code, refused, ?_⟩
  rw [Call.respond, clear_eq_fresh]

/-- A machine that divided by zero is stepped, loaded with a text whose fourth line
is faulty, and run. -/
theorem Machine.halted_until_cleared_divided :
    let machine : Machine := { fresh with
      code := ⟨#[Instruction.pack ⟨Opcode.divideImmediate.code, 0⟩], by decide⟩ }
    let faulted := machine.halt
    let executable := "1F 0\n-1 7\n1ff -3\n200 0\n".toList
    let loaded := (faulted.load executable).2
    let exchanges : List Exchange :=
      [⟨faulted, .step, .stepped (.error .halted), faulted⟩,
        ⟨faulted, .load executable, .loaded (.error ⟨4, .invalidAddress ⟨512⟩⟩), loaded⟩,
        ⟨loaded, .run 1, .counted (.error .halted), loaded⟩]
    machine.step = (.error (.fault .divisionByZero), faulted) ∧
    (∃ others last, Exchanged faulted others last ∧
      others.map Exchange.call = exchanges.map Exchange.call) ∧
    Exchanged faulted exchanges loaded ∧
    loaded.halted = true ∧ loaded.registers = .zero ∧
    loaded.memory = Memory.empty.writeCell ⟨511, by decide⟩ (-3) ∧
    loaded.code.instructions = [⟨Opcode.divideImmediate.code, 0⟩, ⟨Opcode.halt.code, 0⟩] ∧
    Call.clear.respond loaded = some (.cleared, fresh) := by
  intro machine faulted executable loaded exchanges
  have halted : faulted.halted = true := rfl
  obtain ⟨answers, stays⟩ := halted_until_cleared halted
  have divides : machine.step = (.error (.fault .divisionByZero), faulted) :=
    step_of_perform .divideImmediate 0 rfl (by decide +kernel) rfl
  have giveStep : ∀ bound, Call.run bound ∈ exchanges.map Exchange.call → 1 ≤ bound := by
    simp [exchanges]
  have exchanged : Exchanged faulted exchanges loaded :=
    .cons rfl (.cons rfl (.cons rfl (.nil loaded)))
  obtain ⟨lastHalted, registers, memory, code, -, cleared⟩ :=
    stays exchanges loaded exchanged (by simp [exchanges])
  have data : exchanges.flatMap Exchange.suppliedData = [⟨⟨511, by decide⟩, -3⟩] := by
    decide +kernel
  have instructions : exchanges.flatMap Exchange.suppliedCode = [⟨Opcode.halt.code, 0⟩] := by
    decide +kernel
  refine ⟨divides, answers _ giveStep (by simp [exchanges]), exchanged, lastHalted, registers,
    ?_, ?_, cleared⟩
  · rw [memory, data]
    rfl
  · rw [code, instructions]
    rfl

end AccumulatorMachine
