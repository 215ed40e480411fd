import AccumulatorMachine.Proofs.CellWrites
import AccumulatorMachine.Proofs.LoadedLines

/-!
# Histories of calls

A machine is used by calls from outside, which may fail or end in a fault.  A
journal keeps the writes to the cells since the machine was cleared; whatever
calls were made, the memory is what the journal says.
-/

namespace AccumulatorMachine

/-! ## Writes of a load -/

namespace Executable

/-- The cell that a line names, with the value for it. -/
def datum? (line : Text) : Option Datum :=
  match Loading.readNumbers line with
  | .ok [address, value] => (Memory.index? address).map fun index => ⟨index, value⟩
  | _ => none

theorem datum?_eq_some {line : Text} {datum : Datum} (holds : HoldsDatum line datum) :
    datum? line = some datum := by
  rw [datum?, (readNumbers_eq_ok_iff line _).mpr holds]
  simp only
  rw [(Memory.index?_eq_some_iff _ _).mpr datum.toInt_addressWord]
  rfl

end Executable

/-- The writes of loading a text: the data on the lines before the one where
loading stops. -/
def Machine.loadWrites (machine : Machine) (executable : Text) : List Datum :=
  (Executable.dataLines (Executable.carriedLines machine executable)).filterMap
    Executable.datum?

theorem Machine.memory_load (machine : Machine) (executable : Text) :
    (machine.load executable).2.memory =
      machine.memory.writeAll (machine.loadWrites executable) := by
  obtain ⟨written, data, memory⟩ :=
    (Executable.carried_carriedLines machine executable).data
  rw [loadWrites, memory,
    filterMap_of_forall₂ Executable.datum? (fun _ _ => Executable.datum?_eq_some) data]

/-! ## Calls -/

/-- A call to a machine.  A run without a limit carries the number of steps that
it is given to return. -/
inductive Call
  | pushCode (instruction : Instruction)
  | setData (address value : Word)
  | load (executable : Text)
  | step
  | run (bound : Nat)
  | runFor (steps : Nat)
  | clear
  deriving DecidableEq, Repr

namespace Call

/-- The machine after a call, whether it succeeds or fails; nothing if the call
does not return. -/
def perform (machine : Machine) : Call → Option Machine
  | pushCode instruction =>
      match machine.pushCode instruction with
      | .ok next => some next
      | .error _ => some machine
  | setData address value =>
      match machine.setData address value with
      | .ok next => some next
      | .error _ => some machine
  | load executable => some (machine.load executable).2
  | step => some machine.step.2
  | run bound => (machine.run bound).map Prod.snd
  | runFor steps => some (machine.runFor steps).2
  | clear => some machine.clear

/-- The writes to cells during a call, apart from clearing. -/
def writes (machine : Machine) : Call → List Datum
  | pushCode _ => []
  | setData address value => Memory.writesAt address value
  | load executable => machine.loadWrites executable
  | step => machine.stepWrites
  | run bound => machine.runWrites bound
  | runFor steps => machine.runWrites steps
  | clear => []

/-- All calls but clearing carry out their writes. -/
theorem memory_perform {call : Call} {machine next : Machine}
    (performed : call.perform machine = some next)
    (keeps : call ≠ clear) :
    next.memory = machine.memory.writeAll (call.writes machine) := by
  cases call with
  | pushCode instruction =>
      cases pushed : machine.code.push instruction with
      | ok code =>
          simp only [perform, Machine.pushCode, pushed] at performed
          cases performed
          rfl
      | error refusal =>
          simp only [perform, Machine.pushCode, pushed] at performed
          cases performed
          rfl
  | setData address value =>
      rcases machine.memory.write_eq address value with
        ⟨written, succeeds, same⟩ | ⟨error, fails, nothing⟩
      · simp only [perform, Machine.setData, succeeds] at performed
        cases performed
        exact same
      · simp only [perform, Machine.setData, fails] at performed
        cases performed
        rw [writes, nothing]
        rfl
  | load executable =>
      cases performed
      exact machine.memory_load executable
  | step =>
      cases performed
      exact machine.memory_step
  | run bound =>
      obtain ⟨⟨answer, last⟩, ran, rfl⟩ := Option.map_eq_some_iff.mp performed
      exact Machine.memory_run ran
  | runFor steps =>
      cases performed
      exact machine.memory_runFor steps
  | clear => exact absurd rfl keeps

end Call

/-! ## Journals -/

/-- A machine, and the writes to its cells since it was cleared. -/
structure Recorded where
  machine : Machine
  journal : List Datum

namespace Recorded

/-- A machine that was just switched on. -/
def fresh : Recorded :=
  ⟨.fresh, []⟩

/-- A call, with its writes in the journal.  Clearing starts a new journal. -/
def perform (recorded : Recorded) (call : Call) : Option Recorded :=
  (call.perform recorded.machine).map fun next =>
    ⟨next, if call = .clear then [] else recorded.journal ++ call.writes recorded.machine⟩

/-- Calls, one after the other. -/
def performAll (recorded : Recorded) (calls : List Call) : Option Recorded :=
  calls.foldlM perform recorded

/-- The memory is what the journal says. -/
def IsComplete (recorded : Recorded) : Prop :=
  recorded.machine.memory = Memory.empty.writeAll recorded.journal

theorem performAll_append (recorded : Recorded) (first second : List Call) :
    recorded.performAll (first ++ second) =
      (recorded.performAll first).bind fun middle => middle.performAll second :=
  List.foldlM_append

theorem performAll_cons (recorded : Recorded) (call : Call) (rest : List Call) :
    recorded.performAll (call :: rest) =
      (recorded.perform call).bind fun next => next.performAll rest :=
  List.foldlM_cons

theorem isComplete_fresh : fresh.IsComplete := rfl

/-- A call keeps the journal complete. -/
theorem IsComplete.perform {recorded next : Recorded} {call : Call}
    (complete : recorded.IsComplete)
    (performed : recorded.perform call = some next) :
    next.IsComplete := by
  obtain ⟨machine, called, rfl⟩ := Option.map_eq_some_iff.mp performed
  -- Clearing is the one call that changes cells without a write; it starts over.
  by_cases clears : call = .clear
  · subst clears
    cases called
    exact recorded.machine.memory.clear_eq_empty
  · rw [IsComplete] at complete ⊢
    rw [if_neg clears, Memory.writeAll_append, ← complete, Call.memory_perform called clears]

/-- All calls keep the journal complete. -/
theorem IsComplete.performAll {calls : List Call} {recorded last : Recorded}
    (complete : recorded.IsComplete)
    (performed : recorded.performAll calls = some last) :
    last.IsComplete := by
  induction calls generalizing recorded with
  | nil =>
      cases performed
      exact complete
  | cons call rest inductionHypothesis =>
      rw [performAll_cons, Option.bind_eq_some_iff] at performed
      obtain ⟨next, first, others⟩ := performed
      exact inductionHypothesis (complete.perform first) others

/-- Whatever calls are made, the code store holds no more than it can, the cell
marked as written last is that of the last write since the machine was cleared,
and the cells hold what was written to them last since then, or zero. -/
theorem memory_tracks_writes {calls : List Call} {recorded : Recorded}
    (performed : fresh.performAll calls = some recorded) :
    recorded.machine.code.size ≤ codeMax ∧
    recorded.machine.memory.lastWritten = recorded.journal.getLast?.map Datum.address ∧
    (recorded.machine.memory.lastWritten = none ↔ recorded.journal = []) ∧
    recorded.machine.memory = Memory.empty.writeAll recorded.journal ∧
    (∀ index, (∀ datum ∈ recorded.journal, datum.address ≠ index) →
      recorded.machine.memory.cell index = 0) ∧
    (recorded.machine.memory.lastWritten = none →
      ∀ index, recorded.machine.memory.cell index = 0) := by
  have complete : recorded.machine.memory = Memory.empty.writeAll recorded.journal :=
    isComplete_fresh.performAll performed
  have last : recorded.machine.memory.lastWritten =
      recorded.journal.getLast?.map Datum.address := by
    rw [complete, Memory.lastWritten_writeAll, Memory.empty, Option.or_none]
  have nothing : recorded.machine.memory.lastWritten = none ↔ recorded.journal = [] := by
    rw [last, Option.map_eq_none_iff, List.getLast?_eq_none_iff]
  have zero : ∀ index, (∀ datum ∈ recorded.journal, datum.address ≠ index) →
      recorded.machine.memory.cell index = 0 := by
    intro index unwritten
    rw [complete, Memory.cell_writeAll_of_unwritten unwritten, Memory.cell_empty]
  refine ⟨recorded.machine.code.size_le, last, nothing, complete, zero, ?_⟩
  intro none index
  apply zero
  rw [nothing.mp none]
  exact List.forall_mem_nil _

/-- A text that fails to load on its last line leaves a program that copies two
cells upwards over themselves; the calls before it are cleared away. -/
theorem memory_tracks_writes_copy :
    let executable := "1D 0\n-1\n0 A\n1 B\n2 2\nA 7\nA oops\n".toList
    let calls : List Call := [.setData 511 9, .setData 512 9, .clear, .load executable,
      .pushCode ⟨Opcode.halt.code, 0⟩, .run 2, .step]
    ∃ recorded, fresh.performAll calls = some recorded ∧
      recorded.journal.map (fun datum => datum.address.val) = [0, 1, 2, 10, 12, 11] ∧
      recorded.machine.code.size ≤ codeMax ∧
      recorded.machine.memory.lastWritten = some ⟨11, by decide⟩ ∧
      recorded.machine.memory.cell ⟨511, by decide⟩ = 0 := by
  intro executable calls
  let first : List Call := [.setData 511 9, .setData 512 9, .clear, .load executable,
    .pushCode ⟨Opcode.halt.code, 0⟩]
  let start : Recorded := (fresh.performAll first).get (by decide +kernel)
  have started : fresh.performAll first = some start := (Option.some_get _).symm
  let applied := Machine.conclude (Operation.copy.apply 0 start.machine)
  let copied : Machine := applied.2
  let last : Machine := copied.halt
  have goesOn : applied.1 = .ok .running := by decide +kernel
  have active : start.machine.halted = false := by decide +kernel
  have copyFetched : start.machine.code.fetch start.machine.registers.programCounter =
      .ok ⟨Opcode.copy.code, 0⟩ := by decide +kernel
  have stillActive : copied.halted = false := by decide +kernel
  have haltFetched : copied.code.fetch copied.registers.programCounter =
      .ok ⟨Opcode.halt.code, 0⟩ := by decide +kernel
  have copies : start.machine.step = (.ok .running, copied) := by
    rw [Machine.step_of_perform .copy 0 active copyFetched rfl, ← goesOn]
  have halts : copied.step = (.ok .halted, last) := by
    rw [Machine.step_of_perform .halt 0 stillActive haltFetched rfl]
    rfl
  have refuses : last.step = (.error .halted, last) := Machine.step_of_halted rfl
  have ran : start.machine.run 2 = some (.ok 2, last) := by
    simp only [Machine.run, Machine.runCounting, copies, halts]
  have writes : start.machine.runWrites 2 = [⟨⟨12, by decide⟩, 0⟩, ⟨⟨11, by decide⟩, 7⟩] := by
    rw [Machine.runWrites_succ_of_running copies,
      Machine.runWrites_succ_of_stopped halts Machine.halted_ne_running,
      Machine.stepWrites_of_perform .copy 0 active copyFetched rfl,
      Machine.stepWrites_of_perform .halt 0 stillActive haltFetched rfl]
    decide +kernel
  have nothing : last.stepWrites = [] := rfl
  have performed : fresh.performAll calls =
      some ⟨last, start.journal ++ start.machine.runWrites 2 ++ last.stepWrites⟩ := by
    have split : calls = first ++ [Call.run 2, Call.step] := rfl
    have runs : start.perform (.run 2) =
        some ⟨last, start.journal ++ start.machine.runWrites 2⟩ := by
      rw [perform, Call.perform, ran]
      rfl
    rw [split, performAll_append, started, Option.bind_some, performAll_cons, runs,
      Option.bind_some, performAll_cons, perform, Call.perform, refuses]
    rfl
  obtain ⟨small, marked, -, -, zero, -⟩ := memory_tracks_writes performed
  rw [writes, nothing, List.append_nil] at performed marked zero
  refine ⟨_, performed, by decide +kernel, small, ?_, ?_⟩
  · rw [marked]
    decide +kernel
  · apply zero
    decide +kernel

end Recorded
end AccumulatorMachine
