import AccumulatorMachine.Session.Basic

/-!
# Commands carried out

Each command has a function that answers it.  A session whose machine is halted
refuses to step and to resume, and all other commands are carried out at any
time.  A run to the next breakpoint need not end; it is bounded, and there is no
answer when the bound is reached first.
-/

namespace AccumulatorMachine
namespace Session

/-- A session after its machine ran.  Listing starts at the program counter
again. -/
def withRun (session : Session) (machine : Machine) : Session :=
  { session with machine, listPosition := none }

/-- How the end of a run is told: where the machine stands now, or why it
stopped. -/
def endEvents (session : Session) : Except StepError Status → List Event
  | .ok .running => [.code session.currentLine]
  | .ok .halted => [.halted]
  | .error error => [.stopped error]

/-- Step a number of times, or until a step does not leave the machine running,
after steps with the notes `sofar`. -/
def stepFrom (verbosity : Log.Verbosity) (sofar : Array Note) : Nat → Session → Turn
  | 0, session => session.tell (sofar.toList.map .noted ++ [.code session.currentLine])
  | count + 1, session =>
      let noted := sofar ++ session.machine.shownNotes verbosity
      match session.machine.step with
      | (.ok .running, next) => stepFrom verbosity noted count { session with machine := next }
      | (stopped, last) =>
          let ended := { session with machine := last }
          ended.tell (noted.toList.map .noted ++ ended.endEvents stopped)

/-- Step a number of times.  Listing starts at the program counter again. -/
def step (conditions : Conditions) (session : Session) (count : Nat) : Turn :=
  { session with listPosition := none }.stepFrom conditions.verbosity #[] count

/-- Stepping leaves the machine that a run with a limit leaves, and the end of it is
told as the end of that run. -/
theorem stepFrom_eq (verbosity : Log.Verbosity) (sofar : Array Note) (count : Nat)
    (session : Session) :
    session.stepFrom verbosity sofar count =
      let ended := { session with machine := (session.machine.runFor count).2 }
      let notes := session.machine.narrateFrom verbosity (fun _ => false) sofar count
      ended.tell (notes.toList.map .noted ++
        ended.endEvents (session.machine.runFor count).1) := by
  -- The loop, the run and the notes of the run take the same steps.
  induction count generalizing sofar session with
  | zero => rfl
  | succ count inductionHypothesis =>
      rw [stepFrom, Machine.runFor, Machine.narrateFrom]
      rcases session.machine.step with ⟨error | _ | _, next⟩
      · rfl
      · exact inductionHypothesis _ { session with machine := next }
      · rfl

theorem step_eq (conditions : Conditions) (session : Session) (count : Nat) :
    session.step conditions count =
      let ended := session.withRun (session.machine.runFor count).2
      let notes := session.machine.narrate conditions.verbosity (fun _ => false) count
      ended.tell (notes.map .noted ++ ended.endEvents (session.machine.runFor count).1) :=
  stepFrom_eq conditions.verbosity #[] count { session with listPosition := none }

/-- The breakpoint that ended a run, if one did. -/
def breakpointEvents (session : Session) : Except StepError Status → List Event
  | .ok .running => [.reachedBreakpoint session.programCounter]
  | _ => []

/-- Run to the next breakpoint or to the end of the program. -/
def resume (conditions : Conditions) (session : Session) : Option Turn :=
  let watched := session.breakpoints.contains
  (session.machine.resume watched conditions.bound).map fun (result, machine) =>
    let notes := session.machine.narrate conditions.verbosity watched conditions.bound
    let next := session.withRun machine
    next.tell (notes.map .noted ++ next.breakpointEvents result ++ next.endEvents result)

/-- The cells at a number of addresses, up to the first that is invalid.  The
first of them is some distance after an address. -/
def cellEvents (memory : Memory) (address : Word) : Nat → Nat → List Event
  | _, 0 => []
  | distance, count + 1 =>
      let place := Word.saturatingAdd address (Int32.ofNat distance)
      match memory.read place with
      | .ok value =>
          .cell place value (Memory.index? place == memory.lastWritten) ::
            cellEvents memory address (distance + 1) count
      | .error error => [.invalidAddress error]

/-- Show some cells of the memory. -/
def showMemory (session : Session) (address count : Word) : Turn :=
  session.tell (cellEvents session.machine.memory address 0 count.toInt.toNat)

/-- Write a cell of the memory. -/
def setMemory (session : Session) (address value : Word) : Turn :=
  match session.machine.setData address value with
  | .ok machine => { session with machine }.tell [.setting address value]
  | .error error => session.tell [.setting address value, .invalidAddress error]

/-- Where listing goes on. -/
def listStart (session : Session) : Word :=
  session.listPosition.getD session.programCounter

/-- List some positions of the code and go on after them the next time.  A
negative number lists nothing and goes back. -/
def list (session : Session) (count : Word) : Turn :=
  let start := session.listStart
  let lines := (List.range count.toInt.toNat).map fun distance =>
    session.codeLine (Word.saturatingAdd start (Int32.ofNat distance))
  { session with listPosition := some (Word.saturatingAdd start count) }.tell
    (lines.map .code)

/-- Set a breakpoint. -/
def addBreakpoint (session : Session) (address : Word) : Turn :=
  if session.breakpoints.contains address then
    session.tell [.breakpointKept address]
  else
    { session with breakpoints := session.breakpoints.insert address }.tell
      [.breakpointSet address]

/-- Remove a breakpoint. -/
def removeBreakpoint (session : Session) (address : Word) : Turn :=
  if session.breakpoints.contains address then
    { session with breakpoints := session.breakpoints.erase address }.tell
      [.breakpointRemoved address]
  else
    session.tell [.breakpointMissing address]

/-- All breakpoints in the order of their addresses. -/
def breakpointLines (session : Session) : List Event :=
  .breakpointCount session.breakpoints.addresses.length ::
    session.breakpoints.addresses.map fun address => .code (session.codeLine address)

/-- Tell about the breakpoints, and unless only these were asked for, about the
machine. -/
def inform (session : Session) : Option Topic → Turn
  | some .breakpoints => session.tell session.breakpointLines
  | none =>
      session.tell (session.breakpointLines ++
        [.separator,
          .overview session.machine.registers session.machine.code.size
            session.machine.halted])

/-- Clear the machine and load the program in it again. -/
def reload (conditions : Conditions) (session : Session) : Turn :=
  let (result, loading) := conditions.file.reload session.machine
  let events := (conditions.file.reloadEvents session.machine).map Event.loading
  let next := session.withRun loading.machine
  match result with
  | .ok () => next.tell (events ++ [.reloaded])
  | .error _ => next.tell events

/-- Clear the machine. -/
def clear (session : Session) : Turn :=
  (session.withRun session.machine.clear).tell [.clearing, .cleared]

/-- Carry out a command. -/
def execute (conditions : Conditions) (session : Session) : Command → Option Turn
  | .step count =>
      if session.machine.halted then some (session.tell [.haltedBefore])
      else some (session.step conditions count)
  | .resume =>
      if session.machine.halted then some (session.tell [.haltedBefore])
      else session.resume conditions
  | .registers => some (session.tell [.registers session.machine.registers])
  | .memory address count => some (session.showMemory address count)
  | .set address value => some (session.setMemory address value)
  | .list count => some (session.list count)
  | .addBreakpoint address => some (session.addBreakpoint address)
  | .removeBreakpoint address => some (session.removeBreakpoint address)
  | .info topic => some (session.inform topic)
  | .reload => some (session.reload conditions)
  | .clear => some session.clear
  | .exit => some ⟨[], session, true⟩

end Session
end AccumulatorMachine
