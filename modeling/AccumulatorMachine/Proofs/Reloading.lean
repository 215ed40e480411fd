import AccumulatorMachine.Proofs.SessionFrames

/-!
# Reloading

Clearing a machine forgets all that happened to it, so that loading the program
again leaves the machine that the session was started with.  What a session
answers depends on its machine, its breakpoints and the place in its listing, and
for blank inputs on the command it remembers; so a session goes on after reloading
as a new one with the same breakpoints does.
-/

namespace AccumulatorMachine

/-! ## Loading again -/

namespace ProgramFile

/-- Reloading does not depend on the machine. -/
theorem reload_eq_load (file : ProgramFile) (machine : Machine) :
    file.reload machine = file.load := by
  rw [load, reload, reload, machine.clear_eq_fresh, Machine.fresh.clear_eq_fresh]

theorem reloadEvents_eq_loadEvents (file : ProgramFile) (machine : Machine) :
    file.reloadEvents machine = file.loadEvents := by
  rw [loadEvents, reloadEvents, reloadEvents, file.reload_eq_load machine, load]

end ProgramFile

namespace Session

/-- A program that was loaded once is loaded again, whatever became of the
machine. -/
theorem execute_reload {conditions : Conditions} {loading : Loading}
    (loads : conditions.file.load = (.ok (), loading)) (session : Session) :
    session.execute conditions .reload =
      some ⟨[.loading .clearing,
          .loading (.loaded loading.machine.code.size loading.cells), .reloaded],
        session.withRun loading.machine, false⟩ := by
  have events : conditions.file.loadEvents =
      [.clearing, .loaded loading.machine.code.size loading.cells] := by
    rw [ProgramFile.load] at loads
    rw [ProgramFile.loadEvents, ProgramFile.reloadEvents, loads]
  rw [execute, reload, ProgramFile.reload_eq_load, loads,
    ProgramFile.reloadEvents_eq_loadEvents, events]
  rfl

/-! ## What is remembered -/

/-- A session that remembers no command. -/
def forget (session : Session) : Session :=
  { session with lastCommand := none }

/-- A turn after which no command is remembered. -/
def Turn.forget (turn : Turn) : Turn :=
  { turn with session := turn.session.forget }

/-- No blank input comes before the first one that is a command. -/
def needNoMemory : List Text → Bool
  | [] => true
  | input :: rest =>
      match readInput input with
      | .again => false
      | .command _ => true
      | .unfinished | .rejected _ => needNoMemory rest

section Forgetting

variable {conditions : Conditions} {first second : Session} {input : Text}
  {inputs : List Text}

/-- A session that understands a command remembers this one and no other. -/
theorem enter_of_command {command : Command}
    (understood : readInput input = .command command)
    (alike : first.forget = second.forget) :
    first.enter conditions input = second.enter conditions input := by
  have same : first.forget.remember command = second.forget.remember command :=
    congrArg (remember · command) alike
  rw [enter, enter, understood]
  exact congrArg (fun session => session.perform conditions command) same

/-- An input to which every session only tells the same leaves sessions as alike as
they were. -/
theorem turns_congr_of_tell {events : List Event}
    (tells : ∀ session : Session,
      session.enter conditions input = some (session.tell events))
    (alike : first.forget = second.forget)
    (rest : (first.turns conditions inputs).map (List.map Turn.forget) =
      (second.turns conditions inputs).map (List.map Turn.forget)) :
    (first.turns conditions (input :: inputs)).map (List.map Turn.forget) =
      (second.turns conditions (input :: inputs)).map (List.map Turn.forget) := by
  have goesOn (session : Session) :
      (session.turns conditions (input :: inputs)).map (List.map Turn.forget) =
        ((session.turns conditions inputs).map (List.map Turn.forget)).map
          (session.forget.tell events :: ·) := by
    rw [turns, tells, Option.map_map]
    exact Option.map_map _ _ _
  rw [goesOn, goesOn, rest, alike]

/-- Sessions that differ at most in the command they remember answer the same
inputs alike, as long as they are not asked for that command. -/
theorem turns_congr (needless : needNoMemory inputs = true)
    (alike : first.forget = second.forget) :
    (first.turns conditions inputs).map (List.map Turn.forget) =
      (second.turns conditions inputs).map (List.map Turn.forget) := by
  induction inputs with
  | nil => rfl
  | cons input rest inductionHypothesis =>
      rw [needNoMemory] at needless
      cases request : readInput input with
      | again =>
          rw [request] at needless
          cases needless
      | command command =>
          -- From here on both sessions remember this command, so they are the same.
          rw [turns, turns, enter_of_command request alike]
      | unfinished =>
          rw [request] at needless
          have tells (session : Session) :
              session.enter conditions input = some (session.tell [.unfinishedInput]) := by
            rw [enter, request, answer]
          exact turns_congr_of_tell tells alike (inductionHypothesis needless)
      | rejected rejection =>
          rw [request] at needless
          have tells (session : Session) :
              session.enter conditions input =
                some (session.tell [.rejected rejection]) := by
            rw [enter, request, answer]
          exact turns_congr_of_tell tells alike (inductionHypothesis needless)

end Forgetting

/-- Reloading a program that was loaded once succeeds, whatever happened in the
session, and restores its start: the machine is the one that was loaded first and
listing starts at the program counter again, but the breakpoints are kept.  Other
inputs are then answered as in a new session with these breakpoints that remembers
the command to reload, and as in one that remembers none when no blank input asks
for it. -/
theorem reload_restores_start {conditions : Conditions} {loading : Loading}
    (loads : conditions.file.load = (.ok (), loading))
    {session : Session} {input : Text} (asks : session.Asks input .reload) :
    let fresh := { start loading.machine with breakpoints := session.breakpoints }
    ∃ turn, session.enter conditions input = some turn ∧
      turn.events = [.executing .reload, .loading .clearing,
        .loading (.loaded loading.machine.code.size loading.cells), .reloaded] ∧
      turn.isOver = false ∧
      turn.session = fresh.remember .reload ∧
      ∀ inputs, needNoMemory inputs = true →
        (turn.session.turns conditions inputs).map (List.map Turn.forget) =
          (fresh.turns conditions inputs).map (List.map Turn.forget) := by
  intro fresh
  have entered := (enter_eq_some_iff asks).mpr ⟨_, execute_reload loads _, rfl⟩
  exact ⟨_, entered, rfl, rfl, rfl, fun inputs needless => turns_congr needless rfl⟩

/-- A session with a halted machine, a breakpoint and a place in its listing is
reloaded and goes on with a word that begins no verb, two steps and a blank
input. -/
theorem reload_restores_start_halted :
    let conditions : Conditions := ⟨⟨"a", "1F 0\n-1\n3 7\n".toList⟩, .normal, 0⟩
    let loading := conditions.file.load.2
    let session := { start Machine.fresh.halt with
      breakpoints := Breakpoints.empty.insert 7
      listPosition := some 9 }
    let fresh := { start loading.machine with breakpoints := session.breakpoints }
    let inputs := ["lost".toList, "s 2".toList, " ".toList]
    conditions.file.load = (.ok (), loading) ∧
    session.Asks "rel".toList .reload ∧
    needNoMemory inputs = true ∧
    ∃ turn, session.enter conditions "rel".toList = some turn ∧
      turn.session.machine = loading.machine ∧
      turn.session.machine.halted = false ∧
      turn.session.machine.memory.contents 3 = some 7 ∧
      turn.session.breakpoints.contains 7 = true ∧
      turn.session.listPosition = none ∧
      (turn.session.turns conditions inputs).map (List.map Turn.forget) =
        (fresh.turns conditions inputs).map (List.map Turn.forget) := by
  intro conditions loading session fresh inputs
  have loads : conditions.file.load = (.ok (), loading) := Prod.ext rfl rfl
  have asks : session.Asks "rel".toList .reload := .words rfl rfl rfl
  have needless : needNoMemory inputs = true := by decide +kernel
  obtain ⟨turn, entered, -, -, restored, goesOn⟩ := reload_restores_start loads asks
  have running : loading.machine.halted = false := by decide +kernel
  have datum : loading.machine.memory.contents 3 = some 7 := by decide +kernel
  refine ⟨loads, asks, needless, turn, entered, ?_, ?_, ?_, ?_, ?_, goesOn inputs needless⟩
  all_goals rw [restored]
  · rfl
  · exact running
  · exact datum
  · rfl
  · rfl

end Session
end AccumulatorMachine
