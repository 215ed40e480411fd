import AccumulatorMachine.Proofs.MemoryContents
import AccumulatorMachine.Session.Dialogue

/-!
# Frames of session commands

An input asks for a command, or it is not understood and changes nothing.  What a
command may change can be told from the command, and for those that run the
machine from whether it is halted.
-/

namespace AccumulatorMachine
namespace Session

/-! ## What an input asks for -/

/-- An input asks for a command: its words denote the command, or it is blank and
the command is the one understood last. -/
inductive Asks (session : Session) (input : Text) (command : Command) : Prop
  | words {words : List Text} :
      Text.isBlankText input = false →
        Text.shellWords? input = some words →
        readCommand words = .ok command →
        Asks session input command
  | again :
      Text.isBlankText input = true →
        session.lastCommand = some command →
        Asks session input command

/-- An input asks for no command: it does not split in words, its words are
refused, or it is blank and no command was understood before. -/
inductive AsksNothing (session : Session) (input : Text) : Prop
  | unfinished :
      Text.isBlankText input = false →
        Text.shellWords? input = none →
        AsksNothing session input
  | rejected {words : List Text} {rejection : Rejection} :
      Text.isBlankText input = false →
        Text.shellWords? input = some words →
        readCommand words = .error rejection →
        AsksNothing session input
  | nothingToRepeat :
      Text.isBlankText input = true →
        session.lastCommand = none →
        AsksNothing session input

/-- A session that remembers a command. -/
def remember (session : Session) (command : Command) : Session :=
  { session with lastCommand := some command }

section Inputs

variable {session : Session} {input : Text} {command : Command}

/-- An input asks for a command or for nothing. -/
theorem asks_or_asksNothing (session : Session) (input : Text) :
    (∃ command, session.Asks input command) ∨ session.AsksNothing input := by
  cases blank : Text.isBlankText input with
  | true =>
      cases last : session.lastCommand with
      | some command => exact Or.inl ⟨command, .again blank last⟩
      | none => exact Or.inr (.nothingToRepeat blank last)
  | false =>
      cases split : Text.shellWords? input with
      | none => exact Or.inr (.unfinished blank split)
      | some words =>
          cases read : readCommand words with
          | ok command => exact Or.inl ⟨command, .words blank split read⟩
          | error rejection => exact Or.inr (.rejected blank split read)

/-- An input that asks for a command is answered by carrying it out. -/
theorem enter_of_asks (conditions : Conditions) (asks : session.Asks input command) :
    session.enter conditions input =
      (session.remember command).perform conditions command := by
  cases asks with
  | words blank split read =>
      rw [enter, readInput, blank, if_neg Bool.false_ne_true, split]
      simp only [read]
      rfl
  | again blank last =>
      -- The command asked for again is the one that is remembered already.
      have same : session.remember command = session := by
        rw [remember, ← last]
      rw [enter, readInput, if_pos blank, answer, last, same]

/-- An input that is a command is remembered and carried out. -/
theorem enter_of_readInput (conditions : Conditions) (session : Session)
    (understood : readInput input = .command command) :
    session.enter conditions input =
      (session.remember command).perform conditions command := by
  rw [enter, understood]
  rfl

/-- An input that asks for nothing changes nothing. -/
theorem exists_enter_of_asksNothing (conditions : Conditions)
    (asksNothing : session.AsksNothing input) :
    ∃ events, session.enter conditions input = some ⟨events, session, false⟩ := by
  cases asksNothing with
  | unfinished blank split =>
      rw [enter, readInput, blank, if_neg Bool.false_ne_true, split]
      exact ⟨_, rfl⟩
  | rejected blank split read =>
      rw [enter, readInput, blank, if_neg Bool.false_ne_true, split]
      simp only [read]
      exact ⟨_, rfl⟩
  | nothingToRepeat blank last =>
      rw [enter, readInput, if_pos blank, answer, last]
      exact ⟨_, rfl⟩

/-- The session after an input is the one that its command leaves. -/
theorem enter_eq_some_iff {conditions : Conditions} (asks : session.Asks input command)
    {turn : Turn} :
    session.enter conditions input = some turn ↔
      ∃ executed, (session.remember command).execute conditions command = some executed ∧
        executed.after [.executing command] = turn := by
  rw [enter_of_asks conditions asks, perform, Option.map_eq_some_iff]

end Inputs

/-! ## Several inputs -/

/-- The session that the last of some turns leaves. -/
def afterTurns (session : Session) : List Turn → Session
  | [] => session
  | turn :: rest => turn.session.afterTurns rest

section Turns

variable {conditions : Conditions} {session : Session} {turns : List Turn}

theorem turns_cons {input : Text} {turn : Turn}
    (entered : session.enter conditions input = some turn) (goesOn : turn.isOver = false)
    (rest : List Text) :
    session.turns conditions (input :: rest) =
      (turn.session.turns conditions rest).map (turn :: ·) := by
  simp only [Session.turns, entered, goesOn, Bool.false_eq_true, if_false]

theorem turns_singleton {input : Text} {turn : Turn}
    (entered : session.enter conditions input = some turn) :
    session.turns conditions [input] = some [turn] := by
  simp [Session.turns, entered]

/-- The first input is answered, and the others too unless the session is over. -/
theorem exists_of_turns_cons {input : Text} {rest : List Text}
    (answered : session.turns conditions (input :: rest) = some turns) :
    ∃ turn, session.enter conditions input = some turn ∧
      ((turn.isOver = true ∧ turns = [turn]) ∨
        (turn.isOver = false ∧
          ∃ later, turn.session.turns conditions rest = some later ∧ turns = turn :: later)) := by
  cases entered : session.enter conditions input with
  | none =>
      simp only [Session.turns, entered] at answered
      cases answered
  | some turn =>
      refine ⟨turn, rfl, ?_⟩
      cases isOver : turn.isOver with
      | true =>
          simp only [Session.turns, entered, isOver, if_true] at answered
          exact Or.inl ⟨rfl, (Option.some.inj answered).symm⟩
      | false =>
          rw [turns_cons entered isOver] at answered
          obtain ⟨later, answeredRest, rfl⟩ := Option.map_eq_some_iff.mp answered
          exact Or.inr ⟨rfl, later, answeredRest, rfl⟩

/-- More inputs are answered by the session that the turns before them leave, unless one
of these is over. -/
theorem turns_append {first : List Text} (answered : session.turns conditions first = some turns)
    (goOn : ∀ turn ∈ turns, turn.isOver = false) (second : List Text) :
    session.turns conditions (first ++ second) =
      ((session.afterTurns turns).turns conditions second).map (turns ++ ·) := by
  induction first generalizing session turns with
  | nil =>
      cases answered
      exact Option.map_id'.symm
  | cons input rest inductionHypothesis =>
      obtain ⟨turn, entered, ⟨isOver, rfl⟩ | ⟨-, later, answeredRest, rfl⟩⟩ :=
        exists_of_turns_cons answered
      · rw [goOn turn List.mem_cons_self] at isOver
        cases isOver
      · obtain ⟨goesOn, othersGoOn⟩ := List.forall_mem_cons.mp goOn
        rw [List.cons_append, turns_cons entered goesOn,
          inductionHypothesis answeredRest othersGoOn, Option.map_map, afterTurns]
        rfl

end Turns

/-! ## Commands -/

/-- The command shows something or changes what is shown, but not the machine. -/
def Command.examines : Command → Bool
  | registers | memory _ _ | list _ | addBreakpoint _ | removeBreakpoint _ | info _ => true
  | _ => false

/-- The command runs the machine. -/
def Command.runs : Command → Bool
  | step _ | resume => true
  | _ => false

/-- The command runs the machine or clears it, with or without its program. -/
def Command.controls : Command → Bool
  | step _ | resume | reload | clear => true
  | _ => false

/-- The command sets or removes a breakpoint. -/
def Command.marks : Command → Bool
  | addBreakpoint _ | removeBreakpoint _ => true
  | _ => false

section Commands

variable {conditions : Conditions} {session : Session} {command : Command} {turn : Turn}

/-- Setting a breakpoint changes the breakpoints only, and it is told whether there was one
at the address already. -/
theorem execute_addBreakpoint {address : Word}
    (executed : session.execute conditions (.addBreakpoint address) = some turn) :
    ∃ breakpoints, turn = { session with breakpoints }.tell
        [if session.breakpoints.contains address then .breakpointKept address
          else .breakpointSet address] ∧
      ∀ other, breakpoints.contains other =
        (other == address || session.breakpoints.contains other) := by
  simp only [execute, addBreakpoint] at executed
  split at executed
  next held =>
    cases executed
    refine ⟨session.breakpoints, by rw [if_pos held], fun other => ?_⟩
    cases same : other == address with
    | true =>
        rw [beq_iff_eq.mp same, Bool.true_or]
        exact held
    | false => rfl
  next missing =>
    cases executed
    exact ⟨_, by rw [if_neg missing], session.breakpoints.contains_insert address⟩

/-- Removing a breakpoint changes the breakpoints only, and it is told whether there was one
at the address. -/
theorem execute_removeBreakpoint {address : Word}
    (executed : session.execute conditions (.removeBreakpoint address) = some turn) :
    ∃ breakpoints, turn = { session with breakpoints }.tell
        [if session.breakpoints.contains address then .breakpointRemoved address
          else .breakpointMissing address] ∧
      ∀ other, breakpoints.contains other =
        (other != address && session.breakpoints.contains other) := by
  simp only [execute, removeBreakpoint] at executed
  split at executed
  next held =>
    cases executed
    exact ⟨_, by rw [if_pos held], session.breakpoints.contains_erase address⟩
  next missing =>
    cases executed
    refine ⟨session.breakpoints, by rw [if_neg missing], fun other => ?_⟩
    cases same : other == address with
    | true =>
        rw [beq_iff_eq.mp same, bne_self_eq_false, Bool.false_and]
        exact eq_false_of_ne_true missing
    | false =>
        rw [bne, same]
        rfl

/-- Examining changes at most the breakpoints and where listing goes on. -/
theorem session_of_examines (examines : command.examines = true)
    (executed : session.execute conditions command = some turn) :
    turn.session = { session with
      breakpoints := turn.session.breakpoints
      listPosition := turn.session.listPosition } := by
  cases command with
  | addBreakpoint address =>
      obtain ⟨_, rfl, -⟩ := execute_addBreakpoint executed
      rfl
  | removeBreakpoint address =>
      obtain ⟨_, rfl, -⟩ := execute_removeBreakpoint executed
      rfl
  | info topic =>
      cases topic with
      | none =>
          cases executed
          rfl
      | some topic =>
          cases executed
          rfl
  | registers | memory | list =>
      cases executed
      rfl
  | step | resume | set | reload | clear | exit => cases examines

/-- Examining leaves the machine alone. -/
theorem machine_of_examines (examines : command.examines = true)
    (executed : session.execute conditions command = some turn) :
    turn.session.machine = session.machine := by
  rw [session_of_examines examines executed]

theorem execute_set_of_write (conditions : Conditions) (session : Session)
    {address value : Word} {memory : Memory}
    (written : session.machine.memory.write address value = .ok memory) :
    session.execute conditions (.set address value) = some
      ({ session with machine := { session.machine with memory } }.tell
        [.setting address value]) := by
  simp only [execute, setMemory, Machine.setData, written, Except.map]

theorem execute_set_of_outside (conditions : Conditions) (session : Session)
    {address : Word} (value : Word) (outside : ¬Memory.IsAddress address.toInt) :
    session.execute conditions (.set address value) =
      some (session.tell [.setting address value, .invalidAddress ⟨address⟩]) := by
  have refused := session.machine.memory.write_eq_error_of_outside value outside
  simp only [execute, setMemory, Machine.setData, refused, Except.map]

/-- Setting a cell changes at most that cell and which cell was written last. -/
theorem session_of_set {address value : Word}
    (executed : session.execute conditions (.set address value) = some turn) :
    turn.session = { session with
      machine := { session.machine with memory := turn.session.machine.memory } } ∧
    (∀ other : Int, other ≠ address.toInt →
      turn.session.machine.memory.contents other = session.machine.memory.contents other) ∧
    (¬Memory.IsAddress address.toInt → turn.session = session) := by
  by_cases inside : Memory.IsAddress address.toInt
  · obtain ⟨written, succeeds, -, contents⟩ :=
      session.machine.memory.exists_write value inside
    rw [execute_set_of_write conditions session succeeds] at executed
    cases executed
    refine ⟨rfl, fun other different => ?_, fun outside => absurd inside outside⟩
    exact (contents other).trans (if_neg different)
  · rw [execute_set_of_outside conditions session value inside] at executed
    cases executed
    exact ⟨rfl, fun _ _ => rfl, fun _ => rfl⟩

/-- Carrying out a command does not change what is remembered, and only setting or removing
a breakpoint changes the breakpoints. -/
theorem kept_of_execute (executed : session.execute conditions command = some turn) :
    turn.session.lastCommand = session.lastCommand ∧
    (command.marks = false → turn.session.breakpoints = session.breakpoints) := by
  cases command with
  | step count =>
      simp only [execute, step_eq] at executed
      split at executed
      · cases executed
        exact ⟨rfl, fun _ => rfl⟩
      · cases executed
        exact ⟨rfl, fun _ => rfl⟩
  | resume =>
      simp only [execute] at executed
      split at executed
      · cases executed
        exact ⟨rfl, fun _ => rfl⟩
      · obtain ⟨outcome, -, rfl⟩ := Option.map_eq_some_iff.mp executed
        exact ⟨rfl, fun _ => rfl⟩
  | set address value =>
      rw [(session_of_set executed).1]
      exact ⟨rfl, fun _ => rfl⟩
  | reload =>
      simp only [execute, reload] at executed
      split at executed
      · cases executed
        exact ⟨rfl, fun _ => rfl⟩
      · cases executed
        exact ⟨rfl, fun _ => rfl⟩
  | info topic =>
      rw [session_of_examines rfl executed]
      cases topic with
      | none | some =>
          cases executed
          exact ⟨rfl, fun _ => rfl⟩
  | addBreakpoint | removeBreakpoint =>
      rw [session_of_examines rfl executed]
      exact ⟨rfl, fun marks => Bool.noConfusion marks⟩
  | registers | memory | list | clear | exit =>
      cases executed
      exact ⟨rfl, fun _ => rfl⟩

/-- A halted machine is not run, and the session stays as it is. -/
theorem execute_of_halted (runs : command.runs = true)
    (halted : session.machine.halted = true) :
    session.execute conditions command = some (session.tell [.haltedBefore]) := by
  cases command with
  | step count => rw [execute, if_pos halted]
  | resume => rw [execute, if_pos halted]
  | _ => cases runs

/-- Of all commands, only a run to the next breakpoint may not return. -/
theorem exists_execute (conditions : Conditions)
    (returns : command ≠ .resume ∨ session.machine.halted = true) :
    ∃ turn, session.execute conditions command = some turn := by
  cases command with
  | resume =>
      have halted := returns.resolve_left (absurd rfl)
      exact ⟨_, execute_of_halted rfl halted⟩
  | step count =>
      rw [execute]
      split
      · exact ⟨_, rfl⟩
      · exact ⟨_, rfl⟩
  | _ => exact ⟨_, rfl⟩

theorem exists_enter_of_asks {input : Text} (conditions : Conditions)
    (asks : session.Asks input command)
    (returns : command ≠ .resume ∨ session.machine.halted = true) :
    ∃ turn, session.enter conditions input = some turn := by
  obtain ⟨executed, carriedOut⟩ :
      ∃ executed, (session.remember command).execute conditions command = some executed :=
    exists_execute conditions returns
  exact ⟨_, (enter_eq_some_iff asks).mpr ⟨executed, carriedOut, rfl⟩⟩

/-- Registers, halt mark and code are as before, unless the command runs the
machine or clears it. -/
theorem control_of_execute (keeps : command.controls = false)
    (executed : session.execute conditions command = some turn) :
    turn.session.machine.registers = session.machine.registers ∧
    turn.session.machine.halted = session.machine.halted ∧
    turn.session.machine.code = session.machine.code := by
  cases command with
  | step | resume | reload | clear => cases keeps
  | exit =>
      cases executed
      exact ⟨rfl, rfl, rfl⟩
  | set address value =>
      rw [(session_of_set executed).1]
      exact ⟨rfl, rfl, rfl⟩
  | registers | memory | list | addBreakpoint | removeBreakpoint | info =>
      rw [machine_of_examines rfl executed]
      exact ⟨rfl, rfl, rfl⟩

end Commands

/-- An input that asks for nothing changes nothing, and the session goes on.  Any
other is answered, unless it asks to run a machine that is not halted up to the
next breakpoint.  Commands that examine leave the machine alone; setting a cell
changes at most that cell and which cell was written last, and nothing when there
is no such cell; a halted machine is not run, and the session stays as it is; only
commands that run, reload or clear the machine change its registers, its halt mark
or its code. -/
theorem enter_frame (conditions : Conditions) (session : Session) (input : Text) :
    (session.AsksNothing input →
      ∃ events, session.enter conditions input = some ⟨events, session, false⟩) ∧
    ∀ command, session.Asks input command →
      (command ≠ .resume ∨ session.machine.halted = true →
        ∃ turn, session.enter conditions input = some turn) ∧
      ∀ turn, session.enter conditions input = some turn →
        (command.examines = true → turn.session.machine = session.machine) ∧
        (∀ address value, command = .set address value →
          turn.session = { session.remember command with
            machine := { session.machine with memory := turn.session.machine.memory } } ∧
          (∀ other : Int, other ≠ address.toInt →
            turn.session.machine.memory.contents other =
              session.machine.memory.contents other) ∧
          (¬Memory.IsAddress address.toInt → turn.session = session.remember command)) ∧
        (command.runs = true → session.machine.halted = true →
          turn.session = session.remember command) ∧
        (command.controls = false →
          turn.session.machine.registers = session.machine.registers ∧
          turn.session.machine.halted = session.machine.halted ∧
          turn.session.machine.code = session.machine.code) := by
  refine ⟨exists_enter_of_asksNothing conditions, fun command asks =>
    ⟨exists_enter_of_asks conditions asks, fun turn entered => ?_⟩⟩
  obtain ⟨executed, carriedOut, rfl⟩ := (enter_eq_some_iff asks).mp entered
  refine ⟨?_, ?_, ?_, ?_⟩
  · intro examines
    have same := machine_of_examines examines carriedOut
    exact same
  · rintro address value rfl
    have apart := session_of_set carriedOut
    exact apart
  · intro runs halted
    have refused : (session.remember command).execute conditions command = _ :=
      execute_of_halted runs halted
    rw [carriedOut, Option.some.injEq] at refused
    rw [refused]
    rfl
  · intro keeps
    have same := control_of_execute keeps carriedOut
    exact same

/-- A word that begins no verb, and commands that examine, set and step a halted
machine. -/
theorem enter_frame_halted :
    let conditions : Conditions := ⟨⟨"a", []⟩, .normal, 0⟩
    let session := Session.start Machine.fresh.halt
    session.AsksNothing "lost 3".toList ∧
    (∃ events, session.enter conditions "lost 3".toList = some ⟨events, session, false⟩) ∧
    session.Asks "inf".toList (.info none) ∧
    (∃ turn, session.enter conditions "inf".toList = some turn ∧
      turn.session.machine = session.machine) ∧
    session.Asks "set 1ff 7".toList (.set 511 7) ∧
    (∃ turn, session.enter conditions "set 1ff 7".toList = some turn ∧
      turn.session.machine.halted = true ∧
      turn.session.machine.memory.contents 510 = some 0) ∧
    session.Asks "s 2".toList (.step 2) ∧
    (∃ turn, session.enter conditions "s 2".toList = some turn ∧
      turn.session = session.remember (.step 2)) := by
  intro conditions session
  have refused : session.AsksNothing "lost 3".toList := .rejected rfl rfl rfl
  have examines : session.Asks "inf".toList (.info none) := .words rfl rfl rfl
  have sets : session.Asks "set 1ff 7".toList (.set 511 7) := .words rfl rfl rfl
  have steps : session.Asks "s 2".toList (.step 2) := .words rfl rfl rfl
  have halted : session.machine.halted = true := rfl
  refine ⟨refused, (enter_frame conditions session _).1 refused, examines, ?_, sets, ?_, steps, ?_⟩
  · obtain ⟨answered, frame⟩ := (enter_frame conditions session _).2 _ examines
    obtain ⟨turn, entered⟩ := answered (Or.inr halted)
    exact ⟨turn, entered, (frame turn entered).1 rfl⟩
  · obtain ⟨answered, frame⟩ := (enter_frame conditions session _).2 _ sets
    obtain ⟨turn, entered⟩ := answered (Or.inr halted)
    obtain ⟨-, set, -, control⟩ := frame turn entered
    refine ⟨turn, entered, (control rfl).2.1, ?_⟩
    rw [(set 511 7 rfl).2.1 510 (by decide)]
    decide +kernel
  · obtain ⟨answered, frame⟩ := (enter_frame conditions session _).2 _ steps
    obtain ⟨turn, entered⟩ := answered (Or.inr halted)
    exact ⟨turn, entered, (frame turn entered).2.2.1 rfl halted⟩

end Session
end AccumulatorMachine
