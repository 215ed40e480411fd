import AccumulatorMachine.Session.Breakpoints
import AccumulatorMachine.Session.Event

/-!
# The state of a session

A session holds the machine under examination, the breakpoints, the place where
listing the code goes on, and the command that a blank line repeats.
-/

namespace AccumulatorMachine

/-- An interactive session. -/
structure Session where
  machine : Machine
  breakpoints : Session.Breakpoints
  /-- The next address to list, unless listing starts at the program counter. -/
  listPosition : Option Word
  /-- The last command that was understood. -/
  lastCommand : Option Session.Command

namespace Session

/-- What stays the same throughout a session. -/
structure Conditions where
  /-- The program that can be loaded again. -/
  file : ProgramFile
  /-- The log for which steps are narrated. -/
  verbosity : Log.Verbosity
  /-- The most steps that a run to the next breakpoint may take. -/
  bound : Nat

/-- A session at its start. -/
def start (machine : Machine) : Session where
  machine := machine
  breakpoints := .empty
  listPosition := none
  lastCommand := none

/-- The answer to one input. -/
structure Turn where
  events : List Event
  session : Session
  /-- Whether the user left. -/
  isOver : Bool

namespace Turn

/-- The turn with events before its own. -/
def after (turn : Turn) (events : List Event) : Turn :=
  { turn with events := events ++ turn.events }

end Turn

/-- Tell something and change nothing. -/
def tell (session : Session) (events : List Event) : Turn :=
  ⟨events, session, false⟩

/-- The position of the program counter in the code. -/
def programCounter (session : Session) : Word :=
  session.machine.registers.programCounter

/-- The text of the instruction at an address, empty where there is none. -/
def instructionText (session : Session) (address : Word) : String :=
  match Code.position? address with
  | some position => session.machine.code.text position
  | none => ""

/-- One position of the code. -/
def codeLine (session : Session) (address : Word) : CodeLine where
  address := address
  instruction := session.instructionText address
  isCurrent := session.programCounter == address
  hasBreakpoint := session.breakpoints.contains address

/-- The position of the code at the program counter. -/
def currentLine (session : Session) : CodeLine :=
  session.codeLine session.programCounter

end Session
end AccumulatorMachine
