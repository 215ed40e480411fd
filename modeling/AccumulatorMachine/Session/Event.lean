import AccumulatorMachine.Machine.Narration
import AccumulatorMachine.Program.File
import AccumulatorMachine.Session.Grammar

/-!
# Events of a session

What a session tells its user, and how the log shows it.
-/

namespace AccumulatorMachine
namespace Session

/-- One position of the code as the session shows it. -/
structure CodeLine where
  address : Word
  /-- The instruction there, empty where there is none. -/
  instruction : String
  /-- Whether the program counter stands there. -/
  isCurrent : Bool
  hasBreakpoint : Bool
  deriving DecidableEq, Repr

namespace CodeLine

/-- Two columns of marks, for breakpoints and for the program counter. -/
def gutter (line : CodeLine) : String :=
  (if line.hasBreakpoint then "B" else " ") ++ (if line.isCurrent then ">" else " ")

/-- The address in decimal, in five columns if it fits in them. -/
def column (line : CodeLine) : String :=
  String.ofList (List.leftpad 5 ' ' (Decimal.ofWord line.address).toList)

/-- The line as it is shown, with a dash where there is no instruction. -/
def text (line : CodeLine) : String :=
  line.gutter ++ " " ++ line.column ++ "    " ++
    if line.instruction.isEmpty then "–" else line.instruction

end CodeLine

/-- What a session tells its user. -/
inductive Event
  | opened (path : String)
  | helpOffered
  | unfinishedInput
  | rejected (rejection : Rejection)
  | executing (command : Command)
  | noted (note : Note)
  | halted
  | stopped (error : StepError)
  | haltedBefore
  | reachedBreakpoint (address : Word)
  | code (line : CodeLine)
  | registers (contents : Registers)
  | cell (address value : Word) (isLastWritten : Bool)
  | setting (address value : Word)
  | invalidAddress (error : Memory.InvalidAddress)
  | breakpointSet (address : Word)
  | breakpointKept (address : Word)
  | breakpointRemoved (address : Word)
  | breakpointMissing (address : Word)
  | breakpointCount (count : Nat)
  | separator
  | overview (contents : Registers) (instructions : Nat) (isHalted : Bool)
  | loading (event : LoadEvent)
  | reloaded
  | clearing
  | cleared
  | inputEnded
  deriving DecidableEq, Repr

namespace Event

/-- How many breakpoints there are, before they are listed. -/
def countText (count : Nat) : String :=
  if count = 0 then "No breakpoints"
  else if count = 1 then "1 breakpoint:"
  else Nat.repr count ++ " breakpoints:"

/-- The causes of an error, in a field of their own when there are any. -/
def causeFields (causes : List String) : List (String × String) :=
  if causes.isEmpty then [] else
    [("error.sources", "[" ++ String.intercalate ", " causes ++ "]")]

/-- The log record of an event. -/
def record : Event → Log.Record
  | opened path =>
      ⟨.information, [],
        "Running in interactive mode. Type \"help\" to list available commands.",
        [("path", path)]⟩
  | helpOffered =>
      ⟨.information, [], "Type \"help\" to get the list of available commands", []⟩
  | unfinishedInput => ⟨.warning, [], "Invalid input", []⟩
  | rejected rejection => ⟨.warning, [], "", [("error", rejection.message)]⟩
  | executing command => ⟨.debugging, [], "Executing command: " ++ command.text, []⟩
  | noted note => note.record []
  | halted => ⟨.information, [], "Program halted", []⟩
  | stopped error =>
      ⟨.warning, [], "Halted", ("error", error.message) :: causeFields error.causes⟩
  | haltedBefore =>
      ⟨.warning, [],
        "Machine is halted. Use \"reload\" to start again, or \"exit\" to quit", []⟩
  | reachedBreakpoint address =>
      ⟨.information, [], "Stopped at a breakpoint", [("address", Decimal.ofWord address)]⟩
  | code line => ⟨.information, [], line.text, []⟩
  | registers contents => ⟨.information, [], "Registers: " ++ contents.text, []⟩
  | cell address value isLastWritten =>
      ⟨.information, [], "",
        [("address", Hexadecimal.text address), ("value", Hexadecimal.text value),
          ("changed", Log.ofBool isLastWritten)]⟩
  | setting address value =>
      ⟨.information, [],
        "Setting memory at address " ++ Hexadecimal.text address ++ " to " ++
          Hexadecimal.text value, []⟩
  | invalidAddress error => ⟨.warning, [], "", [("error", error.message)]⟩
  | breakpointSet address =>
      ⟨.information, [], "Setting a breakpoint", [("address", Decimal.ofWord address)]⟩
  | breakpointKept address =>
      ⟨.warning, [], "A breakpoint was already set", [("address", Decimal.ofWord address)]⟩
  | breakpointRemoved address =>
      ⟨.information, [], "Removing breakpoint", [("address", Decimal.ofWord address)]⟩
  | breakpointMissing address =>
      ⟨.warning, [], "No breakpoint was set here", [("address", Decimal.ofWord address)]⟩
  | breakpointCount count => ⟨.information, [], countText count, []⟩
  | separator => ⟨.information, [], "–", []⟩
  | overview contents instructions isHalted =>
      ⟨.information, [], "Registers: " ++ contents.text,
        [("instructions", Nat.repr instructions), ("halted", Log.ofBool isHalted)]⟩
  | loading event => event.record
  | reloaded => ⟨.information, [], "Program reloaded", []⟩
  | clearing => LoadEvent.record .clearing
  | cleared => ⟨.information, [], "Machine cleared", []⟩
  | inputEnded => ⟨.information, [], "EOF, exitting", []⟩

end Event
end Session
end AccumulatorMachine
