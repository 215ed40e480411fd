import AccumulatorMachine.CommandLine.Diagnostic
import AccumulatorMachine.CommandLine.Files
import AccumulatorMachine.Session.Event

/-!
# Events of the command line

What a task tells its user while it is performed, and why it can fail.
-/

namespace AccumulatorMachine
namespace CommandLine

/-- Why a task fails. -/
inductive Failure
  | unreadable (path : Path) (fault : FileFault)
  | unwritable (path : Path) (fault : FileFault)
  | notAssembled (path : Path) (error : AssemblyError)
  | notLoaded (path : Path) (error : LoadError)
  | stopped (programCounter : Word) (error : StepError)
  deriving DecidableEq, Repr

/-- The wording of a failure, with all causes. -/
def Failure.message : Failure → String
  | .unreadable path fault => "could not read " ++ path.shown ++ ": " ++ fault.message
  | .unwritable path fault => "could not write " ++ path.shown ++ ": " ++ fault.message
  | .notAssembled path error => "could not assemble " ++ path.shown ++ ": " ++ error.message
  | .notLoaded path error => "could not load " ++ path.shown ++ ": " ++ error.message
  | .stopped programCounter error =>
      "program stopped at pc = " ++ Decimal.ofWord programCounter ++ ": " ++
        String.intercalate ": " (error.message :: error.causes)

/-- What a task tells its user. -/
inductive Event
  | readingSource (path : Path)
  | readingExecutable (path : Path)
  | assembling
  | split (instructions cells : Nat)
  | misassembled (error : AssemblyError)
  | diagnosed (diagnostic : Diagnostic)
  | written (path : Path)
  | loading (event : LoadEvent)
  | running
  | noted (span : Log.Span) (note : Note)
  | outOfSteps (limit : Nat)
  | halted (steps : Nat)
  | finished (registers : Registers)
  | lastWrite (address : CellIndex) (value : Word)
  | listed (line : String)
  | answered (event : Session.Event)
  | failed (failure : Failure)
  deriving DecidableEq, Repr

/-- A line that a task writes. -/
inductive Output
  /-- A line of the log. -/
  | record (record : Log.Record)
  /-- A line of the result. -/
  | result (line : String)
  /-- A line about what is wrong with a file. -/
  | complaint (line : String)
  deriving DecidableEq, Repr

namespace Event

/-- The lines that tell an event. -/
def outputs : Event → List Output
  | readingSource path =>
      [.record ⟨.information, [], "Reading source program", [("path", path.shown)]⟩]
  | readingExecutable path =>
      [.record ⟨.information, [], "Reading executable", [("path", path.shown)]⟩]
  | assembling => [.record ⟨.debugging, [], "Assembling program", []⟩]
  | split instructions cells =>
      [.record ⟨.debugging, [.assemble], "Split source program",
        [("code", Nat.repr instructions), ("data", Nat.repr cells)]⟩]
  | misassembled error =>
      [.record ⟨.error, [.assemble], "", [("error", error.message)]⟩]
  | diagnosed diagnostic => diagnostic.lines.map .complaint
  | written path =>
      [.record ⟨.information, [], "Executable written", [("path", path.shown)]⟩]
  | loading event => [.record event.record]
  | running => [.record ⟨.information, [], "Running program", []⟩]
  | noted span note => [.record (note.record [span])]
  | outOfSteps limit =>
      [.record ⟨.warning, [], "Program did not halt in time",
        [("max_steps", Nat.repr limit)]⟩]
  | halted steps =>
      [.record ⟨.information, [], "Program halted", [("steps", Nat.repr steps)]⟩]
  | finished registers =>
      [.record ⟨.information, [], "End of program", [("registers", registers.text)]⟩]
  | lastWrite address value =>
      [.record ⟨.information, [], "Last memory write",
        [("address", String.ofList (Nat.toDigits 16 address.val)),
          ("value", Hexadecimal.text value)]⟩]
  | listed line => [.result line]
  | answered event => [.record event.record]
  | failed failure => [.record ⟨.error, [], failure.message, []⟩]

end Event
end CommandLine
end AccumulatorMachine
