import AccumulatorMachine.CommandLine.Arguments
import AccumulatorMachine.CommandLine.Listing
import AccumulatorMachine.CommandLine.Report
import AccumulatorMachine.Session.Dialogue

/-!
# Tasks performed

Every task reads a program; all but assembling load it in a machine as well.
To be loaded, a file with the extension `pasm` is assembled first, and any other
file is taken for an executable text.
-/

namespace AccumulatorMachine
namespace CommandLine

/-- The extension of source texts. -/
def sourceExtension : Text := "pasm".toList

/-- The extension of executable texts. -/
def executableExtension : Text := "pexe".toList

/-- A way to read the text in a file. -/
abbrev Reader := Path → Except FileFault Text

/-- A way to write a text in a file, with something that it leaves. -/
abbrev Writer (α : Type) := Path → Text → Except FileFault α

/-- The text in a file. -/
def readText (read : Reader) (path : Path) : Report Text :=
  .ofExcept ((read path).mapError (.unreadable path))

/-- What is told about the sections of a source text. -/
def splitEvents (source : Text) : List Event :=
  match Source.sections source with
  | .ok sections => [.split sections.code.length sections.data.length]
  | .error _ => []

/-- Assemble the source text of a file. -/
def assembleText (path : Path) (source : Text) : Report Text :=
  match Source.assemble source with
  | .ok program => ⟨.assembling :: splitEvents source, .ok program.executable⟩
  | .error error =>
      ⟨.assembling :: splitEvents source ++
          [.misassembled error, .diagnosed (.ofAssemblyError path source error)],
        .error (.notAssembled path error)⟩

/-- Assemble a file. -/
def assembleFile (read : Reader) (path : Path) : Report Text := do
  .tell [.readingSource path]
  let source ← readText read path
  assembleText path source

/-- The executable text of a program. -/
def readExecutable (read : Reader) (path : Path) : Report Text := do
  if path.extension? = some sourceExtension then
    assembleFile read path
  else
    .tell [.readingExecutable path]
    readText read path

/-- A program in a file. -/
def readProgram (read : Reader) (path : Path) : Report ProgramFile := do
  let executable ← readExecutable read path
  return ⟨path.shown, executable⟩

/-- Load a program. -/
def loadProgram (path : Path) (program : ProgramFile) : Report Machine :=
  let events := program.loadEvents.map Event.loading
  match program.load with
  | (.ok (), loading) => ⟨events, .ok loading.machine⟩
  | (.error error, _) =>
      ⟨events ++ [.diagnosed (.ofLoadError path program.executable error)],
        .error (.notLoaded path error)⟩

/-- Read a program and load it. -/
def prepare (read : Reader) (path : Path) : Report (ProgramFile × Machine) := do
  let program ← readProgram read path
  let machine ← loadProgram path program
  return (program, machine)

/-- What is told about a machine after a run. -/
def finalEvents (machine : Machine) : List Event :=
  .finished machine.registers ::
    match machine.memory.lastWritten with
    | some address => [.lastWrite address (machine.memory.cell address)]
    | none => []

/-- The notes of a run without breakpoints. -/
def runNotes (verbosity : Log.Verbosity) (span : Log.Span) (bound : Nat)
    (machine : Machine) : List Event :=
  (machine.narrate verbosity (fun _ => false) bound).map (.noted span)

/-- Run a machine for a limited number of steps. -/
def runLimited (verbosity : Log.Verbosity) (limit : Nat) (machine : Machine) :
    Report Unit :=
  let (result, last) := machine.runFor limit
  let events := .running :: runNotes verbosity (.runFor limit) limit machine
  match result with
  | .ok .running => ⟨events ++ .outOfSteps limit :: finalEvents last, .ok ()⟩
  | .ok .halted => ⟨events ++ finalEvents last, .ok ()⟩
  | .error error => ⟨events, .error (.stopped last.registers.programCounter error)⟩

/-- Run a machine until it stops, if it does so within a bound. -/
def runUnlimited (verbosity : Log.Verbosity) (bound : Nat) (machine : Machine) :
    Option (Report Unit) :=
  (machine.run bound).map fun (result, last) =>
    let events := .running :: runNotes verbosity .run bound machine
    match result with
    | .ok steps => ⟨events ++ .halted steps :: finalEvents last, .ok ()⟩
    | .error error => ⟨events, .error (.stopped last.registers.programCounter error)⟩

/-- Go on with the result of a report if it has one, in a way that may not
end. -/
def continueWith {α β : Type} (report : Report α) (next : α → Option (Report β)) :
    Option (Report β) :=
  match report.result with
  | .ok value => (next value).map fun later => ⟨report.events ++ later.events, later.result⟩
  | .error failure => some ⟨report.events, .error failure⟩

/-- Hold a session about a program with what the user types. -/
def examine (verbosity : Log.Verbosity) (bound : Nat) (typed : Text)
    (program : ProgramFile) (machine : Machine) : Option (Report Session.Ending) :=
  (Session.converse ⟨program, verbosity, bound⟩ (.start machine) (.ofText typed)).map
    fun conversation => ⟨conversation.events.map .answered, .ok conversation.ending⟩

/-- Where the executable text of a source file goes. -/
def outputPath (input : Path) (output : Option Path) : Path :=
  output.getD (input.withExtension executableExtension)

/-- Assemble a file and write the executable text. -/
def assembleTo {α : Type} (read : Reader) (write : Writer α) (input output : Path) :
    Report α := do
  let executable ← assembleFile read input
  let left ← .ofExcept ((write output executable).mapError (.unwritable output))
  .tell [.written output]
  return left

/-- The status after a task that failed. -/
def failureStatus : Nat := 1

/-- The status after a session, which is not in order when a torn line broke it
off. -/
def endingStatus : Session.Ending → Nat
  | .interrupted .tornLine => 101
  | .left | .interrupted .endOfText => 0

/-- The status after a task, given that of each result. -/
def Report.status {α : Type} (statusOf : α → Nat) (report : Report α) : Nat :=
  match report.result with
  | .ok value => statusOf value
  | .error _ => failureStatus

/-- What a task leaves: all it told, the files, and the status for whoever asked
for the task. -/
structure Outcome where
  events : List Event
  files : Files
  status : Nat

namespace Outcome

/-- The outcome of a task that leaves the files alone. -/
def ofReport {α : Type} (files : Files) (statusOf : α → Nat) (report : Report α) :
    Outcome :=
  ⟨report.told, files, report.status statusOf⟩

/-- All lines that are written. -/
def outputs (outcome : Outcome) : List Output :=
  outcome.events.flatMap Event.outputs

end Outcome

/-- Perform a task on some files, with what the user types.  A run without a
limit takes a bound on its number of steps, and there is no outcome when it does
not end before. -/
def Invocation.perform (invocation : Invocation) (bound : Nat) (files : Files)
    (typed : Text) : Option Outcome :=
  let verbosity := invocation.verbosity
  match invocation.task with
  | .assemble input output =>
      let report := assembleTo files.read files.write input (outputPath input output)
      some ⟨report.told, report.result.toOption.getD files, report.status fun _ => 0⟩
  | .run input (some limit) =>
      some (.ofReport files (fun _ => 0) (prepare files.read input >>= fun prepared =>
        runLimited verbosity limit prepared.2))
  | .run input none =>
      (continueWith (prepare files.read input) fun prepared =>
        runUnlimited verbosity bound prepared.2).map (.ofReport files fun _ => 0)
  | .examine input =>
      (continueWith (prepare files.read input) fun prepared =>
        examine verbosity bound typed prepared.1 prepared.2).map
          (.ofReport files endingStatus)
  | .dump input =>
      some (.ofReport files (fun _ => 0) (prepare files.read input >>= fun prepared =>
        .tell (prepared.2.listing.map .listed)))

/-- The lines of the log and of the result, as far as they are shown. -/
def outputLines (verbosity : Log.Verbosity) (outputs : List Output) : List String :=
  outputs.filterMap fun
    | .record record => record.line? verbosity
    | .result line => some line
    | .complaint _ => none

/-- The lines about what is wrong with a file. -/
def complaintLines (outputs : List Output) : List String :=
  outputs.filterMap fun
    | .complaint line => some line
    | _ => none

end CommandLine
end AccumulatorMachine
