import AccumulatorMachine.CommandLine.Perform
import AccumulatorMachine.Session.Styling

/-!
# The program

The command line at work: files are read and written, lines are printed, and a
session answers as lines are typed.
-/

namespace AccumulatorMachine
namespace CommandLine

/-- How the program is used. -/
def usage : String :=
  "usage: machine [-v] [-C] assemble INPUT [-o OUTPUT]\n" ++
    "       machine [-v] [-C] run INPUT [-i] [-m STEPS]\n" ++
    "       machine [-v] [-C] dump INPUT"

/-- The number of a system error, which may come with a minus sign. -/
def errorNumber (code : UInt32) : Nat :=
  min code.toNat (0 - code).toNat

/-- The fault behind an error of the system. -/
def faultOf (error : IO.Error) : FileFault :=
  match error with
  | .noFileOrDirectory .. => .notFound
  | .inappropriateType _ code details =>
      match errorNumber code with
      | 20 => .notADirectory
      | 21 => .isADirectory
      | number => .other (details ++ " (os error " ++ Nat.repr number ++ ")")
  | .permissionDenied _ code details =>
      .other (details ++ " (os error " ++ Nat.repr (errorNumber code) ++ ")")
  | other => .other (toString other)

/-- Do something that may fail in the system. -/
def attempt {α : Type} (action : IO α) : IO (Except FileFault α) := do
  try
    return .ok (← action)
  catch error =>
    return .error (faultOf error)

/-- Read the text in a file. -/
def readFile (path : Path) : IO (Except FileFault Text) := do
  return (← attempt (IO.FS.readBinFile path.shown)) >>= Files.decode

/-- Write a text in a file. -/
def writeFile (path : Path) (text : Text) : IO (Except FileFault Unit) :=
  attempt (IO.FS.writeFile path.shown (String.ofList text))

/-- Print events as far as the log shows them. -/
def display (verbosity : Log.Verbosity) (events : List Event) : IO Unit := do
  let outputs := events.flatMap Event.outputs
  for line in complaintLines outputs do
    IO.eprintln line
  for line in outputLines verbosity outputs do
    IO.println line
  (← IO.getStdout).flush

/-- Print a report and give the status it leaves. -/
def conclude {α : Type} (verbosity : Log.Verbosity) (report : Report α) : IO UInt32 := do
  display verbosity report.told
  return (report.status fun _ => 0).toUInt32

/-- Ask for an answer with larger and larger bounds. -/
partial def patiently {α : Type} (bound : Nat) (answer : Nat → Option α) : IO α :=
  match answer bound with
  | some value => return value
  | none => patiently (2 * bound) answer

/-- The bound that is tried first. -/
def firstBound : Nat := 1000

/-- The next line typed, empty at the end. -/
def nextLine : IO Text := do
  let input ← IO.getStdin
  if ← input.isTty then
    IO.print (Session.styledPrompt ">> ")
    (← IO.getStdout).flush
  try
    return (← input.getLine).toList
  catch _ =>
    return []

/-- Hold a session with what is typed, given the start of an input that is still
open. -/
partial def converse (program : ProgramFile) (verbosity : Log.Verbosity)
    (session : Session) (start : Text) : IO Session.Ending := do
  let line ← nextLine
  if line.isEmpty then
    return .interrupted .endOfText
  else
    match Session.readTyped (start ++ line) with
    | .torn => return .interrupted .tornLine
    | .quoteOpen longer => converse program verbosity session longer
    | .complete input =>
        let turn ← patiently firstBound fun bound =>
          session.enter ⟨program, verbosity, bound⟩ input
        display verbosity (turn.events.map .answered)
        if turn.isOver then return .left
        else converse program verbosity turn.session []

/-- Perform a task. -/
def Invocation.execute (invocation : Invocation) : IO UInt32 := do
  let verbosity := invocation.verbosity
  match invocation.task with
  | .assemble input output =>
      let content ← readFile input
      let target := outputPath input output
      let left ← match (assembleFile (fun _ => content) input).result with
        | .ok executable => writeFile target executable
        | .error _ => pure (.ok ())
      conclude verbosity (assembleTo (fun _ => content) (fun _ _ => left) input target)
  | .run input (some limit) =>
      let content ← readFile input
      conclude verbosity (prepare (fun _ => content) input >>= fun prepared =>
        runLimited verbosity limit prepared.2)
  | .run input none =>
      let content ← readFile input
      conclude verbosity (← patiently firstBound fun bound =>
        continueWith (prepare (fun _ => content) input) fun prepared =>
          runUnlimited verbosity bound prepared.2)
  | .examine input =>
      let content ← readFile input
      let report := prepare (fun _ => content) input
      let status ← conclude verbosity report
      match report.result with
      | .ok (program, machine) =>
          display verbosity [.answered (.opened program.path)]
          let ending ← converse program verbosity (.start machine) []
          display verbosity (ending.events.map .answered)
          return (endingStatus ending).toUInt32
      | .error _ => return status
  | .dump input =>
      let content ← readFile input
      conclude verbosity (prepare (fun _ => content) input >>= fun prepared =>
        .tell (prepared.2.listing.map .listed))

end CommandLine
end AccumulatorMachine

/-- Perform the task that the arguments name. -/
def main (arguments : List String) : IO UInt32 := do
  match AccumulatorMachine.CommandLine.readArguments (arguments.map String.toList) with
  | some invocation => invocation.execute
  | none =>
      IO.eprintln AccumulatorMachine.CommandLine.usage
      return 2
