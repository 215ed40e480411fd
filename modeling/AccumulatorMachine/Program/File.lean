import AccumulatorMachine.Log.Record
import AccumulatorMachine.Program.Loading

/-!
# Program files

An executable text together with the path it is known by, ready to be loaded in
a machine any number of times.
-/

namespace AccumulatorMachine

/-- An executable text and its path. -/
structure ProgramFile where
  path : String
  executable : Text
  deriving DecidableEq, Repr

/-- What is logged while a program is loaded. -/
inductive LoadEvent
  | clearing
  | loaded (instructions cells : Nat)
  | refused (error : LoadError)
  deriving DecidableEq, Repr

/-- The log record of an event. -/
def LoadEvent.record : LoadEvent → Log.Record
  | .clearing => ⟨.debugging, [], "Clearing machine", []⟩
  | .loaded instructions cells =>
      ⟨.debugging, [.load], "Loaded executable",
        [("instructions", Nat.repr instructions), ("cells", Nat.repr cells)]⟩
  | .refused error => ⟨.error, [.load], "", [("error", error.message)]⟩

namespace ProgramFile

/-- Clear a machine and load the program in it. -/
def reload (file : ProgramFile) (machine : Machine) : Except LoadError Unit × Loading :=
  machine.clear.beginLoading.addLines 1 (Text.lines file.executable)

/-- What is logged about clearing a machine and loading the program in it. -/
def reloadEvents (file : ProgramFile) (machine : Machine) : List LoadEvent :=
  match file.reload machine with
  | (.ok (), loading) => [.clearing, .loaded loading.machine.code.size loading.cells]
  | (.error error, _) => [.clearing, .refused error]

/-- Load the program in a fresh machine. -/
def load (file : ProgramFile) : Except LoadError Unit × Loading :=
  file.reload .fresh

/-- What is logged about loading the program. -/
def loadEvents (file : ProgramFile) : List LoadEvent :=
  file.reloadEvents .fresh

end ProgramFile
end AccumulatorMachine
