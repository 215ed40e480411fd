import AccumulatorMachine.Numeral.Decimal

/-!
# Commands of a session

What a user can ask for while a program is examined interactively.
-/

namespace AccumulatorMachine
namespace Session

/-- What `info` can be asked about. -/
inductive Topic
  | breakpoints
  deriving DecidableEq, Repr

/-- A command with its parameters. -/
inductive Command
  | step (count : Nat)
  | resume
  | registers
  | memory (address count : Word)
  | set (address value : Word)
  | list (count : Word)
  | addBreakpoint (address : Word)
  | removeBreakpoint (address : Word)
  | info (topic : Option Topic)
  | reload
  | clear
  | exit
  deriving DecidableEq, Repr

namespace Command

/-- The name of a command with named parameters, as the log shows them. -/
def withParameters (name : String) (parameters : List (String × String)) : String :=
  name ++ " \x7b " ++
    String.intercalate ", " (parameters.map fun parameter =>
      parameter.1 ++ ": " ++ parameter.2) ++ " \x7d"

/-- A word that is written in hexadecimal. -/
def hexParameter (word : Word) : String :=
  "HexWord(" ++ Decimal.ofWord word ++ ")"

/-- A command as the log shows it. -/
def text : Command → String
  | step count => withParameters "Step" [("number", Nat.repr count)]
  | resume => "Continue"
  | registers => "Registers"
  | memory address count =>
      withParameters "Memory"
        [("address", hexParameter address), ("number", Decimal.ofWord count)]
  | set address value =>
      withParameters "Set" [("address", hexParameter address), ("value", hexParameter value)]
  | list count => withParameters "List" [("number", Decimal.ofWord count)]
  | addBreakpoint address => withParameters "Break" [("address", Decimal.ofWord address)]
  | removeBreakpoint address => withParameters "Unbreak" [("address", Decimal.ofWord address)]
  | info none => withParameters "Info" [("sub", "None")]
  | info (some .breakpoints) => withParameters "Info" [("sub", "Some(Breakpoints)")]
  | reload => "Reload"
  | clear => "Clear"
  | exit => "Exit"

end Command
end Session
end AccumulatorMachine
