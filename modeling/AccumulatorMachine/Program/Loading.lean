import AccumulatorMachine.Machine.Basic
import AccumulatorMachine.Program.Basic
import AccumulatorMachine.Text.Line

/-!
# Loading

An executable text is loaded line by line.  Lines of two numbers are
instructions up to the first line that starts with the sentinel, whatever
follows it there, and initial values of cells after it.  Loading adds to what
the machine holds and stops at the first faulty line without undoing anything.
-/

namespace AccumulatorMachine

/-- What can be wrong with a line of an executable text. -/
inductive LoadFault
  | wrongTokenCount (found : Nat)
  | invalidNumber (error : Hexadecimal.Invalid)
  | codeFull (refusal : Code.Refusal)
  | invalidAddress (error : Memory.InvalidAddress)
  deriving DecidableEq, Repr

namespace LoadFault

/-- The wording of a fault. -/
def message : LoadFault → String
  | wrongTokenCount found => "expected 2 numbers, found " ++ Nat.repr found
  | invalidNumber _ => "invalid number"
  | codeFull _ => "could not add instruction"
  | invalidAddress _ => "could not write data"

/-- The diagnostic code of a fault. -/
def code : LoadFault → String
  | wrongTokenCount _ => "pippin::load::token_count"
  | invalidNumber _ => "pippin::load::invalid_number"
  | codeFull _ => "pippin::load::code_full"
  | invalidAddress _ => "pippin::load::invalid_address"

/-- Advice to the author of the executable, if there is any. -/
def help : LoadFault → Option String
  | invalidAddress _ => some "data addresses go from 0 to 1ff"
  | _ => none

end LoadFault

/-- A fault and the line it stands on, counted from one. -/
structure LoadError where
  line : Nat
  fault : LoadFault
  deriving DecidableEq, Repr

/-- The wording of an error. -/
def LoadError.message (error : LoadError) : String :=
  "line " ++ Nat.repr error.line ++ " of the executable: " ++ error.fault.message

/-- The part of an executable text that is being read. -/
inductive Phase
  | code
  | data
  deriving DecidableEq, Repr

/-- A machine while it is loaded. -/
structure Loading where
  machine : Machine
  phase : Phase
  /-- The number of data lines read. -/
  cells : Nat

namespace Loading

/-- The numbers on a line. -/
def readNumbers (line : Text) : Except LoadFault (List Word) :=
  (Text.words line).mapM fun token => (Hexadecimal.read token).mapError .invalidNumber

/-- Append an instruction to the program. -/
def addInstruction (loading : Loading) (instruction : Instruction) :
    Except LoadFault Loading :=
  match loading.machine.pushCode instruction with
  | .ok machine => .ok { loading with machine }
  | .error refusal => .error (.codeFull refusal)

/-- Write a data cell. -/
def addDatum (loading : Loading) (address value : Word) : Except LoadFault Loading :=
  match loading.machine.setData address value with
  | .ok machine => .ok { loading with machine, cells := loading.cells + 1 }
  | .error error => .error (.invalidAddress error)

/-- Carry out a line by its numbers. -/
def addNumbers (loading : Loading) (numbers : List Word) : Except LoadFault Loading :=
  match loading.phase with
  | .code =>
      if numbers.head? = some sentinel then
        .ok { loading with phase := .data }
      else
        match numbers with
        | [opcode, argument] => loading.addInstruction ⟨opcode, argument⟩
        | _ => .error (.wrongTokenCount numbers.length)
  | .data =>
      match numbers with
      | [address, value] => loading.addDatum address value
      | _ => .error (.wrongTokenCount numbers.length)

/-- Carry out a line. -/
def addLine (loading : Loading) (line : Text) : Except LoadFault Loading :=
  match readNumbers line with
  | .ok numbers => loading.addNumbers numbers
  | .error fault => .error fault

/-- Carry out lines, the first of which has a given number, up to the first
faulty one. -/
def addLines (number : Nat) (loading : Loading) :
    List Text → Except LoadError Unit × Loading
  | [] => (.ok (), loading)
  | line :: rest =>
      match loading.addLine line with
      | .ok next => addLines (number + 1) next rest
      | .error fault => (.error ⟨number, fault⟩, loading)

end Loading

namespace Machine

/-- A machine at the start of an executable text. -/
def beginLoading (machine : Machine) : Loading :=
  ⟨machine, .code, 0⟩

/-- Load an executable text: the result, and the machine as far as it was
loaded. -/
def load (machine : Machine) (executable : Text) : Except LoadError Unit × Machine :=
  let (result, loading) := machine.beginLoading.addLines 1 (Text.lines executable)
  (result, loading.machine)

end Machine
end AccumulatorMachine
