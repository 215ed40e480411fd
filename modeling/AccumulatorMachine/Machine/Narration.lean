import AccumulatorMachine.Log.Record
import AccumulatorMachine.Machine.Run

/-!
# What a step reports

While an instruction is carried out, the machine notes what it does.  The notes
of a step are read off the machine before it; they have no influence on it.
-/

namespace AccumulatorMachine

/-- Something that happens during a step. -/
inductive Note
  | executing (instruction : Instruction) (programCounter : Word)
  | dereferencing (address value : Word)
  | computing (symbol : String) (left right result : Word)
  | jumping (target : Word)
  | copying (descriptor : Word) (block : BlockCopy)
  | running (registers : Registers)
  | halted (registers : Registers)
  | faulted (fault : Fault) (programCounter : Word)
  deriving DecidableEq, Repr

namespace Note

/-- How detailed a note is. -/
def level : Note → Log.Level
  | dereferencing .. | running _ => .tracing
  | halted _ => .information
  | _ => .debugging

/-- The spans of a note inside those around the step. -/
def spans : Note → List Log.Span
  | copying descriptor _ => [.step, .copy descriptor]
  | _ => [.step]

/-- The message of a note. -/
def message : Note → String
  | executing instruction _ => "Executing instruction \"" ++ instruction.text ++ "\""
  | dereferencing .. => "Dereferencing"
  | computing symbol left right result =>
      Decimal.ofWord left ++ " " ++ symbol ++ " " ++ Decimal.ofWord right ++ " = " ++
        Decimal.ofWord result
  | jumping target => "Jumping to " ++ Decimal.ofWord target
  | copying .. => "Copying block"
  | running _ => "Register state"
  | halted _ => "Machine halted"
  | faulted .. => "Halting on exception"

/-- The fields of a note. -/
def fields : Note → List (String × String)
  | executing _ programCounter => [("pc", Decimal.ofWord programCounter)]
  | dereferencing address value =>
      [("address", Decimal.ofWord address), ("value", Decimal.ofWord value)]
  | computing .. | jumping _ => []
  | copying _ block =>
      [("source", Decimal.ofWord block.source), ("target", Decimal.ofWord block.target),
        ("length", Decimal.ofWord block.length)]
  | running registers | halted registers => [("registers", registers.text)]
  | faulted fault programCounter =>
      [("exception", fault.message), ("pc", Decimal.ofWord programCounter)]

/-- The log record of a note made inside some spans. -/
def record (outer : List Log.Span) (note : Note) : Log.Record where
  level := note.level
  spans := outer ++ note.spans
  message := note.message
  fields := note.fields

end Note

/-- What an operation notes about its work. -/
def Operation.notes (operation : Operation) (operand : Word) (machine : Machine) :
    List Note :=
  let accumulator := machine.registers.accumulator
  match operation with
  | jump => [.jumping operand]
  | jumpIfZero => if accumulator = 0 then [.jumping operand] else []
  | add => [.computing "+" accumulator operand (accumulator + operand)]
  | subtract => [.computing "-" accumulator operand (accumulator - operand)]
  | multiply => [.computing "*" accumulator operand (accumulator * operand)]
  | divide =>
      if operand = 0 then []
      else [.computing "/" accumulator operand (accumulator / operand)]
  | copy =>
      match machine.memory.readDescriptor operand with
      | .ok block =>
          if (block.refusal? operand).isNone then [.copying operand block] else []
      | .error _ => []
  | _ => []

namespace Machine

/-- What is noted while an opcode is carried out. -/
def executionNotes (machine : Machine) (opcode : Opcode) (argument : Word) : List Note :=
  match _handsOver : opcode.action with
  | .perform operation => operation.notes argument machine
  | .dereference next =>
      match machine.memory.read argument with
      | .ok value => .dereferencing argument value :: machine.executionNotes next value
      | .error _ => []
  termination_by opcode.indirection
  decreasing_by exact Opcode.indirection_lt_of_dereference (by assumption)

/-- What is noted about the instruction at the program counter. -/
def instructionNotes (machine : Machine) : List Note :=
  match machine.code.fetch machine.registers.programCounter with
  | .error _ => []
  | .ok instruction =>
      .executing instruction machine.registers.programCounter ::
        match Opcode.ofCode? instruction.opcode with
        | some opcode => machine.executionNotes opcode instruction.argument
        | none => []

/-- What is noted about the outcome of a step. -/
def outcomeNotes (machine : Machine) : List Note :=
  match machine.step with
  | (.ok .running, next) => [.running next.registers]
  | (.ok .halted, next) => [.halted next.registers]
  | (.error (.fault fault), _) => [.faulted fault machine.registers.programCounter]
  | (.error .halted, _) => []

/-- All notes of a step.  A halted machine notes nothing. -/
def notes (machine : Machine) : List Note :=
  if machine.halted then [] else machine.instructionNotes ++ machine.outcomeNotes

/-- The notes of a step, as far as a log of some verbosity shows them. -/
def shownNotes (verbosity : Log.Verbosity) (machine : Machine) : List Note :=
  machine.notes.filter fun note => note.level.isShown verbosity

/-- The shown notes of up to `bound` steps, after the notes `sofar`.  Stepping ends
as in `resume`. -/
def narrateFrom (verbosity : Log.Verbosity) (watched : Word → Bool) (sofar : Array Note) :
    Nat → Machine → Array Note
  | 0, _ => sofar
  | bound + 1, machine =>
      let noted := sofar ++ machine.shownNotes verbosity
      match machine.step with
      | (.ok .running, next) =>
          if watched next.registers.programCounter then
            noted
          else
            narrateFrom verbosity watched noted bound next
      | _ => noted

/-- The notes of up to `bound` steps that end at a watched program counter. -/
def narrate (verbosity : Log.Verbosity) (watched : Word → Bool) (bound : Nat)
    (machine : Machine) : List Note :=
  (machine.narrateFrom verbosity watched #[] bound).toList

end Machine
end AccumulatorMachine
