import AccumulatorMachine.Program.Basic
import AccumulatorMachine.Text.Line
import AccumulatorMachine.Text.UpperCase

/-!
# Assembly

A source text is checked in passes: the layout of all lines, the split into code
and data, the code lines, the data lines.  The first fault of the first faulty
pass is the one reported.  Layout faults are numbered by the lines of the text,
all others by the lines that are not blank.
-/

namespace AccumulatorMachine

/-- What can be wrong with a line of a source text. -/
inductive AssemblyFault
  | secondBlankLine
  | leadingWhiteSpace
  | endOfCodeCase
  | illegalMnemonic (token : Text)
  | mnemonicCase (opcode : Opcode)
  | unexpectedArgument
  | tooManyArguments
  | missingArgument
  | invalidArgument (error : Hexadecimal.Invalid)
  | codeTooLong
  | dataArguments
  | invalidData (error : Hexadecimal.Invalid)
  | dataAddress (address : Word)
  deriving DecidableEq, Repr

namespace AssemblyFault

/-- The wording of a fault. -/
def message : AssemblyFault → String
  | secondBlankLine => "illegal blank line in the source file"
  | leadingWhiteSpace => "line starts with illegal white space"
  | endOfCodeCase => "\"ENDCODE\" must be upper case"
  | illegalMnemonic token => "illegal mnemonic " ++ String.ofList (Text.quoted token)
  | mnemonicCase _ => "mnemonic must be upper case"
  | unexpectedArgument => "this mnemonic cannot take arguments"
  | tooManyArguments => "this mnemonic has too many arguments"
  | missingArgument => "this mnemonic is missing arguments"
  | invalidArgument _ => "argument is not a hex number"
  | codeTooLong => "program has more than " ++ Nat.repr codeMax ++ " instructions"
  | dataArguments => "this data is missing arguments"
  | invalidData _ => "data integer(s) is not a hex number"
  | dataAddress address => "data address " ++ Hexadecimal.text address ++ " is out of memory"

/-- The diagnostic code of a fault. -/
def code : AssemblyFault → String
  | secondBlankLine => "pippin::asm::blank_line"
  | leadingWhiteSpace => "pippin::asm::leading_whitespace"
  | endOfCodeCase => "pippin::asm::endcode_case"
  | illegalMnemonic _ => "pippin::asm::illegal_mnemonic"
  | mnemonicCase _ => "pippin::asm::mnemonic_case"
  | unexpectedArgument => "pippin::asm::unexpected_argument"
  | tooManyArguments => "pippin::asm::too_many_arguments"
  | missingArgument => "pippin::asm::missing_argument"
  | invalidArgument _ => "pippin::asm::invalid_argument"
  | codeTooLong => "pippin::asm::code_too_long"
  | dataArguments => "pippin::asm::data_arguments"
  | invalidData _ => "pippin::asm::invalid_data"
  | dataAddress _ => "pippin::asm::data_address"

/-- Advice to the author of the source, if there is any. -/
def help : AssemblyFault → Option String
  | secondBlankLine => some "a program can only have one blank line"
  | mnemonicCase _ => some "mnemonics are written in upper case"
  | invalidArgument _ | invalidData _ => some "numbers are written in base 16, without prefix"
  | dataArguments => some "data lines hold an address and a value"
  | dataAddress _ => some "data addresses go from 0 to 1ff"
  | _ => none

end AssemblyFault

/-- A fault and the line it is reported on, counted from one. -/
structure AssemblyError where
  line : Nat
  fault : AssemblyFault
  deriving DecidableEq, Repr

/-- The wording of an error. -/
def AssemblyError.message (error : AssemblyError) : String :=
  "error on line " ++ Nat.repr error.line ++ ": " ++ error.fault.message

namespace Source

/-- Check the layout of lines and keep those that are not blank, trimmed.  One
line may be blank, and the others start neither with a space nor with a tab. -/
def significantLines (blankSeen : Bool) (number : Nat) :
    List Text → Except AssemblyError (List Text)
  | [] => .ok []
  | line :: rest =>
      if (Text.trim line).isEmpty then
        if blankSeen then
          .error ⟨number, .secondBlankLine⟩
        else
          significantLines true (number + 1) rest
      else if line.head? = some ' ' ∨ line.head? = some '\t' then
        .error ⟨number, .leadingWhiteSpace⟩
      else
        (significantLines blankSeen (number + 1) rest).map (Text.trim line :: ·)

/-- The lines of a source text around the line that ends the code. -/
structure Sections where
  code : List Text
  data : List Text
  deriving DecidableEq, Repr

/-- Split lines at the end of the code. -/
def splitSections (number : Nat) : List Text → Except AssemblyError Sections
  | [] => .ok ⟨[], []⟩
  | line :: rest =>
      if line = endOfCode then
        .ok ⟨[], rest⟩
      else if line.map Char.toUpper = endOfCode then
        .error ⟨number, .endOfCodeCase⟩
      else
        (splitSections (number + 1) rest).map fun sections =>
          { sections with code := line :: sections.code }

/-- The sections of a source text. -/
def sections (source : Text) : Except AssemblyError Sections := do
  let kept ← significantLines false 1 (Text.lines source)
  splitSections 1 kept

/-- Read the argument of an opcode from the tokens after its mnemonic. -/
def readArgument (opcode : Opcode) (tokens : List Text) : Except AssemblyFault Word :=
  match opcode.takesArgument, tokens with
  | true, [] => .error .missingArgument
  | true, [token] => (Hexadecimal.read token).mapError .invalidArgument
  | true, _ => .error .tooManyArguments
  | false, [] => .ok 0
  | false, _ => .error .unexpectedArgument

/-- Read a code line. -/
def readStatement (line : Text) : Except AssemblyFault Statement :=
  match Text.words line with
  | [] => .error (.illegalMnemonic [])
  | mnemonic :: tokens =>
      match Opcode.ofMnemonic? (Text.upperCase mnemonic) with
      | none => .error (.illegalMnemonic mnemonic)
      | some opcode =>
          if mnemonic ≠ Text.upperCase mnemonic then
            .error (.mnemonicCase opcode)
          else
            (readArgument opcode tokens).map fun argument => ⟨opcode, argument⟩

/-- Read a data line. -/
def readDatum (line : Text) : Except AssemblyFault Datum :=
  match Text.words line with
  | [addressToken, valueToken] => do
      let address ← (Hexadecimal.read addressToken).mapError .invalidData
      let value ← (Hexadecimal.read valueToken).mapError .invalidData
      match Memory.index? address with
      | some index => .ok ⟨index, value⟩
      | none => .error (.dataAddress address)
  | _ => .error .dataArguments

/-- Read lines one by one up to the first faulty one. -/
def readLines {α : Type} (read : Text → Except AssemblyFault α) (number : Nat) :
    List Text → Except AssemblyError (List α)
  | [] => .ok []
  | line :: rest =>
      match read line with
      | .error fault => .error ⟨number, fault⟩
      | .ok value => (readLines read (number + 1) rest).map (value :: ·)

/-- Read both sections.  Code lines past the size of the code store are not
read; the first of them is at fault when all before it are right. -/
def Sections.program (sections : Sections) : Except AssemblyError Program := do
  let code ← readLines readStatement 1 (sections.code.take codeMax)
  if codeMax < sections.code.length then
    throw ⟨codeMax + 1, .codeTooLong⟩
  let data ← readLines readDatum (code.length + 2) sections.data
  return ⟨code, data⟩

/-- The program that a source text denotes. -/
def assemble (source : Text) : Except AssemblyError Program := do
  let split ← sections source
  split.program

end Source
end AccumulatorMachine
