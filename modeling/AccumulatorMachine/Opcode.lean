import AccumulatorMachine.Word

/-!
# Opcodes

The thirty operations of the machine with their numbers and mnemonics.  Most
come in up to three addressing modes: the immediate form works on its argument,
the direct form on the cell at its argument, and the indirect form on the cell
whose address that cell holds.
-/

namespace AccumulatorMachine

/-- An operation in one of its addressing modes. -/
inductive Opcode
  | noOperation
  | loadImmediate
  | load
  | loadIndirect
  | store
  | storeIndirect
  | jumpImmediate
  | jump
  | jumpIfZeroImmediate
  | jumpIfZero
  | addImmediate
  | add
  | addIndirect
  | subtractImmediate
  | subtract
  | subtractIndirect
  | multiplyImmediate
  | multiply
  | multiplyIndirect
  | divideImmediate
  | divide
  | divideIndirect
  | conjoinImmediate
  | conjoin
  | negate
  | testNegative
  | testZero
  | copy
  | copyIndirect
  | halt
  deriving DecidableEq, Repr

namespace Opcode

/-- Every opcode, in the order of their numbers. -/
def all : List Opcode :=
  [noOperation, loadImmediate, load, loadIndirect, store, storeIndirect,
    jumpImmediate, jump, jumpIfZeroImmediate, jumpIfZero,
    addImmediate, add, addIndirect,
    subtractImmediate, subtract, subtractIndirect,
    multiplyImmediate, multiply, multiplyIndirect,
    divideImmediate, divide, divideIndirect,
    conjoinImmediate, conjoin, negate, testNegative, testZero,
    copy, copyIndirect, halt]

/-- The number of an opcode.  Two numbers below that of `halt` are free. -/
def code : Opcode → Word
  | noOperation => 0x00
  | loadImmediate => 0x01
  | load => 0x02
  | loadIndirect => 0x03
  | store => 0x04
  | storeIndirect => 0x05
  | jumpImmediate => 0x06
  | jump => 0x07
  | jumpIfZeroImmediate => 0x08
  | jumpIfZero => 0x09
  | addImmediate => 0x0A
  | add => 0x0B
  | addIndirect => 0x0C
  | subtractImmediate => 0x0D
  | subtract => 0x0E
  | subtractIndirect => 0x0F
  | multiplyImmediate => 0x10
  | multiply => 0x11
  | multiplyIndirect => 0x12
  | divideImmediate => 0x13
  | divide => 0x14
  | divideIndirect => 0x15
  | conjoinImmediate => 0x16
  | conjoin => 0x17
  | negate => 0x18
  | testNegative => 0x19
  | testZero => 0x1A
  | copy => 0x1D
  | copyIndirect => 0x1E
  | halt => 0x1F

/-- The name of an opcode in source programs. -/
def mnemonic : Opcode → String
  | noOperation => "NOP"
  | loadImmediate => "LODI"
  | load => "LOD"
  | loadIndirect => "LODN"
  | store => "STO"
  | storeIndirect => "STON"
  | jumpImmediate => "JMPI"
  | jump => "JUMP"
  | jumpIfZeroImmediate => "JMZI"
  | jumpIfZero => "JMPZ"
  | addImmediate => "ADDI"
  | add => "ADD"
  | addIndirect => "ADDN"
  | subtractImmediate => "SUBI"
  | subtract => "SUB"
  | subtractIndirect => "SUBN"
  | multiplyImmediate => "MULI"
  | multiply => "MUL"
  | multiplyIndirect => "MULN"
  | divideImmediate => "DIVI"
  | divide => "DIV"
  | divideIndirect => "DIVN"
  | conjoinImmediate => "ANDI"
  | conjoin => "AND"
  | negate => "NOT"
  | testNegative => "CMPL"
  | testZero => "CMPZ"
  | copy => "COPY"
  | copyIndirect => "CPYN"
  | halt => "HALT"

/-- Whether the mnemonic is written with an argument. -/
def takesArgument : Opcode → Bool
  | noOperation | negate | halt => false
  | _ => true

/-- The opcode with a given number. -/
def ofCode? (code : Word) : Option Opcode :=
  all.find? fun opcode => opcode.code == code

/-- The opcode with a given mnemonic. -/
def ofMnemonic? (name : List Char) : Option Opcode :=
  all.find? fun opcode => opcode.mnemonic.toList == name

@[simp] theorem ofCode?_code (opcode : Opcode) : ofCode? opcode.code = some opcode := by
  cases opcode <;> decide

theorem ofMnemonic?_mnemonic (opcode : Opcode) :
    ofMnemonic? opcode.mnemonic.toList = some opcode := by
  cases opcode <;> decide

/-- Only the number of an opcode leads to it. -/
theorem ofCode?_eq_some_iff {code : Word} {opcode : Opcode} :
    ofCode? code = some opcode ↔ opcode.code = code := by
  constructor
  · intro found
    have matches_ := List.find?_some found
    simpa using matches_
  · rintro rfl
    exact ofCode?_code opcode

theorem ofCode?_eq_none_iff {code : Word} :
    ofCode? code = none ↔ ∀ opcode : Opcode, opcode.code ≠ code := by
  simp only [Option.eq_none_iff_forall_ne_some, ne_eq, ofCode?_eq_some_iff]

/-- Only the mnemonic of an opcode leads to it. -/
theorem ofMnemonic?_eq_some_iff {name : List Char} {opcode : Opcode} :
    ofMnemonic? name = some opcode ↔ opcode.mnemonic.toList = name := by
  constructor
  · intro found
    have matches_ := List.find?_some found
    simpa using matches_
  · rintro rfl
    exact ofMnemonic?_mnemonic opcode

/-- A number that belongs to no opcode. -/
structure InvalidCode where
  code : Word
  deriving DecidableEq, Repr

/-- The wording of the error. -/
def InvalidCode.message (error : InvalidCode) : String :=
  "no instruction has opcode " ++ error.code.bitsText

/-- The opcode with a given number, or an error that names the number. -/
def ofCode (code : Word) : Except InvalidCode Opcode :=
  match ofCode? code with
  | some opcode => .ok opcode
  | none => .error ⟨code⟩

end Opcode
end AccumulatorMachine
