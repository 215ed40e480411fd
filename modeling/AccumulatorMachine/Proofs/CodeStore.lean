import AccumulatorMachine.Code
import AccumulatorMachine.Proofs.WordArithmetic
import Mathlib.Data.Nat.Init

/-!
# The code store as a list of instructions

Packing loses nothing: the high half of a packed number is the opcode and the
low half the argument, both signed.  A store is therefore the list of the
instructions pushed, and a program counter inside it leads to one of them.
-/

namespace AccumulatorMachine
namespace Instruction

/-! ## Packing -/

/-- The low half of a packed instruction holds the bits of the argument, the
high half those of the opcode. -/
theorem getLsbD_pack (instruction : Instruction) {index : Nat} (bound : index < 64) :
    instruction.pack.toBitVec.getLsbD index =
      if index < 32 then instruction.argument.toBitVec.getLsbD index
      else instruction.opcode.toBitVec.getLsbD (index - 32) := by
  have shift : (32 : Int64).toBitVec.smod 64 = 32#64 := by decide
  have amount : (32#64).toNat = 32 := rfl
  have lowHalf : (0xFFFFFFFF : Int64).toBitVec = (BitVec.allOnes 32).setWidth 64 := by
    decide
  rw [pack, Int64.toBitVec_or, Int64.toBitVec_shiftLeft, Int64.toBitVec_and,
    Int32.toBitVec_toInt64, Int32.toBitVec_toInt64, shift, lowHalf, BitVec.shiftLeft_eq',
    amount]
  simp only [BitVec.getLsbD_or, BitVec.getLsbD_and, BitVec.getLsbD_shiftLeft,
    BitVec.getLsbD_setWidth, BitVec.getLsbD_allOnes, BitVec.getLsbD_signExtend]
  by_cases low : index < 32
  · simp [bound, low]
  · have high : index - 32 < 32 := by omega
    have within : index - 32 < 64 := by omega
    simp [bound, low, high, within]

@[simp] theorem unpack_pack (instruction : Instruction) :
    unpack instruction.pack = instruction := by
  have shift : (32 : Int64).toBitVec.smod 64 = 32#64 := by decide
  have amount : (32#64).toNat = 32 := rfl
  have sameOpcode : (instruction.pack >>> 32).toInt32 = instruction.opcode := by
    apply Int32.toBitVec_inj.mp
    apply BitVec.eq_of_getLsbD_eq
    intro index bound
    have inside : 32 + index < 64 := by omega
    have small : ¬64 ≤ index := by omega
    rw [Int64.toBitVec_toInt32, Int64.toBitVec_shiftRight, shift, BitVec.sshiftRight_eq',
      amount, BitVec.getLsbD_signExtend, BitVec.getLsbD_sshiftRight, getLsbD_pack _ inside]
    simp [bound, inside, small, show index < 64 by omega]
  have sameArgument : instruction.pack.toInt32 = instruction.argument := by
    apply Int32.toBitVec_inj.mp
    apply BitVec.eq_of_getLsbD_eq
    intro index bound
    have inside : index < 64 := by omega
    rw [Int64.toBitVec_toInt32, BitVec.getLsbD_signExtend, getLsbD_pack _ inside]
    simp [bound, inside]
  rw [unpack, sameOpcode, sameArgument]

/-- The opcode of a packed number is its quotient by the number of words. -/
theorem toInt_opcode_unpack (packed : Int64) :
    (unpack packed).opcode.toInt = packed.toInt / Word.modulus := by
  have shift : (32 : Int64).toBitVec.smod 64 = 32#64 := by decide
  have shifted : (packed >>> 32).toInt = packed.toInt / Word.modulus := by
    rw [← Int64.toInt_toBitVec, Int64.toBitVec_shiftRight, shift, BitVec.sshiftRight_eq',
      BitVec.toInt_sshiftRight, Int.shiftRight_eq_div_pow]
    rfl
  have lower := packed.le_toInt
  have upper := packed.toInt_lt
  rw [unpack, Int64.toInt_toInt32, shifted]
  unfold Word.modulus
  exact Int.bmod_eq_of_le (by omega) (by omega)

/-- The argument of a packed number is what a word keeps of it. -/
theorem argument_unpack (packed : Int64) :
    (unpack packed).argument = Int32.ofInt packed.toInt := by
  apply Int32.toInt_inj.mp
  rw [unpack, Int64.toInt_toInt32, Int32.toInt_ofInt]

end Instruction

namespace Code

/-! ## Instructions of a store -/

/-- Pushing appends an instruction as long as there is room. -/
theorem exists_push {code : Code} (instruction : Instruction)
    (room : code.size < codeMax) :
    ∃ longer, code.push instruction = .ok longer ∧
      longer.instructions = code.instructions ++ [instruction] := by
  unfold size at room
  rw [push, dif_pos room]
  refine ⟨_, rfl, ?_⟩
  simp [instructions]

theorem push_of_full {code : Code} (instruction : Instruction)
    (full : codeMax ≤ code.size) :
    code.push instruction = .error .full := by
  unfold size at full
  rw [push, dif_neg (by omega)]

theorem instructions_of_push {code longer : Code} {instruction : Instruction}
    (pushed : code.push instruction = .ok longer) :
    longer.instructions = code.instructions ++ [instruction] := by
  by_cases room : code.size < codeMax
  · obtain ⟨other, succeeds, whole⟩ := exists_push instruction room
    rw [pushed, Except.ok.injEq] at succeeds
    rw [succeeds, whole]
  · rw [push_of_full instruction (Nat.not_lt.mp room)] at pushed
    cases pushed

/-- Only a full store refuses an instruction. -/
theorem push_eq_error_iff {code : Code} {instruction : Instruction} {refusal : Refusal} :
    code.push instruction = .error refusal ↔ code.size = codeMax ∧ refusal = .full := by
  have bound : code.size ≤ codeMax := code.size_le
  by_cases room : code.size < codeMax
  · obtain ⟨longer, pushed, -⟩ := exists_push instruction room
    rw [pushed]
    exact iff_of_false (by simp) fun full => Nat.ne_of_lt room full.1
  · rw [push_of_full instruction (Nat.not_lt.mp room), Except.error.injEq]
    have full : code.size = codeMax := by omega
    exact ⟨fun same => ⟨full, same.symm⟩, fun both => both.2.symm⟩

/-- A program counter inside the program leads to an instruction. -/
theorem fetch_of_inside {code : Code} {index : Word} {position : Nat}
    (inside : position < code.packed.size)
    (same : index.toInt = position) :
    code.fetch index = .ok (Instruction.unpack code.packed[position]) := by
  have found : position? index = some position := by
    rw [position?, if_pos (by omega), same]
    rfl
  rw [fetch, found, Option.bind_some, get?, Array.getElem?_eq_getElem inside]
  rfl

theorem fetch_of_outside {code : Code} {index : Word}
    (outside : ¬(0 ≤ index.toInt ∧ index.toInt < code.size)) :
    code.fetch index = .error (.outOfBounds index code.size) := by
  have missing : (position? index).bind code.get? = none := by
    rw [position?]
    split
    · rename_i nonnegative
      unfold size at outside
      rw [Option.bind_some, get?, Array.getElem?_eq_none (by omega)]
      rfl
    · rfl
  rw [fetch, missing]

theorem exists_position {code : Code} {index : Word}
    (inside : 0 ≤ index.toInt ∧ index.toInt < code.size) :
    ∃ position : Fin code.packed.size, index.toInt = position.val := by
  unfold size at inside
  exact ⟨⟨index.toInt.toNat, by omega⟩, (Int.toNat_of_nonneg inside.1).symm⟩

/-- Exactly the program counters inside the program lead to an instruction. -/
theorem fetch_eq_ok_iff {code : Code} {index : Word} {instruction : Instruction} :
    code.fetch index = .ok instruction ↔
      ∃ position : Fin code.packed.size, index.toInt = position.val ∧
        Instruction.unpack code.packed[position] = instruction := by
  constructor
  · intro fetched
    by_cases inside : 0 ≤ index.toInt ∧ index.toInt < code.size
    · obtain ⟨position, same⟩ := exists_position inside
      rw [fetch_of_inside position.isLt same] at fetched
      exact ⟨position, same, Except.ok.inj fetched⟩
    · rw [fetch_of_outside inside] at fetched
      contradiction
  · rintro ⟨position, same, rfl⟩
    exact fetch_of_inside position.isLt same

theorem fetch_eq_error_iff {code : Code} {index : Word} {refusal : Refusal} :
    code.fetch index = .error refusal ↔
      ¬(0 ≤ index.toInt ∧ index.toInt < code.size) ∧
        refusal = .outOfBounds index code.size := by
  by_cases inside : 0 ≤ index.toInt ∧ index.toInt < code.size
  · obtain ⟨position, same⟩ := exists_position inside
    rw [fetch_of_inside position.isLt same]
    simp [inside]
  · rw [fetch_of_outside inside, Except.error.injEq]
    simp only [inside, not_false_eq_true, true_and]
    exact eq_comm

end Code
end AccumulatorMachine
