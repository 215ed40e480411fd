import AccumulatorMachine.Proofs.Listings

/-!
# The code store over its updates

Packing is a bijection between instructions and numbers of sixty-four bits, so a
store is no more and no less than the list of its instructions.  Whatever was
pushed and cleared, that list is what was pushed since the store was last
cleared, up to the size of the store, and everything that can be asked of the
store is answered from it.
-/

namespace AccumulatorMachine
namespace Instruction

/-- Every number of sixty-four bits is the packed form of its two halves. -/
theorem pack_unpack (packed : Int64) : (unpack packed).pack = packed := by
  have shift : (32 : Int64).toBitVec.smod 64 = 32#64 := by decide
  have amount : (32#64).toNat = 32 := rfl
  apply Int64.toBitVec_inj.mp
  apply BitVec.eq_of_getLsbD_eq
  intro index bound
  rw [getLsbD_pack _ bound]
  by_cases low : index < 32
  · rw [if_pos low, unpack, Int64.toBitVec_toInt32, BitVec.getLsbD_signExtend]
    simp [low, bound]
  · have high : index - 32 < 32 := by omega
    have whole : 32 + (index - 32) = index := by omega
    rw [if_neg low, unpack, Int64.toBitVec_toInt32, Int64.toBitVec_shiftRight, shift,
      BitVec.sshiftRight_eq', amount, BitVec.getLsbD_signExtend, BitVec.getLsbD_sshiftRight,
      whole]
    simp [high, bound, show ¬64 ≤ index - 32 by omega, show index - 32 < 64 by omega]

/-- No instruction is shown as an empty text. -/
theorem text_ne_empty (instruction : Instruction) : instruction.text ≠ "" := by
  intro empty
  have words := Text.words_spaced instruction.isToken_shownWords
  rw [← toList_text, empty] at words
  have first := instruction.head?_shownWords
  rw [← words] at first
  cases first

end Instruction

namespace Code

/-! ## Updates -/

/-- A change that is asked of a code store. -/
inductive Update
  | push (instruction : Instruction)
  | clear
  deriving DecidableEq, Repr

/-- The answer to an update, and the store it leaves.  A refused instruction
changes nothing. -/
def update (code : Code) : Update → Except Refusal Unit × Code
  | .push instruction =>
      match code.push instruction with
      | .ok longer => (.ok (), longer)
      | .error refusal => (.error refusal, code)
  | .clear => (.ok (), empty)

/-- The store after updates. -/
def updateAll (code : Code) (updates : List Update) : Code :=
  updates.foldl (fun reached next => (reached.update next).2) code

/-- The instructions that updates push after they last clear the store, whether
there is room for them or not. -/
def pushedSinceClear (updates : List Update) : List Instruction :=
  updates.foldl
    (fun pushed next =>
      match next with
      | .push instruction => pushed ++ [instruction]
      | .clear => [])
    []

theorem updateAll_concat (code : Code) (updates : List Update) (last : Update) :
    code.updateAll (updates ++ [last]) = ((code.updateAll updates).update last).2 := by
  rw [updateAll, List.foldl_append]
  rfl

theorem pushedSinceClear_push (updates : List Update) (instruction : Instruction) :
    pushedSinceClear (updates ++ [.push instruction]) =
      pushedSinceClear updates ++ [instruction] := by
  rw [pushedSinceClear, List.foldl_append]
  rfl

theorem pushedSinceClear_clear (updates : List Update) :
    pushedSinceClear (updates ++ [.clear]) = [] := by
  rw [pushedSinceClear, List.foldl_append]
  rfl

/-- A full store refuses an instruction and stays as it is; any other takes it. -/
theorem update_push (code : Code) (instruction : Instruction) :
    if code.size = codeMax then
      code.update (.push instruction) = (.error .full, code)
    else
      (code.update (.push instruction)).1 = .ok () ∧
        (code.update (.push instruction)).2.instructions =
          code.instructions ++ [instruction] := by
  have bound : code.size ≤ codeMax := code.size_le
  split
  next full => rw [update, push_of_full instruction (Nat.le_of_eq full.symm)]
  next room =>
    obtain ⟨longer, pushed, whole⟩ := exists_push instruction (Nat.lt_of_le_of_ne bound room)
    rw [update, pushed]
    exact ⟨rfl, whole⟩

/-- One more instruction is among the first so many only if there are fewer. -/
theorem take_concat {held : List Instruction} (instruction : Instruction) (room : Nat) :
    (held ++ [instruction]).take room =
      if (held.take room).length = room then held.take room
      else held.take room ++ [instruction] := by
  by_cases long : room ≤ held.length
  · rw [List.take_append_of_le_length long, List.length_take_of_le long, if_pos rfl]
  · have short : held.length ≤ room := by omega
    have whole : (held ++ [instruction]).length ≤ room := by
      rw [List.length_append, List.length_singleton]
      omega
    rw [List.take_of_length_le whole, List.take_of_length_le short, if_neg (by omega)]

/-- The store holds what was pushed since it was cleared, up to its size. -/
theorem instructions_updateAll (updates : List Update) :
    (empty.updateAll updates).instructions = (pushedSinceClear updates).take codeMax := by
  induction updates using List.reverseRecOn with
  | nil => rfl
  | append_singleton updates last inductionHypothesis =>
      rw [updateAll_concat]
      cases last with
      | clear =>
          rw [pushedSinceClear_clear]
          rfl
      | push instruction =>
          have step := (empty.updateAll updates).update_push instruction
          rw [pushedSinceClear_push, take_concat, ← inductionHypothesis, length_instructions]
          split
          next full =>
            rw [if_pos full] at step
            rw [step]
          next room =>
            rw [if_neg room] at step
            exact step.2

/-! ## What can be seen of a store -/

/-- A store behaves as a list of instructions: everything that can be asked of it
is answered from the list, which takes up to `codeMax` instructions. -/
structure BehavesAs (code : Code) (held : List Instruction) : Prop where
  instructions : code.instructions = held
  size : code.size = held.length
  push (instruction : Instruction) :
    if held.length = codeMax then
      code.update (.push instruction) = (.error .full, code)
    else
      (code.update (.push instruction)).1 = .ok () ∧
        (code.update (.push instruction)).2.instructions = held ++ [instruction]
  fetch (index : Word) (instruction : Instruction) :
    code.fetch index = .ok instruction ↔
      0 ≤ index.toInt ∧ held[index.toInt.toNat]? = some instruction
  refusal (index : Word) (refusal : Refusal) :
    code.fetch index = .error refusal ↔
      ¬(0 ≤ index.toInt ∧ index.toInt < held.length) ∧
        refusal = .outOfBounds index held.length
  text (position : Nat) : code.text position = "" ↔ held.length ≤ position

theorem fetch_eq_ok_iff_getElem? (code : Code) (index : Word) (instruction : Instruction) :
    code.fetch index = .ok instruction ↔
      0 ≤ index.toInt ∧ code.instructions[index.toInt.toNat]? = some instruction := by
  rw [fetch, position?]
  by_cases nonnegative : 0 ≤ index.toInt
  · rw [if_pos nonnegative, Option.bind_some, get?_eq]
    cases code.instructions[index.toInt.toNat]? with
    | none => simp
    | some found => simp [nonnegative]
  · rw [if_neg nonnegative]
    simp [nonnegative]

theorem text_eq_empty_iff (code : Code) (position : Nat) :
    code.text position = "" ↔ code.size ≤ position := by
  rw [text, get?_eq, ← length_instructions, ← List.getElem?_eq_none_iff]
  cases code.instructions[position]? with
  | none => exact iff_of_true rfl rfl
  | some instruction =>
      exact iff_of_false instruction.text_ne_empty (Option.some_ne_none instruction)

/-- A store behaves as the list of its instructions. -/
theorem behavesAs_instructions (code : Code) : code.BehavesAs code.instructions where
  instructions := rfl
  size := code.length_instructions.symm
  push instruction := by
    rw [length_instructions]
    exact code.update_push instruction
  fetch := code.fetch_eq_ok_iff_getElem?
  refusal index refusal := by
    rw [length_instructions]
    exact fetch_eq_error_iff
  text position := by
    rw [length_instructions]
    exact code.text_eq_empty_iff position

/-- Packing and unpacking undo each other, and after any updates the code store
behaves as the list of what was pushed since it was last cleared, as far as there
was room for it. -/
theorem behavesAs_pushed_instructions :
    (∀ instruction : Instruction, Instruction.unpack instruction.pack = instruction) ∧
    (∀ packed : Int64, (Instruction.unpack packed).pack = packed) ∧
    ∀ updates : List Update,
      (empty.updateAll updates).BehavesAs ((pushedSinceClear updates).take codeMax) := by
  refine ⟨Instruction.unpack_pack, Instruction.pack_unpack, fun updates => ?_⟩
  rw [← instructions_updateAll]
  exact behavesAs_instructions _

end Code
end AccumulatorMachine
