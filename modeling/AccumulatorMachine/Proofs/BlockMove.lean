import AccumulatorMachine.Machine.Step
import AccumulatorMachine.Proofs.MemoryContents
import Mathlib.Data.List.Range

/-!
# Block copies move whole blocks

A block copy that is not refused never meets an address outside the memory, and
leaves in the target block what the source block held before, however the two
overlap.  The order of the cells matters: a cell is written only when no later
one still has to be read from it.  The refusals are described by the addresses
of the blocks and of the descriptor.
-/

namespace AccumulatorMachine

/-- The addresses of the three cells of a descriptor. -/
def descriptorCells (descriptor : Word) : List Int :=
  [descriptor.toInt, descriptor.toInt + 1, descriptor.toInt + 2]

/-- The first address of a descriptor outside the memory, if there is one. -/
def outsideCell? (descriptor : Word) : Option Int :=
  (descriptorCells descriptor).find? fun cell => !decide (Memory.IsAddress cell)

/-- The first address outside the memory has only addresses of cells before it. -/
theorem outsideCell?_eq_some {descriptor : Word} {address : Int}
    (outside : outsideCell? descriptor = some address) :
    (address = descriptor.toInt ∧ ¬Memory.IsAddress descriptor.toInt) ∨
    (address = descriptor.toInt + 1 ∧ Memory.IsAddress descriptor.toInt ∧
      ¬Memory.IsAddress (descriptor.toInt + 1)) ∨
    (address = descriptor.toInt + 2 ∧ Memory.IsAddress descriptor.toInt ∧
      Memory.IsAddress (descriptor.toInt + 1) ∧
      ¬Memory.IsAddress (descriptor.toInt + 2)) := by
  simp only [outsideCell?, descriptorCells, List.find?_cons] at outside
  by_cases first : Memory.IsAddress descriptor.toInt
  · by_cases second : Memory.IsAddress (descriptor.toInt + 1)
    · by_cases third : Memory.IsAddress (descriptor.toInt + 2)
      · simp [first, second, third] at outside
      · simp only [first, second, third, decide_true, decide_false, Bool.not_true,
          Bool.not_false, Option.some.injEq] at outside
        exact Or.inr (Or.inr ⟨outside.symm, first, second, third⟩)
    · simp only [first, second, decide_true, decide_false, Bool.not_true,
        Bool.not_false, Option.some.injEq] at outside
      exact Or.inr (Or.inl ⟨outside.symm, first, second⟩)
  · simp only [first, decide_false, Bool.not_false, Option.some.injEq] at outside
    exact Or.inl ⟨outside.symm, first⟩

namespace BlockCopy

/-- The addresses of the source block. -/
def InSource (block : BlockCopy) (address : Int) : Prop :=
  block.source.toInt ≤ address ∧ address < block.source.toInt + block.length.toInt

/-- The addresses of the target block. -/
def InTarget (block : BlockCopy) (address : Int) : Prop :=
  block.target.toInt ≤ address ∧ address < block.target.toInt + block.length.toInt

/-- A cell of the descriptor lies in one of the blocks. -/
def TouchesDescriptor (block : BlockCopy) (descriptor : Word) : Prop :=
  ∃ cell ∈ descriptorCells descriptor, block.InSource cell ∨ block.InTarget cell

/-- An address of one of the blocks lies outside the memory. -/
def LeavesMemory (block : BlockCopy) : Prop :=
  ∃ address, (block.InSource address ∨ block.InTarget address) ∧
    ¬Memory.IsAddress address

/-- The memory after a move: the target block holds what the source block held,
everything else is as before, and the cell written last is at the end of the
target block where the move ended. -/
structure Moved (block : BlockCopy) (before after : Memory) : Prop where
  copied : ∀ offset : Int, 0 ≤ offset → offset < block.length.toInt →
    after.contents (block.target.toInt + offset) =
      before.contents (block.source.toInt + offset)
  kept : ∀ address, ¬block.InTarget address →
    after.contents address = before.contents address
  lastAddress : after.lastAddress =
    if block.length.toInt = 0 then before.lastAddress
    else if block.source.toInt < block.target.toInt then some block.target.toInt
    else some (block.target.toInt + block.length.toInt - 1)

/-! ## Refusals -/

theorem contains_sourceRange (block : BlockCopy) (address : Int) :
    block.sourceRange.contains address = true ↔ block.InSource address := by
  simp only [Interval.contains_iff, sourceRange, Interval.ofLength, InSource]
  omega

theorem contains_targetRange (block : BlockCopy) (address : Int) :
    block.targetRange.contains address = true ↔ block.InTarget address := by
  simp only [Interval.contains_iff, targetRange, Interval.ofLength, InTarget]
  omega

theorem contains_addresses (address : Int) :
    addresses.contains address = true ↔ Memory.IsAddress address := by
  simp only [Interval.contains_iff, addresses, Interval.ofLength, Memory.IsAddress]
  omega

theorem touches_iff (block : BlockCopy) (descriptor : Word) :
    block.touches descriptor = true ↔ block.TouchesDescriptor descriptor := by
  simp only [touches, List.any_eq_true, Bool.or_eq_true, contains_sourceRange,
    contains_targetRange, TouchesDescriptor, descriptorCells, List.mem_cons,
    List.not_mem_nil, or_false, exists_eq_or_imp, exists_eq_left, Int.add_zero]

theorem isInside_iff (block : BlockCopy) :
    block.isInside = true ↔ ¬block.LeavesMemory := by
  simp only [isInside, Bool.and_eq_true, Interval.includes_iff, contains_sourceRange,
    contains_targetRange, contains_addresses, LeavesMemory]
  constructor
  · rintro ⟨sourceInside, targetInside⟩ ⟨address, inSource | inTarget, outside⟩
    · exact outside (sourceInside address inSource)
    · exact outside (targetInside address inTarget)
  · intro stays
    refine ⟨fun address inSource => ?_, fun address inTarget => ?_⟩
    · by_contra outside
      exact stays ⟨address, Or.inl inSource, outside⟩
    · by_contra outside
      exact stays ⟨address, Or.inr inTarget, outside⟩

/-- Only blocks with a cell can leave the memory. -/
theorem length_pos_of_leavesMemory {block : BlockCopy}
    (leaving : block.LeavesMemory) :
    0 < block.length.toInt := by
  obtain ⟨address, inSource | inTarget, -⟩ := leaving
  · unfold InSource at inSource
    omega
  · unfold InTarget at inTarget
    omega

theorem length_lt_zero_iff (block : BlockCopy) :
    block.length < 0 ↔ block.length.toInt < 0 := by
  rw [Int32.lt_iff_toInt_lt]
  rfl

theorem refusal?_eq_negativeLength_iff (block : BlockCopy) (descriptor : Word) :
    block.refusal? descriptor = some (.negativeLength block.length) ↔
      block.length.toInt < 0 := by
  rw [← length_lt_zero_iff, refusal?]
  split_ifs <;> simp_all

theorem refusal?_eq_corruptsDescriptor_iff {block : BlockCopy}
    (nonnegative : 0 ≤ block.length.toInt)
    (descriptor : Word) :
    block.refusal? descriptor =
        some (.corruptsDescriptor descriptor block.sourceRange block.targetRange) ↔
      block.TouchesDescriptor descriptor := by
  rw [← touches_iff, refusal?, if_neg (by rw [length_lt_zero_iff]; omega)]
  split_ifs <;> simp_all

theorem refusal?_eq_outOfBounds_iff {block : BlockCopy} {descriptor : Word}
    (nonnegative : 0 ≤ block.length.toInt)
    (apart : ¬block.TouchesDescriptor descriptor) :
    block.refusal? descriptor =
        some (.outOfBounds block.sourceRange block.targetRange) ↔
      block.LeavesMemory := by
  rw [← touches_iff] at apart
  rw [← not_iff_not, ← isInside_iff, refusal?,
    if_neg (by rw [length_lt_zero_iff]; omega), if_neg apart]
  split_ifs <;> simp_all

/-- Exactly the copies with a length, away from their descriptor and inside the
memory are carried out. -/
theorem refusal?_eq_none_iff (block : BlockCopy) (descriptor : Word) :
    block.refusal? descriptor = none ↔
      0 ≤ block.length.toInt ∧ ¬block.TouchesDescriptor descriptor ∧
        ¬block.LeavesMemory := by
  rw [← touches_iff, ← isInside_iff, refusal?]
  have sign := length_lt_zero_iff block
  split_ifs <;> simp_all

/-! ## Moves -/

/-- The addresses that the cell at an offset is moved between. -/
def ReachesMemory (block : BlockCopy) (offset : Nat) : Prop :=
  Memory.IsAddress (block.source.toInt + offset) ∧
    Memory.IsAddress (block.target.toInt + offset)

/-- The cell moved first is neither read nor written by the other move. -/
def Before (block : BlockCopy) (first second : Nat) : Prop :=
  first ≠ second ∧
    block.target.toInt + first ≠ block.source.toInt + second

/-- The address at an offset does not wrap around. -/
theorem toInt_add_offset {address : Word} {offset : Nat}
    (inside : Memory.IsAddress (address.toInt + offset)) :
    (address + Int32.ofNat offset).toInt = address.toInt + offset := by
  unfold Memory.IsAddress dataSize at inside
  rw [Int32.toInt_add, Int32.toInt_ofNat', Int32.size, Int.add_bmod_bmod]
  exact Int.bmod_eq_of_le (by omega) (by omega)

theorem exists_moveCell (block : BlockCopy) (memory : Memory) {offset : Nat}
    (reaches : block.ReachesMemory offset) :
    ∃ moved, block.moveCell memory offset = .ok moved ∧
      moved.lastAddress = some (block.target.toInt + offset) ∧
      ∀ address, moved.contents address =
        if address = block.target.toInt + offset then
          memory.contents (block.source.toInt + offset)
        else memory.contents address := by
  have readAddress := toInt_add_offset reaches.1
  have writeAddress := toInt_add_offset reaches.2
  obtain ⟨value, found⟩ := memory.exists_contents reaches.1
  obtain ⟨moved, written, lastAddress, contents⟩ :=
    memory.exists_write value (writeAddress ▸ reaches.2)
  rw [writeAddress] at lastAddress contents
  refine ⟨moved, ?_, lastAddress, ?_⟩
  · have read := (memory.read_eq_ok_iff _ _).mpr (readAddress ▸ found)
    rw [moveCell, read]
    exact written
  · intro address
    rw [contents, found]

/-- Moving cells one after the other moves each of them whole, as long as no
cell is read after it was written. -/
theorem exists_moveCells (block : BlockCopy) (offsets : List Nat) (memory : Memory)
    (reaches : ∀ offset ∈ offsets, block.ReachesMemory offset)
    (ordered : offsets.Pairwise block.Before) :
    ∃ moved, block.moveCells memory offsets = (.ok (), moved) ∧
      (∀ offset ∈ offsets,
        moved.contents (block.target.toInt + offset) =
          memory.contents (block.source.toInt + offset)) ∧
      (∀ address, (∀ offset ∈ offsets, address ≠ block.target.toInt + offset) →
        moved.contents address = memory.contents address) ∧
      moved.lastAddress =
        (offsets.getLast?.map fun offset : Nat => block.target.toInt + offset).or
          memory.lastAddress := by
  induction offsets generalizing memory with
  | nil => exact ⟨memory, rfl, by simp, fun _ _ => rfl, rfl⟩
  | cons offset rest inductionHypothesis =>
      rw [List.forall_mem_cons] at reaches
      rw [List.pairwise_cons] at ordered
      obtain ⟨next, first, nextLast, nextContents⟩ :=
        block.exists_moveCell memory reaches.1
      obtain ⟨moved, others, copied, kept, last⟩ :=
        inductionHypothesis next reaches.2 ordered.2
      -- The first cell is not written again, and no later cell reads it: `ordered.1`
      -- is what carries the copied cells through the rest of the move.
      refine ⟨moved, ?_, ?_, ?_, ?_⟩
      · rw [moveCells, first]
        exact others
      · intro current member
        rcases List.mem_cons.mp member with rfl | later
        · have untouched : ∀ other ∈ rest,
              block.target.toInt + (current : Int) ≠ block.target.toInt + other := by
            intro other otherLater same
            have different := (ordered.1 other otherLater).1
            omega
          rw [kept _ untouched, nextContents, if_pos rfl]
        · have unwritten := (ordered.1 current later).2
          rw [copied current later, nextContents, if_neg (Ne.symm unwritten)]
      · intro address outside
        rw [List.forall_mem_cons] at outside
        rw [kept address outside.2, nextContents, if_neg outside.1]
      · rw [last, nextLast]
        cases rest with
        | nil => rfl
        | cons second later =>
            rw [List.getLast?_cons_cons]
            obtain ⟨final, isLast⟩ : ∃ final, (second :: later).getLast? = some final :=
              ⟨_, List.getLast?_eq_getLast_of_ne_nil (List.cons_ne_nil second later)⟩
            rw [isLast]
            rfl

theorem offsets_eq (block : BlockCopy) :
    block.offsets =
      if block.source.toInt < block.target.toInt then
        (List.range block.length.toInt.toNat).reverse
      else List.range block.length.toInt.toNat := by
  simp only [offsets, Int32.lt_iff_toInt_lt]

/-- In the order that a move chooses, no cell is written before it is read. -/
theorem pairwise_offsets (block : BlockCopy) :
    block.offsets.Pairwise block.Before := by
  have ascending := List.pairwise_lt_range (n := block.length.toInt.toNat)
  rw [offsets_eq]
  split_ifs with below
  · rw [List.pairwise_reverse]
    exact ascending.imp fun {first second} less => ⟨by omega, by omega⟩
  · exact ascending.imp fun {first second} less => ⟨by omega, by omega⟩

theorem mem_offsets (block : BlockCopy) (offset : Nat) :
    offset ∈ block.offsets ↔ (offset : Int) < block.length.toInt := by
  rw [offsets_eq]
  split_ifs <;> simp only [List.mem_reverse, List.mem_range, Int.lt_toNat]

/-- A move ends at the cell with offset zero or at the last one. -/
theorem getLast?_offsets (block : BlockCopy) :
    block.offsets.getLast? =
      if block.length.toInt ≤ 0 then none
      else if block.source.toInt < block.target.toInt then some 0
      else some (block.length.toInt.toNat - 1) := by
  rw [offsets_eq]
  by_cases nonpositive : block.length.toInt ≤ 0
  · rw [if_pos nonpositive, Int.toNat_of_nonpos nonpositive]
    split_ifs <;> rfl
  · rw [if_neg nonpositive]
    obtain ⟨last, count⟩ : ∃ last, block.length.toInt.toNat = last + 1 :=
      ⟨block.length.toInt.toNat - 1, by omega⟩
    rw [count]
    split_ifs
    · rw [List.getLast?_reverse, List.head?_range, if_neg (by omega)]
    · rw [List.range_succ, List.getLast?_append]
      rfl

theorem reachesMemory_of_stays {block : BlockCopy}
    (stays : ¬block.LeavesMemory)
    {offset : Nat}
    (inBlock : (offset : Int) < block.length.toInt) :
    block.ReachesMemory offset := by
  constructor
  · by_contra outside
    refine stays ⟨_, Or.inl ?_, outside⟩
    unfold InSource
    omega
  · by_contra outside
    refine stays ⟨_, Or.inr ?_, outside⟩
    unfold InTarget
    omega

/-- A move between blocks inside the memory succeeds and moves the block
whole. -/
theorem exists_move {block : BlockCopy}
    (nonnegative : 0 ≤ block.length.toInt)
    (stays : ¬block.LeavesMemory)
    (memory : Memory) :
    ∃ moved, block.move memory = (.ok (), moved) ∧ block.Moved memory moved := by
  have reaches : ∀ offset ∈ block.offsets, block.ReachesMemory offset := by
    intro offset member
    exact reachesMemory_of_stays stays ((mem_offsets block offset).mp member)
  obtain ⟨moved, succeeds, copied, kept, last⟩ :=
    block.exists_moveCells block.offsets memory reaches block.pairwise_offsets
  refine ⟨moved, succeeds, ?_, ?_, ?_⟩
  · intro offset lower upper
    obtain ⟨position, rfl⟩ := Int.eq_ofNat_of_zero_le lower
    exact copied position ((mem_offsets block position).mpr upper)
  · intro address outside
    refine kept address fun offset member same => outside ?_
    have upper := (mem_offsets block offset).mp member
    unfold InTarget
    omega
  · rw [last, getLast?_offsets]
    by_cases empty : block.length.toInt = 0
    · rw [if_pos (by omega), if_pos empty]
      rfl
    · rw [if_neg (by omega), if_neg empty]
      split_ifs
      · simp only [Option.map_some, Option.some_or, Option.some.injEq]
        omega
      · simp only [Option.map_some, Option.some_or, Option.some.injEq]
        omega

/-- A move determines the memory after it. -/
theorem Moved.unique {block : BlockCopy} {before first second : Memory}
    (firstMoved : block.Moved before first)
    (secondMoved : block.Moved before second) :
    first = second := by
  apply Memory.ext_contents
  · intro address
    by_cases inTarget : block.InTarget address
    · obtain ⟨lower, upper⟩ := inTarget
      have firstCopied := firstMoved.copied (address - block.target.toInt)
        (by omega) (by omega)
      have secondCopied := secondMoved.copied (address - block.target.toInt)
        (by omega) (by omega)
      rw [show block.target.toInt + (address - block.target.toInt) = address by omega]
        at firstCopied secondCopied
      rw [firstCopied, secondCopied]
    · rw [firstMoved.kept address inTarget, secondMoved.kept address inTarget]
  · rw [firstMoved.lastAddress, secondMoved.lastAddress]

end BlockCopy

/-! ## Descriptors -/

namespace Memory

/-- The three cells of a descriptor hold a block copy. -/
structure Describes (memory : Memory) (descriptor : Word) (block : BlockCopy) :
    Prop where
  source : memory.contents descriptor.toInt = some block.source
  target : memory.contents (descriptor.toInt + 1) = some block.target
  length : memory.contents (descriptor.toInt + 2) = some block.length

theorem toInt_add_of_isAddress {address : Word}
    (inside : IsAddress address.toInt)
    {distance : Nat}
    (small : distance ≤ 2) :
    (address + Int32.ofNat distance).toInt = address.toInt + distance := by
  unfold IsAddress dataSize at inside
  have value : (Int32.ofNat distance).toInt = distance :=
    Word.toInt_ofNat_of_le (by unfold Word.highest; omega)
  rw [Word.toInt_add_of_range] <;> rw [value]
  · unfold Word.lowest
    omega
  · unfold Word.highest
    omega

/-- A descriptor that leaves the memory is not read; its first address outside
is to blame. -/
theorem readDescriptor_of_outside (memory : Memory) {descriptor : Word} {address : Int}
    (outside : outsideCell? descriptor = some address) :
    memory.readDescriptor descriptor = .error ⟨Int32.ofInt address⟩ := by
  rcases outsideCell?_eq_some outside with
    ⟨rfl, first⟩ | ⟨rfl, first, second⟩ | ⟨rfl, first, second, third⟩
  · rw [readDescriptor, Int32.ofInt_toInt, memory.read_eq_error_of_outside first]
    rfl
  · have next : (descriptor + 1).toInt = descriptor.toInt + 1 :=
      toInt_add_of_isAddress first (show 1 ≤ 2 by omega)
    obtain ⟨source, sourceFound⟩ := memory.exists_contents first
    rw [readDescriptor, (memory.read_eq_ok_iff _ _).mpr sourceFound,
      ← Word.eq_ofInt_of_toInt_eq next, memory.read_eq_error_of_outside (next ▸ second)]
    rfl
  · have next : (descriptor + 1).toInt = descriptor.toInt + 1 :=
      toInt_add_of_isAddress first (show 1 ≤ 2 by omega)
    have last : (descriptor + 2).toInt = descriptor.toInt + 2 :=
      toInt_add_of_isAddress first (show 2 ≤ 2 by omega)
    obtain ⟨source, sourceFound⟩ := memory.exists_contents first
    obtain ⟨target, targetFound⟩ := memory.exists_contents second
    rw [readDescriptor, (memory.read_eq_ok_iff _ _).mpr sourceFound,
      (memory.read_eq_ok_iff (descriptor + 1) _).mpr (next ▸ targetFound),
      ← Word.eq_ofInt_of_toInt_eq last, memory.read_eq_error_of_outside (last ▸ third)]
    rfl

/-- A descriptor inside the memory describes a block copy. -/
theorem exists_describes (memory : Memory) {descriptor : Word}
    (inside : outsideCell? descriptor = none) :
    ∃ block, memory.Describes descriptor block := by
  simp only [outsideCell?, List.find?_eq_none, descriptorCells, List.forall_mem_cons,
    Bool.not_eq_true', decide_eq_false_iff_not, not_not] at inside
  obtain ⟨first, second, third, -⟩ := inside
  obtain ⟨source, sourceFound⟩ := memory.exists_contents first
  obtain ⟨target, targetFound⟩ := memory.exists_contents second
  obtain ⟨length, lengthFound⟩ := memory.exists_contents third
  exact ⟨⟨source, target, length⟩, sourceFound, targetFound, lengthFound⟩

theorem readDescriptor_of_describes {memory : Memory} {descriptor : Word}
    {block : BlockCopy}
    (describes : memory.Describes descriptor block) :
    memory.readDescriptor descriptor = .ok block := by
  have inside := isAddress_of_contents describes.source
  have second : (descriptor + 1).toInt = descriptor.toInt + 1 :=
    toInt_add_of_isAddress inside (show 1 ≤ 2 by omega)
  have third : (descriptor + 2).toInt = descriptor.toInt + 2 :=
    toInt_add_of_isAddress inside (show 2 ≤ 2 by omega)
  rw [readDescriptor,
    (memory.read_eq_ok_iff _ _).mpr describes.source,
    (memory.read_eq_ok_iff (descriptor + 1) _).mpr (second ▸ describes.target),
    (memory.read_eq_ok_iff (descriptor + 2) _).mpr (third ▸ describes.length)]
  rfl

/-- A copy whose descriptor leaves the memory fails and changes nothing. -/
theorem copyBlock_of_outside (memory : Memory) {descriptor : Word} {address : Int}
    (outside : outsideCell? descriptor = some address) :
    memory.copyBlock descriptor =
      (.error (.invalidMemoryAccess ⟨Int32.ofInt address⟩), memory) := by
  rw [copyBlock, memory.readDescriptor_of_outside outside]

/-- A refused copy fails and changes nothing. -/
theorem copyBlock_of_refusal {memory : Memory} {descriptor : Word} {block : BlockCopy}
    {refusal : CopyRefusal}
    (describes : memory.Describes descriptor block)
    (refused : block.refusal? descriptor = some refusal) :
    memory.copyBlock descriptor = (.error (.illegalCopy refusal), memory) := by
  rw [copyBlock, readDescriptor_of_describes describes]
  simp only [refused]

/-- A copy that is not refused succeeds and moves its block. -/
theorem exists_copyBlock {memory : Memory} {descriptor : Word} {block : BlockCopy}
    (describes : memory.Describes descriptor block)
    (accepted : block.refusal? descriptor = none) :
    ∃ moved, memory.copyBlock descriptor = (.ok (), moved) ∧
      block.Moved memory moved := by
  obtain ⟨nonnegative, -, stays⟩ :=
    (block.refusal?_eq_none_iff descriptor).mp accepted
  obtain ⟨moved, succeeds, whole⟩ := BlockCopy.exists_move nonnegative stays memory
  refine ⟨moved, ?_, whole⟩
  rw [copyBlock, readDescriptor_of_describes describes]
  simp only [accepted, succeeds]
  rfl

end Memory

/-! ## The instruction -/

namespace Machine

theorem execute_copy (machine : Machine) (descriptor : Word) :
    machine.execute .copy descriptor =
      match machine.memory.copyBlock descriptor with
      | (.ok (), memory) => (.ok .running, { machine with memory }.advance)
      | (.error fault, memory) => (.error fault, { machine with memory }) := by
  have performs : Opcode.copy.action = .perform .copy := rfl
  rw [execute_of_perform performs]
  rfl

theorem execute_copy_of_outside (machine : Machine) {descriptor : Word} {address : Int}
    (outside : outsideCell? descriptor = some address) :
    machine.execute .copy descriptor =
      (.error (.invalidMemoryAccess ⟨Int32.ofInt address⟩), machine) := by
  rw [execute_copy, machine.memory.copyBlock_of_outside outside]

theorem exists_execute_copy {machine : Machine} {descriptor : Word} {block : BlockCopy}
    (describes : machine.memory.Describes descriptor block)
    (accepted : block.refusal? descriptor = none) :
    ∃ moved, machine.execute .copy descriptor =
        (.ok .running, { machine with memory := moved }.advance) ∧
      block.Moved machine.memory moved := by
  obtain ⟨moved, succeeds, whole⟩ := Memory.exists_copyBlock describes accepted
  refine ⟨moved, ?_, whole⟩
  rw [execute_copy, succeeds]

/-- A described copy is refused for the reason that `BlockCopy.refusal?`
finds. -/
theorem execute_copy_refused_iff {machine : Machine} {descriptor : Word}
    {block : BlockCopy}
    (describes : machine.memory.Describes descriptor block)
    (refusal : CopyRefusal) :
    (machine.execute .copy descriptor).1 = .error (.illegalCopy refusal) ↔
      block.refusal? descriptor = some refusal := by
  cases found : block.refusal? descriptor with
  | some reason =>
      rw [execute_copy, Memory.copyBlock_of_refusal describes found]
      simp
  | none =>
      obtain ⟨moved, succeeds, -⟩ := exists_execute_copy describes found
      rw [succeeds]
      simp

/-- A copy fails exactly for these reasons, the first of them that applies:
its descriptor leaves the memory, the length is negative, a block touches the
descriptor, a block leaves the memory.  Otherwise the block arrives whole, all
other cells stay as they were, and the machine moves on. -/
theorem execute_copy_moves_unless_refused (machine : Machine) (descriptor : Word) :
    (∀ address, outsideCell? descriptor = some address →
      machine.execute .copy descriptor =
        (.error (.invalidMemoryAccess ⟨Int32.ofInt address⟩), machine)) ∧
    (outsideCell? descriptor = none →
      ∃ block, machine.memory.Describes descriptor block) ∧
    ∀ block, machine.memory.Describes descriptor block →
      ((machine.execute .copy descriptor).1 =
          .error (.illegalCopy (.negativeLength block.length)) ↔
        block.length.toInt < 0) ∧
      (0 ≤ block.length.toInt →
        ((machine.execute .copy descriptor).1 =
            .error (.illegalCopy
              (.corruptsDescriptor descriptor block.sourceRange block.targetRange)) ↔
          block.TouchesDescriptor descriptor)) ∧
      (0 ≤ block.length.toInt → ¬block.TouchesDescriptor descriptor →
        ((machine.execute .copy descriptor).1 =
            .error (.illegalCopy (.outOfBounds block.sourceRange block.targetRange)) ↔
          0 < block.length.toInt ∧ block.LeavesMemory)) ∧
      (0 ≤ block.length.toInt → ¬block.TouchesDescriptor descriptor →
        ¬(0 < block.length.toInt ∧ block.LeavesMemory) →
        ∃ after, machine.execute .copy descriptor = (.ok .running, after) ∧
          block.Moved machine.memory after.memory ∧
          (∀ cell ∈ descriptorCells descriptor,
            after.memory.contents cell = machine.memory.contents cell) ∧
          after.registers.accumulator = machine.registers.accumulator ∧
          after.registers.programCounter = machine.registers.programCounter + 1 ∧
          after.code = machine.code ∧ after.halted = machine.halted) := by
  refine ⟨fun address => machine.execute_copy_of_outside,
    machine.memory.exists_describes, fun block describes => ?_⟩
  have refused := execute_copy_refused_iff describes
  refine ⟨?_, fun nonnegative => ?_, fun nonnegative apart => ?_,
    fun nonnegative apart fits => ?_⟩
  · rw [refused]
    exact block.refusal?_eq_negativeLength_iff descriptor
  · rw [refused]
    exact BlockCopy.refusal?_eq_corruptsDescriptor_iff nonnegative descriptor
  · rw [refused, BlockCopy.refusal?_eq_outOfBounds_iff nonnegative apart]
    exact ⟨fun leaving => ⟨BlockCopy.length_pos_of_leavesMemory leaving, leaving⟩,
      And.right⟩
  · have stays : ¬block.LeavesMemory := fun leaving =>
      fits ⟨BlockCopy.length_pos_of_leavesMemory leaving, leaving⟩
    obtain ⟨moved, succeeds, whole⟩ := exists_execute_copy describes
      ((block.refusal?_eq_none_iff descriptor).mpr ⟨nonnegative, apart, stays⟩)
    refine ⟨_, succeeds, whole, fun cell member => ?_, rfl, rfl, rfl, rfl⟩
    exact whole.kept cell fun inTarget => apart ⟨cell, member, Or.inr inTarget⟩

/-- A block of three cells moves up by one over itself; a descriptor at the last
cell leaves the memory. -/
theorem execute_copy_moves_unless_refused_upward :
    let memory := (((Memory.empty.writeCell ⟨0, by decide⟩ 10).writeCell
      ⟨1, by decide⟩ 11).writeCell ⟨2, by decide⟩ 3).writeCell ⟨12, by decide⟩ 7
    let machine : Machine := { fresh with memory }
    outsideCell? 0 = none ∧
    (∃ after, machine.execute .copy 0 = (.ok .running, after) ∧
      after.memory.contents 13 = some 7 ∧ after.memory.lastAddress = some 11) ∧
    machine.execute .copy 511 = (.error (.invalidMemoryAccess ⟨512⟩), machine) := by
  intro memory machine
  have inside : outsideCell? 0 = none := by decide
  have describes : memory.Describes 0 ⟨10, 11, 3⟩ := by
    constructor <;> decide +kernel
  have apart : ¬(BlockCopy.mk 10 11 3).TouchesDescriptor 0 := by
    rw [← BlockCopy.touches_iff]
    decide
  have stays : ¬(BlockCopy.mk 10 11 3).LeavesMemory := by
    rw [← BlockCopy.isInside_iff]
    decide
  obtain ⟨after, succeeds, whole, -⟩ :=
    ((execute_copy_moves_unless_refused machine 0).2.2 ⟨10, 11, 3⟩ describes).2.2.2
      (by decide) apart fun leaving => stays leaving.2
  have moved := whole.copied 2 (by decide) (by decide)
  have held : memory.contents 12 = some 7 := by decide +kernel
  have outside := (execute_copy_moves_unless_refused machine 511).1 512 (by decide)
  exact ⟨inside, ⟨after, succeeds, moved.trans held, whole.lastAddress⟩, outside⟩

end Machine
end AccumulatorMachine
