import AccumulatorMachine.CommandLine.Listing
import AccumulatorMachine.Proofs.AlikeMachines
import AccumulatorMachine.Proofs.BlankText
import AccumulatorMachine.Proofs.LoadedLines

/-!
# Listings determine programs

The text of a listing splits in lines, and each line in words, in one way only,
and numbers are written in one way only.  So machines with the same listing hold
the same numbers in their cells, and instructions that differ at most in an
argument that is not shown; started alike, they step alike.
-/

namespace AccumulatorMachine

/-! ## Numbers -/

theorem toDigits_ten_injective : Function.Injective (Nat.toDigits 10) := by
  intro first second same
  calc
    first = Nat.ofDigitChars 10 (Nat.toDigits 10 first) 0 :=
      Nat.ofDigitChars_ten_toDigits.symm
    _ = Nat.ofDigitChars 10 (Nat.toDigits 10 second) 0 := by rw [same]
    _ = second := Nat.ofDigitChars_ten_toDigits

theorem toDigits_sixteen_injective : Function.Injective (Nat.toDigits 16) := by
  intro first second same
  apply Option.some.inj
  calc
    some first = Hexadecimal.unsigned? (Nat.toDigits 16 first) :=
      ((Hexadecimal.unsigned?_eq_some_iff _ _).mpr (Hexadecimal.magnitude_toDigits first)).symm
    _ = Hexadecimal.unsigned? (Nat.toDigits 16 second) := by rw [same]
    _ = some second :=
      (Hexadecimal.unsigned?_eq_some_iff _ _).mpr (Hexadecimal.magnitude_toDigits second)

theorem isToken_toDigits_ten (number : Nat) : Text.IsToken (Nat.toDigits 10 number) where
  ne_nil := Nat.toDigits_ne_nil
  not_isBlank c member := by
    have digit := Nat.isDigit_of_mem_toDigits (by decide) (by decide) member
    rw [Char.isDigit_iff_toNat] at digit
    change 0x30 ≤ c.toNat ∧ c.toNat ≤ 0x39 at digit
    unfold Text.isBlank
    simp
    omega

theorem isToken_toDigits_sixteen (number : Nat) : Text.IsToken (Nat.toDigits 16 number) where
  ne_nil := Nat.toDigits_ne_nil
  not_isBlank :=
    Hexadecimal.Denotes.not_isBlank (.unsigned (Hexadecimal.magnitude_toDigits number))

theorem repr_injective : Function.Injective Nat.repr := by
  intro first second same
  apply toDigits_ten_injective
  rw [← Nat.toList_repr, same, Nat.toList_repr]

namespace Decimal

theorem toList_ofInt_negSucc (predecessor : Nat) :
    (ofInt (.negSucc predecessor)).toList = '-' :: Nat.toDigits 10 (predecessor + 1) := by
  rw [ofInt, String.toList_append, Nat.toList_repr]
  rfl

/-- The numeral of a negative number is none of another number. -/
theorem toDigits_ne_ofInt_negSucc (magnitude predecessor : Nat) :
    Nat.toDigits 10 magnitude ≠ (ofInt (.negSucc predecessor)).toList := by
  intro same
  rw [toList_ofInt_negSucc] at same
  have member : '-' ∈ Nat.toDigits 10 magnitude := same ▸ List.mem_cons_self
  have digit := Nat.isDigit_of_mem_toDigits (by decide) (by decide) member
  revert digit
  decide

theorem ofInt_injective : Function.Injective ofInt := by
  intro first second same
  rw [← String.toList_inj] at same
  match first, second with
  | .ofNat first, .ofNat second =>
      change (Nat.repr first).toList = (Nat.repr second).toList at same
      rw [Nat.toList_repr, Nat.toList_repr] at same
      rw [toDigits_ten_injective same]
  | .negSucc first, .negSucc second =>
      rw [toList_ofInt_negSucc, toList_ofInt_negSucc, List.cons.injEq] at same
      rw [Nat.succ.inj (toDigits_ten_injective same.2)]
  | .ofNat first, .negSucc second =>
      change (Nat.repr first).toList = _ at same
      rw [Nat.toList_repr] at same
      exact absurd same (toDigits_ne_ofInt_negSucc first second)
  | .negSucc first, .ofNat second =>
      change _ = (Nat.repr second).toList at same
      rw [Nat.toList_repr] at same
      exact absurd same.symm (toDigits_ne_ofInt_negSucc second first)

theorem ofWord_injective : Function.Injective ofWord := by
  intro first second same
  exact Int32.toInt_inj.mp (ofInt_injective same)

theorem isToken_ofWord (word : Word) : Text.IsToken (ofWord word).toList := by
  rw [ofWord]
  match word.toInt with
  | .ofNat magnitude =>
      change Text.IsToken (Nat.repr magnitude).toList
      rw [Nat.toList_repr]
      exact isToken_toDigits_ten magnitude
  | .negSucc predecessor =>
      rw [toList_ofInt_negSucc]
      exact ⟨List.cons_ne_nil _ _, List.forall_mem_cons.mpr
        ⟨by decide, (isToken_toDigits_ten _).not_isBlank⟩⟩

end Decimal

theorem Hexadecimal.ofWord_injective : Function.Injective Hexadecimal.ofWord := by
  intro first second same
  have found := Hexadecimal.read_ofWord first
  rw [same, Hexadecimal.read_ofWord, Except.ok.injEq] at found
  exact found.symm

namespace Word

theorem toList_bitsText (word : Word) :
    word.bitsText.toList = '0' :: 'x' :: Nat.toDigits 16 word.toUInt32.toNat := by
  unfold bitsText
  simp

theorem bitsText_injective : Function.Injective bitsText := by
  intro first second same
  rw [← String.toList_inj, toList_bitsText, toList_bitsText, List.cons.injEq,
    List.cons.injEq] at same
  have bits := UInt32.toNat_inj.mp (toDigits_sixteen_injective same.2.2)
  exact Int32.toBitVec_inj.mp (congrArg UInt32.toBitVec bits)

theorem isToken_bitsText (word : Word) : Text.IsToken word.bitsText.toList := by
  rw [toList_bitsText]
  have digits := (isToken_toDigits_sixteen word.toUInt32.toNat).not_isBlank
  exact ⟨List.cons_ne_nil _ _, List.forall_mem_cons.mpr
    ⟨by decide, List.forall_mem_cons.mpr ⟨by decide, digits⟩⟩⟩

end Word

/-! ## Lines -/

namespace Text

theorem onlySpaces_append {first second : Text} (start : OnlySpaces first)
    (stop : OnlySpaces second) : OnlySpaces (first ++ second) := by
  intro c member
  rcases List.mem_append.mp member with inFirst | inSecond
  · exact start c inFirst
  · exact stop c inSecond

theorem IsToken.onlySpaces {token : Text} (isToken : IsToken token) : OnlySpaces token :=
  fun c member => Or.inr (isToken.not_isBlank c member)

theorem OnlySpaces.lineFeed_notMem {line : Text} (only : OnlySpaces line) : '\n' ∉ line := by
  intro member
  rcases only '\n' member with space | visible
  · revert space
    decide
  · revert visible
    decide

theorem onlySpaces_iff (text : Text) :
    OnlySpaces text ↔ (text.all fun c => c == ' ' || !isBlank c) = true := by
  simp only [List.all_eq_true, Bool.or_eq_true, beq_iff_eq, Bool.not_eq_true', OnlySpaces]

instance (text : Text) : Decidable (OnlySpaces text) :=
  decidable_of_iff _ (onlySpaces_iff text).symm

theorem words_replicate_append (count : Nat) (text : Text) :
    words (List.replicate count ' ' ++ text) = words text := by
  induction count with
  | zero => rfl
  | succ count inductionHypothesis =>
      rw [List.replicate_succ, List.cons_append, words_cons_of_isBlank (by decide),
        inductionHypothesis]

end Text

/-- Lines without line feeds can be told from the text they are written in. -/
theorem Program.unlines_injective {first second : List Text}
    (firstLines : ∀ line ∈ first, Text.OnlySpaces line)
    (secondLines : ∀ line ∈ second, Text.OnlySpaces line)
    (same : unlines first = unlines second) :
    first = second := by
  have split {content : List Text} (areLines : ∀ line ∈ content, Text.OnlySpaces line) :
      Text.pieces (unlines content) = content.map fun line => line ++ ['\n'] := by
    induction content with
    | nil => rfl
    | cons line rest inductionHypothesis =>
        rw [List.forall_mem_cons] at areLines
        rw [unlines, List.flatMap_cons, List.append_assoc, List.singleton_append,
          Text.pieces_append_lineFeed areLines.1.lineFeed_notMem, List.map_cons]
        exact congrArg _ (inductionHypothesis areLines.2)
  have pieces := split firstLines
  rw [same, split secondLines] at pieces
  exact ((List.map_inj_right fun _ _ => List.append_cancel_right).mp pieces).symm

namespace Machine

theorem toList_column (text : Text) :
    (column text).toList = List.replicate (4 - text.length) ' ' ++ text := by
  rw [column, String.toList_ofList, List.leftpad]

theorem onlySpaces_column {text : Text} (isToken : Text.IsToken text) :
    Text.OnlySpaces (column text).toList := by
  rw [toList_column]
  apply Text.onlySpaces_append _ isToken.onlySpaces
  intro c member
  exact Or.inl (List.eq_of_mem_replicate member)

end Machine

/-! ## Instructions -/

namespace Instruction

/-- The words of an instruction as a reader sees it. -/
def shownWords (instruction : Instruction) : List Text :=
  match Opcode.ofCode? instruction.opcode with
  | some opcode =>
      if opcode.takesArgument then
        [opcode.mnemonic.toList, (Decimal.ofWord instruction.argument).toList]
      else
        [opcode.mnemonic.toList]
  | none =>
      ["???".toList, instruction.opcode.bitsText.toList,
        (Decimal.ofWord instruction.argument).toList]

theorem toList_text (instruction : Instruction) :
    instruction.text.toList = Text.spaced instruction.shownWords := by
  unfold text shownWords
  cases Opcode.ofCode? instruction.opcode with
  | some opcode =>
      simp only
      split
      · rw [Text.spaced_cons_cons, Text.spaced_singleton, String.toList_append,
          String.toList_append, List.append_assoc]
        rfl
      · rw [Text.spaced_singleton]
  | none =>
      rw [Text.spaced_cons_cons, Text.spaced_cons_cons, Text.spaced_singleton]
      simp only [String.toList_append, List.append_assoc]
      rfl

theorem isToken_shownWords (instruction : Instruction) :
    ∀ word ∈ instruction.shownWords, Text.IsToken word := by
  unfold shownWords
  have argument := Decimal.isToken_ofWord instruction.argument
  cases Opcode.ofCode? instruction.opcode with
  | some opcode =>
      have mnemonic := opcode.isToken_mnemonic
      simp only
      split
      · exact List.forall_mem_cons.mpr ⟨mnemonic, List.forall_mem_singleton.mpr argument⟩
      · exact List.forall_mem_singleton.mpr mnemonic
  | none =>
      have opcode := instruction.opcode.isToken_bitsText
      exact List.forall_mem_cons.mpr ⟨by decide, List.forall_mem_cons.mpr
        ⟨opcode, List.forall_mem_singleton.mpr argument⟩⟩

/-- What an instruction is shown as first. -/
def shownName (instruction : Instruction) : Text :=
  match Opcode.ofCode? instruction.opcode with
  | some opcode => opcode.mnemonic.toList
  | none => "???".toList

theorem head?_shownWords (instruction : Instruction) :
    instruction.shownWords.head? = some instruction.shownName := by
  unfold shownWords shownName
  cases Opcode.ofCode? instruction.opcode with
  | none => rfl
  | some opcode =>
      simp only
      split
      · rfl
      · rfl

/-- Instructions that are shown alike differ at most in an argument that is not
read. -/
theorem readsAlike_of_text_eq {first second : Instruction}
    (same : first.text = second.text) :
    first.ReadsAlike second := by
  have words : first.shownWords = second.shownWords := by
    rw [← String.toList_inj, toList_text, toList_text] at same
    rw [← Text.words_spaced first.isToken_shownWords, same,
      Text.words_spaced second.isToken_shownWords]
  have names : Opcode.ofMnemonic? first.shownName = Opcode.ofMnemonic? second.shownName := by
    have heads := congrArg List.head? words
    rw [head?_shownWords, head?_shownWords, Option.some.injEq] at heads
    rw [heads]
  have unknown : Opcode.ofMnemonic? "???".toList = none := by decide
  -- The name tells known opcodes apart, and these from unknown ones.  What else is
  -- compared depends on the opcode, so the words are opened case by case.
  unfold shownName at names
  unfold shownWords at words
  cases known : Opcode.ofCode? first.opcode with
  | some opcode =>
      cases otherKnown : Opcode.ofCode? second.opcode with
      | some other =>
          simp only [known, otherKnown, Opcode.ofMnemonic?_mnemonic, Option.some.injEq] at names
          subst names
          have sameOpcode : first.opcode = second.opcode := by
            rw [← Opcode.ofCode?_eq_some_iff.mp known, ← Opcode.ofCode?_eq_some_iff.mp otherKnown]
          refine ⟨sameOpcode, ?_⟩
          by_cases reads : opcode.takesArgument = true
          · simp only [known, otherKnown, if_pos reads, List.cons.injEq, and_true, true_and,
              String.toList_inj] at words
            exact Or.inr (Decimal.ofWord_injective words)
          · exact Or.inl ⟨opcode, known, Bool.eq_false_iff.mpr reads⟩
      | none =>
          simp only [known, otherKnown, Opcode.ofMnemonic?_mnemonic, unknown] at names
          cases names
  | none =>
      cases otherKnown : Opcode.ofCode? second.opcode with
      | some other =>
          simp only [known, otherKnown, Opcode.ofMnemonic?_mnemonic, unknown] at names
          cases names
      | none =>
          simp only [known, otherKnown, List.cons.injEq, and_true, true_and,
            String.toList_inj] at words
          exact ⟨Word.bitsText_injective words.1, Or.inr (Decimal.ofWord_injective words.2)⟩

end Instruction

/-! ## Cells -/

namespace Memory

theorem mem_nonzero_iff (memory : Memory) (index : CellIndex) (value : Word) :
    (index.val, value) ∈ memory.nonzero ↔ memory.cell index = value ∧ value ≠ 0 := by
  have at_ : memory.cells.toList[index.val]? = some (memory.cell index) := by
    rw [Vector.getElem?_toList, Vector.getElem?_eq_getElem index.isLt]
    rfl
  simp only [nonzero, List.mem_map, List.mem_filter, List.mem_zipIdx_iff_getElem?, Prod.exists,
    Prod.mk.injEq, bne_iff_ne]
  constructor
  · rintro ⟨_, _, ⟨found, nonzero⟩, rfl, rfl⟩
    rw [at_, Option.some.injEq] at found
    exact ⟨found, nonzero⟩
  · rintro ⟨rfl, nonzero⟩
    exact ⟨_, _, ⟨at_, nonzero⟩, rfl, rfl⟩

/-- The cells that are not zero determine all of them. -/
theorem cells_eq_of_nonzero_eq {first second : Memory}
    (same : first.nonzero = second.nonzero) :
    first.cells = second.cells := by
  have agree (index : CellIndex) : first.cell index = second.cell index := by
    by_cases zero : first.cell index = 0
    · by_contra different
      have member := (second.mem_nonzero_iff index _).mpr ⟨rfl, fun alsoZero =>
        different (zero.trans alsoZero.symm)⟩
      rw [← same, mem_nonzero_iff] at member
      exact different member.1
    · have member := (first.mem_nonzero_iff index _).mpr ⟨rfl, zero⟩
      rw [same, mem_nonzero_iff] at member
      exact member.1.symm
  apply Vector.ext
  intro position bound
  exact agree ⟨position, bound⟩

end Memory

namespace Machine

theorem toList_dataLine (cell : Nat × Word) :
    (dataLine cell).toList = (column (Nat.toDigits 16 cell.1)).toList ++
      ' ' :: ' ' :: Hexadecimal.ofWord cell.2 := by
  unfold dataLine Hexadecimal.text
  simp

theorem words_dataLine (cell : Nat × Word) :
    Text.words (dataLine cell).toList =
      [Nat.toDigits 16 cell.1, Hexadecimal.ofWord cell.2] := by
  rw [toList_dataLine, Text.words_append_space, Text.words_cons_of_isBlank (by decide),
    toList_column, Text.words_replicate_append,
    (isToken_toDigits_sixteen cell.1).words_eq, (Hexadecimal.isToken_ofWord cell.2).words_eq]
  rfl

theorem dataLine_injective : Function.Injective dataLine := by
  intro first second same
  have words := words_dataLine first
  rw [same, words_dataLine, List.cons.injEq, List.cons.injEq] at words
  exact Prod.ext (toDigits_sixteen_injective words.1.symm)
    (Hexadecimal.ofWord_injective words.2.1.symm)

theorem onlySpaces_dataLine (cell : Nat × Word) : Text.OnlySpaces (dataLine cell).toList := by
  rw [toList_dataLine]
  apply Text.onlySpaces_append (onlySpaces_column (isToken_toDigits_sixteen cell.1))
  have value := (Hexadecimal.isToken_ofWord cell.2).onlySpaces
  exact List.forall_mem_cons.mpr ⟨Or.inl rfl, List.forall_mem_cons.mpr ⟨Or.inl rfl, value⟩⟩

theorem onlySpaces_codeLine (machine : Machine) (position : Nat) :
    Text.OnlySpaces (machine.codeLine position).toList := by
  rw [codeLine, String.toList_append, String.toList_append, Nat.toList_repr]
  apply Text.onlySpaces_append
  · exact Text.onlySpaces_append (onlySpaces_column (isToken_toDigits_ten position)) (by decide)
  · unfold Code.text
    cases machine.code.get? position with
    | none => decide
    | some instruction =>
        simp only
        rw [Instruction.toList_text]
        exact Text.onlySpaces_spaced instruction.isToken_shownWords

/-! ## Listings -/

/-- The text of the listing. -/
def listingText (machine : Machine) : Text :=
  Program.unlines (machine.listing.map String.toList)

theorem listing_eq (machine : Machine) :
    machine.listing =
      ("code (" ++ Nat.repr machine.code.size ++ " instructions):") ::
        ((List.range machine.code.size).map machine.codeLine ++
          "data:" :: machine.memory.nonzero.map dataLine) := by
  rw [listing, List.append_assoc, List.append_assoc]
  rfl

theorem onlySpaces_listing (machine : Machine) :
    ∀ line ∈ machine.listing.map String.toList, Text.OnlySpaces line := by
  rw [List.forall_mem_map]
  have header : Text.OnlySpaces
      ("code (" ++ Nat.repr machine.code.size ++ " instructions):").toList := by
    rw [String.toList_append, String.toList_append, Nat.toList_repr]
    apply Text.onlySpaces_append _ (by decide)
    exact Text.onlySpaces_append (by decide) (isToken_toDigits_ten _).onlySpaces
  rw [listing_eq, List.forall_mem_cons, List.forall_mem_append, List.forall_mem_map,
    List.forall_mem_cons, List.forall_mem_map]
  exact ⟨header, fun position _ => machine.onlySpaces_codeLine position, by decide,
    fun cell _ => onlySpaces_dataLine cell⟩

/-- Machines with the same listing hold the same numbers, and programs that read
alike. -/
theorem contents_of_listingText_eq {first second : Machine}
    (same : first.listingText = second.listingText) :
    first.memory.cells = second.memory.cells ∧
      List.Forall₂ Instruction.ReadsAlike first.code.instructions second.code.instructions := by
  have lists : first.listing = second.listing := by
    have lines := Program.unlines_injective first.onlySpaces_listing
      second.onlySpaces_listing same
    exact (List.map_inj_right fun _ _ => String.toList_inj.mp).mp lines
  rw [listing_eq, listing_eq, List.cons.injEq] at lists
  obtain ⟨header, others⟩ := lists
  have size : first.code.size = second.code.size := by
    rw [String.append_left_inj, String.append_right_inj] at header
    exact repr_injective header
  -- The header says how many lines are code, so the lists part at the same place.
  obtain ⟨code, data⟩ := List.append_inj others (by simp [size])
  rw [List.cons.injEq] at data
  have nonzero : first.memory.nonzero = second.memory.nonzero :=
    (List.map_inj_right fun _ _ => fun equal => dataLine_injective equal).mp data.2
  refine ⟨Memory.cells_eq_of_nonzero_eq nonzero, ?_⟩
  rw [← size, List.map_inj_left] at code
  apply List.forall₂_of_length_eq_of_get
  · rw [Code.length_instructions, Code.length_instructions, size]
  · intro position inFirst inSecond
    have shown := code position (by simpa using inFirst)
    rw [codeLine, codeLine, String.append_right_inj] at shown
    apply Instruction.readsAlike_of_text_eq
    rw [Code.text, Code.text, Code.get?_eq, Code.get?_eq, List.getElem?_eq_getElem inFirst,
      List.getElem?_eq_getElem inSecond] at shown
    exact shown

/-- A loaded fresh machine has not started. -/
theorem idle_of_load_fresh {executable : Text} {machine : Machine}
    (loaded : fresh.load executable = (.ok (), machine)) :
    machine.registers = .zero ∧ machine.halted = false := by
  have carried := Executable.carried_carriedLines fresh executable
  rw [loaded] at carried
  exact ⟨carried.registers, carried.halted⟩

/-- Two texts that fresh machines load, with the same listing, give machines with
the same cells and as many instructions, which give the same results step after
step and hold the same numbers all along.  Their instructions differ at most in
the arguments of opcodes that take none. -/
theorem listing_determines_program {firstText secondText : Text} {first second : Machine}
    (firstLoaded : fresh.load firstText = (.ok (), first))
    (secondLoaded : fresh.load secondText = (.ok (), second))
    (same : first.listingText = second.listingText) :
    first.memory.cells = second.memory.cells ∧
    first.code.size = second.code.size ∧
    List.Forall₂ Instruction.ReadsAlike first.code.instructions second.code.instructions ∧
    ∀ steps,
      (afterSteps steps first).step.1 = (afterSteps steps second).step.1 ∧
      (afterSteps steps first).registers = (afterSteps steps second).registers ∧
      (afterSteps steps first).halted = (afterSteps steps second).halted ∧
      (afterSteps steps first).memory.cells = (afterSteps steps second).memory.cells := by
  obtain ⟨cells, code⟩ := contents_of_listingText_eq same
  obtain ⟨firstRegisters, firstActive⟩ := idle_of_load_fresh firstLoaded
  obtain ⟨secondRegisters, secondActive⟩ := idle_of_load_fresh secondLoaded
  have alike : first.Alike second :=
    ⟨firstRegisters.trans secondRegisters.symm, firstActive.trans secondActive.symm, cells, code⟩
  have size : first.code.size = second.code.size := by
    rw [← Code.length_instructions, ← Code.length_instructions, code.length_eq]
  refine ⟨cells, size, code, fun steps => ?_⟩
  have later := alike.afterSteps steps
  exact ⟨later.sameOutcome_step.result, later.registers, later.halted, later.cells⟩

/-- Two texts that give `NOP` and `HALT` other arguments, and of which one writes a
zero last. -/
theorem listing_determines_program_unread :
    let firstText := "0 5\n1f 0\n-1\n3 7\n4 0\n".toList
    let secondText := "0 -1\n1f 9\n-1\n3 7\n".toList
    ∃ first second, fresh.load firstText = (.ok (), first) ∧
      fresh.load secondText = (.ok (), second) ∧
      first.listingText = second.listingText ∧
      first.memory.lastWritten ≠ second.memory.lastWritten ∧
      first.code.instructions ≠ second.code.instructions ∧
      first.memory.cells = second.memory.cells ∧
      ∀ steps,
        (afterSteps steps first).step.1 = (afterSteps steps second).step.1 ∧
        (afterSteps steps first).registers = (afterSteps steps second).registers := by
  intro firstText secondText
  have firstLoaded : fresh.load firstText = (.ok (), (fresh.load firstText).2) :=
    Prod.ext (by decide +kernel) rfl
  have secondLoaded : fresh.load secondText = (.ok (), (fresh.load secondText).2) :=
    Prod.ext (by decide +kernel) rfl
  have same : (fresh.load firstText).2.listingText = (fresh.load secondText).2.listingText := by
    decide +kernel
  obtain ⟨cells, -, -, steps⟩ := listing_determines_program firstLoaded secondLoaded same
  refine ⟨_, _, firstLoaded, secondLoaded, same, by decide +kernel, by decide +kernel, cells, ?_⟩
  intro count
  obtain ⟨results, registers, -⟩ := steps count
  exact ⟨results, registers⟩

end Machine
end AccumulatorMachine
