import AccumulatorMachine.Proofs.ExecutableLoading
import AccumulatorMachine.Proofs.FaultPlaces
import Mathlib.Data.List.TakeWhile

/-!
# Lines of executable texts carried out one by one

A line can be faulty for its words, for their number, for a full code store or
for an address, given the lines before it and the machine these led to.  Loading
carries out the lines before the first faulty one and leaves what they alone
leave: their instructions behind those there were, their data in the memory, and
everything else as it was.
-/

namespace AccumulatorMachine

section Traversal

variable {ε α β : Type} {read : α → Except ε β}

theorem mapM_eq_ok_iff {content : List α} {values : List β} :
    content.mapM read = .ok values ↔
      List.Forall₂ (fun item value => read item = .ok value) content values := by
  induction content generalizing values with
  | nil =>
      rw [List.mapM_nil, List.forall₂_nil_left_iff]
      exact ⟨fun same => (Except.ok.inj same).symm, fun same => same ▸ rfl⟩
  | cons item rest inductionHypothesis =>
      simp only [List.mapM_cons, bind_eq_ok_iff, inductionHypothesis,
        List.forall₂_cons_left_iff]
      constructor
      · rintro ⟨value, first, others, later, same⟩
        exact ⟨value, others, first, later, (Except.ok.inj same).symm⟩
      · rintro ⟨value, others, first, later, rfl⟩
        exact ⟨value, first, others, later, rfl⟩

/-- Reading fails for the first item that cannot be read. -/
theorem mapM_eq_error_iff {content : List α} {error : ε} :
    content.mapM read = .error error ↔
      ∃ earlier item later, content = earlier ++ item :: later ∧
        (∀ other ∈ earlier, ∃ value, read other = .ok value) ∧
        read item = .error error := by
  induction content with
  | nil =>
      apply iff_of_false
      · rw [List.mapM_nil]
        intro failed
        cases failed
      · rintro ⟨earlier, item, later, split, -⟩
        exact List.append_ne_nil_of_right_ne_nil _ (List.cons_ne_nil _ _) split.symm
  | cons first rest inductionHypothesis =>
      rw [List.mapM_cons, bind_eq_error_iff]
      constructor
      · rintro (failed | ⟨value, succeeded, failed⟩)
        · exact ⟨[], first, rest, rfl, by simp, failed⟩
        · rw [bind_eq_error_iff] at failed
          rcases failed with failed | ⟨values, -, impossible⟩
          · obtain ⟨earlier, item, later, rfl, readable, failed⟩ :=
              inductionHypothesis.mp failed
            exact ⟨first :: earlier, item, later, rfl,
              List.forall_mem_cons.mpr ⟨⟨value, succeeded⟩, readable⟩, failed⟩
          · cases impossible
      · rintro ⟨earlier, item, later, split, readable, failed⟩
        cases earlier with
        | nil =>
            obtain ⟨rfl, -⟩ := List.cons.inj split
            exact Or.inl failed
        | cons _ earlier =>
            obtain ⟨rfl, rfl⟩ := List.cons.inj split
            obtain ⟨⟨value, succeeded⟩, others⟩ := List.forall_mem_cons.mp readable
            refine Or.inr ⟨value, succeeded, bind_eq_error_iff.mpr (Or.inl ?_)⟩
            exact inductionHypothesis.mpr ⟨earlier, item, later, rfl, others, failed⟩

theorem exists_mem_of_forall₂ {related : α → β → Prop} {content : List α} {values : List β}
    (areRelated : List.Forall₂ related content values) {value : β} (member : value ∈ values) :
    ∃ item ∈ content, related item value := by
  obtain ⟨index, within, rfl⟩ := List.mem_iff_getElem.mp member
  have inContent : index < content.length := areRelated.length_eq ▸ within
  exact ⟨content[index], List.getElem_mem inContent, areRelated.get inContent within⟩

theorem filterMap_of_forall₂ {related : α → β → Prop} (find : α → Option β)
    (finds : ∀ item value, related item value → find item = some value)
    {content : List α} {values : List β}
    (areRelated : List.Forall₂ related content values) :
    content.filterMap find = values := by
  induction areRelated with
  | nil => rfl
  | cons isRelated _ inductionHypothesis =>
      rw [List.filterMap_cons_some (finds _ _ isRelated), inductionHypothesis]

end Traversal

namespace Executable

/-! ## What lines hold -/

/-- The words of a line are the numerals of some numbers. -/
def Holds (line : Text) (numbers : List Word) : Prop :=
  List.Forall₂ (fun token (number : Word) => Hexadecimal.Denotes token number.toInt)
    (Text.words line) numbers

/-- The numbers on a line are an instruction. -/
def HoldsInstruction (line : Text) (instruction : Instruction) : Prop :=
  Holds line [instruction.opcode, instruction.argument]

/-- The numbers on a line are the address of a cell and a value. -/
def HoldsDatum (line : Text) (datum : Datum) : Prop :=
  Holds line [datum.addressWord, datum.value]

/-- A line ends the code, whatever numbers follow the sentinel on it. -/
def EndsCode (line : Text) : Prop :=
  ∃ others, Holds line (sentinel :: others)

/-- No line ended the code yet. -/
def InCode (before : List Text) : Prop :=
  ∀ line ∈ before, ¬EndsCode line

/-- A line cannot be carried out, given the lines before it and the machine they
led to: one of its words is no numeral, and none before that; the number of its
words is wrong; there is no room for another instruction; or no cell has that
address. -/
inductive LineFault (before : List Text) (machine : Machine) (line : Text) :
    LoadFault → Prop
  | invalidNumber {earlier later : List Text} {token : Text} :
      Text.words line = earlier ++ token :: later →
        (∀ other ∈ earlier, Hexadecimal.IsNumeral other) →
        ¬Hexadecimal.IsNumeral token →
        LineFault before machine line (.invalidNumber ⟨token⟩)
  | wrongTokenCount {numbers : List Word} :
      Holds line numbers →
        ¬(InCode before ∧ EndsCode line) →
        (Text.words line).length ≠ 2 →
        LineFault before machine line (.wrongTokenCount (Text.words line).length)
  | codeFull {opcode argument : Word} :
      InCode before →
        Holds line [opcode, argument] →
        opcode ≠ sentinel →
        machine.code.size = codeMax →
        LineFault before machine line (.codeFull .full)
  | invalidAddress {address value : Word} :
      ¬InCode before →
        Holds line [address, value] →
        address.toInt < 0 ∨ (dataSize : Int) ≤ address.toInt →
        LineFault before machine line (.invalidAddress ⟨address⟩)

/-- What a line that is carried out does to a machine while it is loaded. -/
inductive Effect (loading : Loading) (line : Text) : Loading → Prop
  | endsCode :
      loading.phase = .code →
        EndsCode line →
        Effect loading line { loading with phase := .data }
  | instruction {instruction : Instruction} {code : Code} :
      loading.phase = .code →
        ¬EndsCode line →
        HoldsInstruction line instruction →
        loading.machine.code.push instruction = .ok code →
        Effect loading line { loading with machine.code := code }
  | datum {datum : Datum} :
      loading.phase = .data →
        HoldsDatum line datum →
        Effect loading line
          { loading with
            machine.memory := loading.machine.memory.writeCell datum.address datum.value
            cells := loading.cells + 1 }

theorem readNumbers_eq_ok_iff (line : Text) (numbers : List Word) :
    Loading.readNumbers line = .ok numbers ↔ Holds line numbers := by
  rw [Loading.readNumbers, mapM_eq_ok_iff]
  simp only [mapError_eq_ok_iff, Hexadecimal.read_eq_ok_iff]
  rfl

theorem readNumbers_eq_error_iff (line : Text) (fault : LoadFault) :
    Loading.readNumbers line = .error fault ↔
      ∃ earlier token later, Text.words line = earlier ++ token :: later ∧
        (∀ other ∈ earlier, Hexadecimal.IsNumeral other) ∧
        ¬Hexadecimal.IsNumeral token ∧ fault = .invalidNumber ⟨token⟩ := by
  rw [Loading.readNumbers, mapM_eq_error_iff]
  simp only [mapError_eq_ok_iff, Hexadecimal.read_eq_ok_iff, mapError_eq_error_iff,
    Hexadecimal.read_eq_error_iff]
  constructor
  · rintro ⟨earlier, token, later, split, numerals, _, ⟨noNumeral, rfl⟩, rfl⟩
    exact ⟨earlier, token, later, split, numerals, noNumeral, rfl⟩
  · rintro ⟨earlier, token, later, split, numerals, noNumeral, rfl⟩
    exact ⟨earlier, token, later, split, numerals, _, ⟨noNumeral, rfl⟩, rfl⟩

theorem Holds.unique {line : Text} {first second : List Word}
    (firstHeld : Holds line first)
    (secondHeld : Holds line second) :
    first = second := by
  rw [← readNumbers_eq_ok_iff] at firstHeld secondHeld
  exact Except.ok.inj (firstHeld.symm.trans secondHeld)

theorem endsCode_iff {line : Text} {numbers : List Word} (holds : Holds line numbers) :
    EndsCode line ↔ numbers.head? = some sentinel := by
  constructor
  · rintro ⟨others, ends⟩
    rw [holds.unique ends, List.head?_cons]
  · intro starts
    obtain ⟨others, rfl⟩ := List.head?_eq_some_iff.mp starts
    exact ⟨others, holds⟩

instance : DecidablePred EndsCode := fun line =>
  match read : Loading.readNumbers line with
  | .ok numbers =>
      decidable_of_iff _ (endsCode_iff ((readNumbers_eq_ok_iff line numbers).mp read)).symm
  | .error fault => .isFalse fun ⟨others, ends⟩ => by
      rw [(readNumbers_eq_ok_iff line _).mpr ends] at read
      cases read

/-! ## One line -/

section Line

variable {loading : Loading} {line : Text}

theorem addLine_of_holds {numbers : List Word} (holds : Holds line numbers) :
    loading.addLine line = loading.addNumbers numbers := by
  rw [Loading.addLine, (readNumbers_eq_ok_iff line numbers).mpr holds]

theorem addLine_of_endsCode (inCode : loading.phase = .code) (ends : EndsCode line) :
    loading.addLine line = .ok { loading with phase := .data } := by
  obtain ⟨others, holds⟩ := ends
  rw [addLine_of_holds holds]
  unfold Loading.addNumbers
  simp only [inCode, List.head?_cons, if_true]

theorem addLine_of_instruction {opcode argument : Word}
    (inCode : loading.phase = .code)
    (holds : Holds line [opcode, argument])
    (notFinal : opcode ≠ sentinel) :
    loading.addLine line = loading.addInstruction ⟨opcode, argument⟩ := by
  rw [addLine_of_holds holds]
  unfold Loading.addNumbers
  simp only [inCode, List.head?_cons, Option.some.injEq, notFinal, if_false]

theorem addLine_of_datum {address value : Word}
    (inData : loading.phase = .data)
    (holds : Holds line [address, value]) :
    loading.addLine line = loading.addDatum address value := by
  rw [addLine_of_holds holds]
  unfold Loading.addNumbers
  simp only [inData]

theorem addLine_of_wrongTokenCount {numbers : List Word}
    (holds : Holds line numbers)
    (notFinal : ¬(loading.phase = .code ∧ EndsCode line))
    (count : (Text.words line).length ≠ 2) :
    loading.addLine line = .error (.wrongTokenCount (Text.words line).length) := by
  rw [holds.length_eq] at count ⊢
  have notPair {first second : Word} : numbers ≠ [first, second] := by
    rintro rfl
    exact count rfl
  rw [addLine_of_holds holds]
  rw [endsCode_iff holds] at notFinal
  unfold Loading.addNumbers
  cases phase : loading.phase with
  | code =>
      simp only [if_neg fun final => notFinal ⟨phase, final⟩]
  | data =>
      simp only

theorem addInstruction_of_full (instruction : Instruction)
    (full : loading.machine.code.size = codeMax) :
    loading.addInstruction instruction = .error (.codeFull .full) := by
  rw [Loading.addInstruction, Machine.pushCode,
    Code.push_of_full instruction (Nat.le_of_eq full.symm)]
  rfl

theorem addInstruction_of_push {instruction : Instruction} {code : Code}
    (pushed : loading.machine.code.push instruction = .ok code) :
    loading.addInstruction instruction = .ok { loading with machine.code := code } := by
  rw [Loading.addInstruction, Machine.pushCode, pushed]
  rfl

theorem addDatum_of_outside {address : Word} (value : Word)
    (outside : Memory.index? address = none) :
    loading.addDatum address value = .error (.invalidAddress ⟨address⟩) := by
  rw [Loading.addDatum, Machine.setData, Memory.write, outside]
  rfl

theorem addDatum_of_index {address : Word} {index : CellIndex} (value : Word)
    (inside : Memory.index? address = some index) :
    loading.addDatum address value =
      .ok { loading with
        machine.memory := loading.machine.memory.writeCell index value
        cells := loading.cells + 1 } := by
  rw [Loading.addDatum, Machine.setData, Memory.write, inside]
  rfl

/-- The words of a line are all numerals, or there is a first one that is none. -/
theorem exists_holds_or_lineFault (line : Text) :
    (∃ numbers, Holds line numbers) ∨
      ∃ fault, Loading.readNumbers line = .error fault ∧
        ∀ before machine, LineFault before machine line fault := by
  cases read : Loading.readNumbers line with
  | ok numbers => exact Or.inl ⟨numbers, (readNumbers_eq_ok_iff line numbers).mp read⟩
  | error fault =>
      obtain ⟨earlier, token, later, split, numerals, noNumeral, rfl⟩ :=
        (readNumbers_eq_error_iff line fault).mp read
      exact Or.inr ⟨_, rfl, fun before machine => .invalidNumber split numerals noNumeral⟩

/-- An instruction is refused when the code store is full, or appended. -/
theorem addLine_cases_of_instruction {before : List Text} {instruction : Instruction}
    (part : loading.phase = .code)
    (inCode : InCode before)
    (goesOn : ¬EndsCode line)
    (holds : HoldsInstruction line instruction) :
    (∃ fault, LineFault before loading.machine line fault ∧
      loading.addLine line = .error fault) ∨
    ∃ next, Effect loading line next ∧ loading.addLine line = .ok next := by
  have notFinal : instruction.opcode ≠ sentinel := fun final =>
    goesOn ((endsCode_iff holds).mpr (congrArg some final))
  rw [addLine_of_instruction part holds notFinal]
  cases pushed : loading.machine.code.push instruction with
  | ok code =>
      exact Or.inr ⟨_, .instruction part goesOn holds pushed, addInstruction_of_push pushed⟩
  | error refusal =>
      have full := (Code.push_eq_error_iff.mp pushed).1
      exact Or.inl ⟨_, .codeFull inCode holds notFinal full, addInstruction_of_full _ full⟩

/-- A datum is refused when no cell has its address, or written. -/
theorem addLine_cases_of_datum {before : List Text} {address value : Word}
    (part : loading.phase = .data)
    (notInCode : ¬InCode before)
    (holds : Holds line [address, value]) :
    (∃ fault, LineFault before loading.machine line fault ∧
      loading.addLine line = .error fault) ∨
    ∃ next, Effect loading line next ∧ loading.addLine line = .ok next := by
  rw [addLine_of_datum part holds]
  cases cell : Memory.index? address with
  | some index =>
      have word : address = (Datum.mk index value).addressWord := by
        rw [← Int32.toInt_inj, Datum.toInt_addressWord]
        exact (Memory.index?_eq_some_iff address index).mp cell
      rw [word] at holds
      have isDatum : HoldsDatum line ⟨index, value⟩ := holds
      exact Or.inr ⟨_, .datum part isDatum, addDatum_of_index value cell⟩
  | none =>
      have outside := (Memory.index?_eq_none_iff address).mp cell
      exact Or.inl ⟨_, .invalidAddress notInCode holds outside, addDatum_of_outside value cell⟩

/-- A line is refused for a fault that it has, or carried out. -/
theorem addLine_cases {before : List Text}
    (phase : loading.phase = .code ↔ InCode before) :
    (∃ fault, LineFault before loading.machine line fault ∧
      loading.addLine line = .error fault) ∨
    ∃ next, Effect loading line next ∧ loading.addLine line = .ok next := by
  -- In the order in which faults take precedence: the words one by one, then their
  -- number, then what the phase makes of the two numbers.  A line that ends the code
  -- is set aside before its words are counted.
  rcases exists_holds_or_lineFault line with ⟨numbers, holds⟩ | ⟨fault, read, isFault⟩
  · by_cases final : loading.phase = .code ∧ EndsCode line
    · exact Or.inr ⟨_, .endsCode final.1 final.2, addLine_of_endsCode final.1 final.2⟩
    by_cases two : (Text.words line).length = 2
    · rw [holds.length_eq] at two
      obtain ⟨first, second, rfl⟩ := List.length_eq_two.mp two
      cases part : loading.phase with
      | code =>
          have isInstruction : HoldsInstruction line ⟨first, second⟩ := holds
          exact addLine_cases_of_instruction part (phase.mp part)
            (fun ends => final ⟨part, ends⟩) isInstruction
      | data =>
          have notInCode : ¬InCode before := by
            rw [← phase, part]
            exact Phase.noConfusion
          exact addLine_cases_of_datum part notInCode holds
    · refine Or.inl ⟨_, .wrongTokenCount holds ?_ two,
        addLine_of_wrongTokenCount holds final two⟩
      rwa [← phase]
  · refine Or.inl ⟨fault, isFault before loading.machine, ?_⟩
    rw [Loading.addLine, read]

/-- A line is refused exactly for the fault it has. -/
theorem addLine_eq_error_iff {before : List Text}
    (phase : loading.phase = .code ↔ InCode before)
    (fault : LoadFault) :
    loading.addLine line = .error fault ↔
      LineFault before loading.machine line fault := by
  constructor
  · intro refused
    rcases addLine_cases phase with ⟨other, isFault, found⟩ | ⟨next, -, found⟩
    · rw [refused, Except.error.injEq] at found
      rwa [found]
    · rw [refused] at found
      cases found
  · rintro (⟨split, numerals, noNumeral⟩ | ⟨holds, notFinal, count⟩ |
      ⟨inCode, holds, notFinal, full⟩ | ⟨notInCode, holds, outside⟩)
    · rw [Loading.addLine, (readNumbers_eq_error_iff line _).mpr
        ⟨_, _, _, split, numerals, noNumeral, rfl⟩]
    · rw [← phase] at notFinal
      exact addLine_of_wrongTokenCount holds notFinal count
    · rw [addLine_of_instruction (phase.mpr inCode) holds notFinal,
        addInstruction_of_full _ full]
    · have inData : loading.phase = .data := by
        cases part : loading.phase with
        | code => exact absurd (phase.mp part) notInCode
        | data => rfl
      rw [addLine_of_datum inData holds,
        addDatum_of_outside _ ((Memory.index?_eq_none_iff _).mpr outside)]

end Line

/-! ## Code and data -/

/-- The lines before the one that ends the code. -/
def codeLines (content : List Text) : List Text :=
  content.takeWhile fun line => !decide (EndsCode line)

/-- The lines after the one that ends the code. -/
def dataLines (content : List Text) : List Text :=
  (content.dropWhile fun line => !decide (EndsCode line)).tail

theorem inCode_nil : InCode [] := by
  simp [InCode]

theorem inCode_concat (before : List Text) (line : Text) :
    InCode (before ++ [line]) ↔ InCode before ∧ ¬EndsCode line := by
  simp [InCode, or_imp, forall_and]

theorem codeLines_append {code : List Text} (inCode : InCode code) (others : List Text) :
    codeLines (code ++ others) = code ++ codeLines others := by
  apply List.takeWhile_append_of_pos
  simpa [InCode] using inCode

theorem dataLines_append {code : List Text} (inCode : InCode code) (others : List Text) :
    dataLines (code ++ others) = dataLines others := by
  unfold dataLines
  rw [List.dropWhile_append_of_pos]
  simpa [InCode] using inCode

theorem codeLines_of_inCode {content : List Text} (inCode : InCode content) :
    codeLines content = content := by
  have whole := codeLines_append inCode []
  rwa [List.append_nil, show codeLines [] = [] from rfl, List.append_nil] at whole

theorem dataLines_of_inCode {content : List Text} (inCode : InCode content) :
    dataLines content = [] := by
  have whole := dataLines_append inCode []
  rwa [List.append_nil] at whole

theorem codeLines_of_endsCode {line : Text} (ends : EndsCode line) (rest : List Text) :
    codeLines (line :: rest) = [] := by
  simp [codeLines, ends]

theorem dataLines_of_endsCode {line : Text} (ends : EndsCode line) (rest : List Text) :
    dataLines (line :: rest) = rest := by
  simp [dataLines, ends]

/-- Lines that are not all code have a first one that ends it. -/
theorem exists_split_of_not_inCode {content : List Text} (notInCode : ¬InCode content) :
    ∃ code final data, content = code ++ final :: data ∧ InCode code ∧ EndsCode final := by
  induction content with
  | nil => exact absurd inCode_nil notInCode
  | cons line rest inductionHypothesis =>
      by_cases ends : EndsCode line
      · exact ⟨[], line, rest, rfl, inCode_nil, ends⟩
      · have later : ¬InCode rest := by
          intro inCode
          exact notInCode (List.forall_mem_cons.mpr ⟨ends, inCode⟩)
        obtain ⟨code, final, data, rfl, inCode, finalEnds⟩ := inductionHypothesis later
        exact ⟨line :: code, final, data, rfl,
          List.forall_mem_cons.mpr ⟨ends, inCode⟩, finalEnds⟩

/-- Behind the end of the code, every line is data. -/
theorem dataLines_concat {content : List Text} (notInCode : ¬InCode content)
    (line : Text) :
    codeLines (content ++ [line]) = codeLines content ∧
      dataLines (content ++ [line]) = dataLines content ++ [line] := by
  obtain ⟨code, final, data, rfl, inCode, ends⟩ := exists_split_of_not_inCode notInCode
  simp only [List.append_assoc, List.cons_append, codeLines_append inCode,
    dataLines_append inCode, codeLines_of_endsCode ends, dataLines_of_endsCode ends, and_self]

/-! ## Steps of loading -/

/-- Lines were carried out on a machine: the instructions of their code stand
behind those there were, the data after it are written, and everything else is
as before. -/
structure Carried (content : List Text) (before after : Machine) : Prop where
  registers : after.registers = before.registers
  halted : after.halted = before.halted
  code : ∃ appended, List.Forall₂ HoldsInstruction (codeLines content) appended ∧
    (∀ instruction ∈ appended, instruction.opcode ≠ sentinel) ∧
    after.code.instructions = before.code.instructions ++ appended
  data : ∃ written, List.Forall₂ HoldsDatum (dataLines content) written ∧
    after.memory = before.memory.writeAll written

theorem carried_nil (machine : Machine) : Carried [] machine machine where
  registers := rfl
  halted := rfl
  code := ⟨[], .nil, by simp, (List.append_nil _).symm⟩
  data := ⟨[], .nil, rfl⟩

theorem Carried.concat_instruction {content : List Text} {line : Text}
    {before after : Machine} {instruction : Instruction} {code : Code}
    (carried : Carried content before after)
    (inCode : InCode (content ++ [line]))
    (holds : HoldsInstruction line instruction)
    (pushed : after.code.push instruction = .ok code) :
    Carried (content ++ [line]) before { after with code } := by
  obtain ⟨inContent, goesOn⟩ := (inCode_concat content line).mp inCode
  obtain ⟨appended, instructions, plain, whole⟩ := carried.code
  obtain ⟨written, data, memory⟩ := carried.data
  rw [codeLines_of_inCode inContent] at instructions
  rw [dataLines_of_inCode inContent] at data
  refine ⟨carried.registers, carried.halted,
    ⟨appended ++ [instruction], ?_, ?_, ?_⟩, ⟨written, ?_, memory⟩⟩
  · rw [codeLines_of_inCode inCode]
    exact List.rel_append instructions (.cons holds .nil)
  · intro other member
    rcases List.mem_append.mp member with earlier | last
    · exact plain other earlier
    · rw [List.mem_singleton.mp last]
      intro final
      exact goesOn ((endsCode_iff holds).mpr (congrArg some final))
  · rw [Code.instructions_of_push pushed, whole, List.append_assoc]
  · rwa [dataLines_of_inCode inCode]

theorem Carried.concat_endsCode {content : List Text} {line : Text}
    {before after : Machine}
    (carried : Carried content before after)
    (inCode : InCode content)
    (ends : EndsCode line) :
    Carried (content ++ [line]) before after := by
  have sameCode : codeLines (content ++ [line]) = codeLines content := by
    rw [codeLines_append inCode, codeLines_of_endsCode ends, List.append_nil,
      codeLines_of_inCode inCode]
  have sameData : dataLines (content ++ [line]) = dataLines content := by
    rw [dataLines_append inCode, dataLines_of_endsCode ends, dataLines_of_inCode inCode]
  exact ⟨carried.registers, carried.halted, sameCode ▸ carried.code,
    sameData ▸ carried.data⟩

theorem Carried.concat_datum {content : List Text} {line : Text}
    {before after : Machine} {datum : Datum}
    (carried : Carried content before after)
    (notInCode : ¬InCode content)
    (holds : HoldsDatum line datum) :
    Carried (content ++ [line]) before
      { after with memory := after.memory.writeCell datum.address datum.value } := by
  obtain ⟨sameCode, longerData⟩ := dataLines_concat notInCode line
  obtain ⟨written, data, memory⟩ := carried.data
  refine ⟨carried.registers, carried.halted, sameCode ▸ carried.code,
    ⟨written ++ [datum], ?_, ?_⟩⟩
  · rw [longerData]
    exact List.rel_append data (.cons holds .nil)
  · rw [memory, Memory.writeAll, Memory.writeAll, List.foldl_append]
    rfl

/-- A machine is loaded with some lines, and the phase is that of the next
line. -/
structure Reached (machine : Machine) (content : List Text) (loading : Loading) :
    Prop where
  phase : loading.phase = .code ↔ InCode content
  carried : Carried content machine loading.machine

theorem reached_beginLoading (machine : Machine) :
    Reached machine [] machine.beginLoading where
  phase := iff_of_true rfl inCode_nil
  carried := carried_nil machine

theorem Reached.concat {machine : Machine} {before : List Text} {loading next : Loading}
    {line : Text}
    (reached : Reached machine before loading)
    (added : loading.addLine line = .ok next) :
    Reached machine (before ++ [line]) next := by
  rcases addLine_cases reached.phase with ⟨fault, -, found⟩ | ⟨other, effect, found⟩
  · rw [added] at found
    cases found
  rw [added, Except.ok.injEq] at found
  subst found
  cases effect with
  | endsCode part ends =>
      refine ⟨iff_of_false Phase.noConfusion ?_,
        reached.carried.concat_endsCode (reached.phase.mp part) ends⟩
      intro inCode
      exact ((inCode_concat before line).mp inCode).2 ends
  | instruction part goesOn holds pushed =>
      have inCode : InCode (before ++ [line]) :=
        (inCode_concat before line).mpr ⟨reached.phase.mp part, goesOn⟩
      exact ⟨iff_of_true part inCode,
        reached.carried.concat_instruction inCode holds pushed⟩
  | datum part holds =>
      have notInCode : ¬InCode before := by
        rw [← reached.phase, part]
        exact Phase.noConfusion
      refine ⟨iff_of_false ?_ ?_, reached.carried.concat_datum notInCode holds⟩
      · rw [part]
        exact Phase.noConfusion
      · intro inCode
        exact notInCode ((inCode_concat before line).mp inCode).1

/-- Lines that are added one after the other are carried out. -/
theorem Reached.append {machine : Machine} {before content : List Text}
    {loading last : Loading} {number : Nat}
    (reached : Reached machine before loading)
    (added : loading.addLines number content = (.ok (), last)) :
    Reached machine (before ++ content) last := by
  induction content generalizing before loading number with
  | nil =>
      cases added
      rwa [List.append_nil]
  | cons line rest inductionHypothesis =>
      rw [Loading.addLines] at added
      cases found : loading.addLine line with
      | error fault =>
          rw [found] at added
          cases added
      | ok next =>
          rw [found] at added
          have whole := inductionHypothesis (reached.concat found) added
          rwa [List.append_assoc] at whole

/-! ## Cells -/

/-- A line holds a value for a cell. -/
def Names (line : Text) (index : CellIndex) : Prop :=
  ∃ value, HoldsDatum line ⟨index, value⟩

/-- The cells that no data line names are as before. -/
theorem Carried.cell_eq {content : List Text} {before after : Machine}
    (carried : Carried content before after) {index : CellIndex}
    (unnamed : ∀ line ∈ dataLines content, ¬Names line index) :
    after.memory.cell index = before.memory.cell index := by
  obtain ⟨written, data, memory⟩ := carried.data
  rw [memory]
  apply Memory.cell_writeAll_of_unwritten
  rintro datum member rfl
  obtain ⟨line, isData, holds⟩ := exists_mem_of_forall₂ data member
  exact unnamed line isData ⟨datum.value, holds⟩

/-! ## Texts -/

/-- Loading a text is carrying out its lines. -/
theorem load_eq_iff {machine after : Machine} {executable : Text}
    {result : Except LoadError Unit} :
    machine.load executable = (result, after) ↔
      ∃ last, machine.beginLoading.addLines 1 (Text.lines executable) = (result, last) ∧
        last.machine = after := by
  unfold Machine.load
  rcases machine.beginLoading.addLines 1 (Text.lines executable) with ⟨found, last⟩
  simp only [Prod.mk.injEq]
  constructor
  · rintro ⟨rfl, rfl⟩
    exact ⟨last, ⟨rfl, rfl⟩, rfl⟩
  · rintro ⟨_, ⟨rfl, rfl⟩, rfl⟩
    exact ⟨rfl, rfl⟩

/-- The lines of a text before the one where loading stops. -/
def carriedLines (machine : Machine) (executable : Text) : List Text :=
  match (machine.load executable).1 with
  | .ok () => Text.lines executable
  | .error error => (Text.lines executable).take (error.line - 1)

/-- Loading carries out the lines before the one where it stops, and nothing
else. -/
theorem carried_carriedLines (machine : Machine) (executable : Text) :
    Carried (carriedLines machine executable) machine (machine.load executable).2 := by
  rcases loaded : machine.load executable with ⟨error | ⟨⟩, after⟩
  · obtain ⟨last, refused, rfl⟩ := load_eq_iff.mp loaded
    obtain ⟨before, line, later, split, reached, -, place⟩ :=
      Loading.exists_line_of_addLines_error refused
    have stopped : carriedLines machine executable = before := by
      rw [carriedLines, loaded]
      simp only
      rw [place, Nat.add_sub_cancel_left, split, List.take_left]
    rw [stopped]
    exact ((reached_beginLoading machine).append reached).carried
  · obtain ⟨last, added, rfl⟩ := load_eq_iff.mp loaded
    have whole : carriedLines machine executable = Text.lines executable := by
      rw [carriedLines, loaded]
    rw [whole]
    exact ((reached_beginLoading machine).append added).carried

/-- No line of a text is faulty, given the lines before it and the machine that
loading them leaves. -/
def Faultless (machine : Machine) (content : List Text) : Prop :=
  ∀ before line later, content = before ++ line :: later →
    ∃ start reached, Text.lines start = before ∧
      machine.load start = (.ok (), reached) ∧
      ∀ fault, ¬LineFault before reached line fault

theorem faultless_of_addLines {machine : Machine} {executable : Text}
    {content later : List Text} {last : Loading}
    (split : Text.lines executable = content ++ later)
    (added : machine.beginLoading.addLines 1 content = (.ok (), last)) :
    Faultless machine content := by
  rintro before line rest rfl
  obtain ⟨middle, reached, others⟩ := Loading.exists_of_addLines_append added
  rw [List.append_assoc] at split
  obtain ⟨start, -, lines⟩ := Text.exists_prefix_of_lines split
  refine ⟨start, middle.machine, lines, load_eq_iff.mpr ⟨middle, lines ▸ reached, rfl⟩, ?_⟩
  intro fault isFault
  have loaded := (reached_beginLoading machine).append reached
  rw [List.nil_append] at loaded
  -- A faulty line would be refused, but the lines from it on were added.
  rw [Loading.addLines, (addLine_eq_error_iff loaded.phase fault).mpr isFault] at others
  cases others

/-- Loading that fails does so at the first faulty line, for the fault of that
line, and leaves what the lines before it leave when they are loaded alone.
Loading that succeeds meets no faulty line.  Either way the lines carried out
append instructions to the code and write the cells that they name, and nothing
else changes. -/
theorem load_stops_at_first_faulty_line (machine : Machine) (executable : Text) :
    (∀ error after, machine.load executable = (.error error, after) →
      ∃ before line later, Text.lines executable = before ++ line :: later ∧
        error.line = before.length + 1 ∧
        Faultless machine before ∧
        (∀ fault, LineFault before after line fault ↔ fault = error.fault) ∧
        (∃ start, start <+: executable ∧ Text.lines start = before) ∧
        (∀ start, Text.lines start = before → machine.load start = (.ok (), after)) ∧
        Carried before machine after ∧
        ∀ index, (∀ line ∈ dataLines before, ¬Names line index) →
          after.memory.cell index = machine.memory.cell index) ∧
    (∀ after, machine.load executable = (.ok (), after) →
      Faultless machine (Text.lines executable) ∧
      Carried (Text.lines executable) machine after ∧
      ∀ index, (∀ line ∈ dataLines (Text.lines executable), ¬Names line index) →
        after.memory.cell index = machine.memory.cell index) := by
  refine ⟨fun error after failed => ?_, fun after succeeded => ?_⟩
  · obtain ⟨last, refused, rfl⟩ := load_eq_iff.mp failed
    obtain ⟨before, line, later, split, reached, refusal, place⟩ :=
      Loading.exists_line_of_addLines_error refused
    have loaded := (reached_beginLoading machine).append reached
    rw [List.nil_append] at loaded
    refine ⟨before, line, later, split, ?_, faultless_of_addLines split reached, ?_,
      Text.exists_prefix_of_lines split, ?_, loaded.carried, fun index => loaded.carried.cell_eq⟩
    · rw [place, Nat.add_comm]
    · intro fault
      rw [← addLine_eq_error_iff loaded.phase, refusal, Except.error.injEq, eq_comm]
    · intro start lines
      exact load_eq_iff.mpr ⟨last, lines ▸ reached, rfl⟩
  · obtain ⟨last, added, rfl⟩ := load_eq_iff.mp succeeded
    have loaded := (reached_beginLoading machine).append added
    rw [List.nil_append] at loaded
    exact ⟨faultless_of_addLines (List.append_nil _).symm added, loaded.carried,
      fun index => loaded.carried.cell_eq⟩

/-- A halted machine with a program is loaded with a text whose fifth line is
faulty, and with the lines before that. -/
theorem load_stops_at_first_faulty_line_partial :
    let machine : Machine := { Machine.fresh with
      code := ⟨#[Instruction.pack ⟨Opcode.halt.code, 0⟩], by decide⟩
      halted := true }
    let start := "1 5\n4 0\n-1\n3 7\n".toList
    let executable := start ++ "4 oops\n".toList
    let error : LoadError := ⟨5, .invalidNumber ⟨"oops".toList⟩⟩
    ∃ after, machine.load executable = (.error error, after) ∧
      machine.load start = (.ok (), after) ∧
      Faultless machine (Text.lines start) ∧
      (∀ fault, LineFault (Text.lines start) after "4 oops".toList fault ↔
        fault = error.fault) ∧
      after.halted = true ∧
      after.code.instructions = [⟨0x1F, 0⟩, ⟨1, 5⟩, ⟨4, 0⟩] ∧
      after.memory.cell ⟨3, by decide⟩ = 7 ∧
      after.memory.lastWritten = some ⟨3, by decide⟩ := by
  intro machine start executable error
  obtain ⟨after, failed⟩ : ∃ after, machine.load executable = (.error error, after) :=
    ⟨_, Prod.ext rfl rfl⟩
  obtain ⟨before, line, later, split, place, -, faults, -, again, carried, -⟩ :=
    (load_stops_at_first_faulty_line machine executable).1 error after failed
  have four : before.length = (Text.lines start).length := (Nat.succ.inj place).symm
  obtain ⟨rfl, same⟩ := List.append_inj
    (show before ++ line :: later = Text.lines start ++ ["4 oops".toList] from split.symm) four
  obtain ⟨rfl, -⟩ := List.cons.inj same
  have loaded : machine.load start = (.ok (), after) := again start rfl
  obtain ⟨faultless, -, -⟩ := (load_stops_at_first_faulty_line machine start).2 after loaded
  have result : after = (machine.load start).2 := by rw [loaded]
  refine ⟨after, failed, loaded, faultless, faults, carried.halted, ?_, ?_, ?_⟩
  · rw [result]
    decide +kernel
  · rw [result]
    decide +kernel
  · rw [result]
    decide +kernel

end Executable
end AccumulatorMachine
