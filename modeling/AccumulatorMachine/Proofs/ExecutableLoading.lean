import AccumulatorMachine.Program.Loading
import AccumulatorMachine.Proofs.CodeStore
import AccumulatorMachine.Proofs.PrintedPrograms

/-!
# Loading executable texts

A fresh machine loads the executable text of every program that fits in the code
store, and then holds the program: its instructions in order, in every cell the
value that the program gives it last, and nothing else.
-/

namespace AccumulatorMachine

/-- The last datum of a program for a cell. -/
def Program.lastDatum? (program : Program) (index : CellIndex) : Option Datum :=
  program.data.reverse.find? fun datum => datum.address == index

/-- The value that a program gives a cell. -/
def Program.initialValue (program : Program) (index : CellIndex) : Word :=
  match program.lastDatum? index with
  | some datum => datum.value
  | none => 0

/-- The machine has a program in its stores and has not been started. -/
structure Machine.Holds (machine : Machine) (program : Program) : Prop where
  code : machine.code.instructions = program.code.map Statement.instruction
  cells : ∀ index, machine.memory.cell index = program.initialValue index
  lastWritten : machine.memory.lastWritten = program.data.getLast?.map Datum.address
  registers : machine.registers = .zero
  halted : machine.halted = false

/-! ## Data -/

namespace Memory

/-- Write data one after the other. -/
def writeAll (memory : Memory) (data : List Datum) : Memory :=
  data.foldl (fun memory datum => memory.writeCell datum.address datum.value) memory

theorem writeAll_append (memory : Memory) (first second : List Datum) :
    memory.writeAll (first ++ second) = (memory.writeAll first).writeAll second :=
  List.foldl_append

/-- The last datum for a cell prevails. -/
theorem cell_writeAll (memory : Memory) (data : List Datum) (index : CellIndex) :
    (memory.writeAll data).cell index =
      match data.reverse.find? fun datum => datum.address == index with
      | some datum => datum.value
      | none => memory.cell index := by
  induction data using List.reverseRecOn with
  | nil => rfl
  | append_singleton data datum inductionHypothesis =>
      rw [writeAll, List.foldl_append, List.reverse_append, List.reverse_singleton,
        List.singleton_append, List.find?_cons]
      change ((memory.writeAll data).writeCell datum.address datum.value).cell index = _
      rw [cell_writeCell]
      by_cases same : datum.address = index
      · simp [same]
      · have other : (datum.address == index) = false := by simpa using same
        rw [if_neg same, other]
        exact inductionHypothesis

theorem cell_writeAll_of_unwritten {memory : Memory} {data : List Datum} {index : CellIndex}
    (unwritten : ∀ datum ∈ data, datum.address ≠ index) :
    (memory.writeAll data).cell index = memory.cell index := by
  have notFound : data.reverse.find? (fun datum => datum.address == index) = none := by
    rw [List.find?_eq_none]
    intro datum member
    rw [beq_iff_eq]
    exact unwritten datum (List.mem_reverse.mp member)
  rw [cell_writeAll, notFound]

theorem lastWritten_writeAll (memory : Memory) (data : List Datum) :
    (memory.writeAll data).lastWritten =
      (data.getLast?.map Datum.address).or memory.lastWritten := by
  induction data using List.reverseRecOn with
  | nil => rfl
  | append_singleton data datum =>
      rw [writeAll, List.foldl_append, List.getLast?_concat]
      rfl

theorem write_addressWord (memory : Memory) (datum : Datum) (value : Word) :
    memory.write datum.addressWord value =
      .ok (memory.writeCell datum.address value) := by
  rw [write, (index?_eq_some_iff _ _).mpr datum.toInt_addressWord]

end Memory

/-! ## Lines -/

/-- No instruction of a printed program ends the code. -/
theorem Opcode.code_ne_sentinel (opcode : Opcode) : opcode.code ≠ sentinel := by
  cases opcode <;> decide

namespace Loading

theorem readNumbers_of_words {line : Text} {numbers : List Word}
    (split : Text.words line = numbers.map Hexadecimal.ofWord) :
    readNumbers line = .ok numbers := by
  rw [readNumbers, split, List.mapM_map]
  have reads : (fun token => (Hexadecimal.read token).mapError LoadFault.invalidNumber) ∘
      Hexadecimal.ofWord = fun number => pure number := by
    funext number
    rw [Function.comp_apply, Hexadecimal.read_ofWord]
    rfl
  rw [reads, List.mapM_pure, List.map_id']
  rfl

/-- A line of code is appended to the code store. -/
theorem addLine_executableLine {loading : Loading} {statement : Statement} {code : Code}
    (inCode : loading.phase = .code)
    (pushed : loading.machine.code.push statement.instruction = .ok code) :
    loading.addLine statement.executableLine =
      .ok { loading with machine := { loading.machine with code } } := by
  have numbers : readNumbers statement.executableLine =
      .ok [statement.opcode.code, statement.argument] :=
    readNumbers_of_words statement.words_executableLine
  have notFinal : statement.opcode.code ≠ sentinel :=
    statement.opcode.code_ne_sentinel
  unfold Statement.instruction at pushed
  rw [addLine, numbers]
  simp [addNumbers, inCode, notFinal, addInstruction, Machine.pushCode, pushed, Except.map]

theorem addLine_sentinel {loading : Loading} (inCode : loading.phase = .code) :
    loading.addLine (Hexadecimal.ofWord sentinel) =
      .ok { loading with phase := .data } := by
  have numbers : readNumbers (Hexadecimal.ofWord sentinel) = .ok [sentinel] :=
    readNumbers_of_words (Hexadecimal.isToken_ofWord sentinel).words_eq
  rw [addLine, numbers]
  simp [addNumbers, inCode]

/-- A line of data is written to the memory. -/
theorem addLine_datum {loading : Loading} (inData : loading.phase = .data)
    (datum : Datum) :
    loading.addLine datum.line =
      .ok { loading with
        machine.memory := loading.machine.memory.writeCell datum.address datum.value
        cells := loading.cells + 1 } := by
  have numbers : readNumbers datum.line = .ok [datum.addressWord, datum.value] :=
    readNumbers_of_words datum.words_line
  rw [addLine, numbers]
  simp [addNumbers, inData, addDatum, Machine.setData, Memory.write_addressWord, Except.map]

/-! ## Texts -/

theorem addLines_append {number : Nat} {loading next : Loading} {first : List Text}
    (succeeds : loading.addLines number first = (.ok (), next)) (second : List Text) :
    loading.addLines number (first ++ second) =
      next.addLines (number + first.length) second := by
  induction first generalizing number loading with
  | nil =>
      cases succeeds
      rfl
  | cons line rest inductionHypothesis =>
      rw [addLines] at succeeds
      rw [List.cons_append, addLines]
      cases added : loading.addLine line with
      | error fault =>
          rw [added] at succeeds
          cases succeeds
      | ok middle =>
          rw [added] at succeeds
          simp only [inductionHypothesis succeeds, List.length_cons]
          congr 1
          omega

theorem exists_of_addLines_append {number : Nat} {loading last : Loading}
    {first second : List Text}
    (succeeds : loading.addLines number (first ++ second) = (.ok (), last)) :
    ∃ middle, loading.addLines number first = (.ok (), middle) ∧
      middle.addLines (number + first.length) second = (.ok (), last) := by
  suffices succeedsFirst : ∃ middle, loading.addLines number first = (.ok (), middle) by
    obtain ⟨middle, added⟩ := succeedsFirst
    rw [addLines_append added] at succeeds
    exact ⟨middle, added, succeeds⟩
  induction first generalizing number loading with
  | nil => exact ⟨loading, rfl⟩
  | cons line rest inductionHypothesis =>
      rw [List.cons_append, addLines] at succeeds
      rw [addLines]
      cases added : loading.addLine line with
      | error fault =>
          rw [added] at succeeds
          cases succeeds
      | ok next =>
          rw [added] at succeeds
          exact inductionHypothesis succeeds

theorem exists_addLines_code {loading : Loading} (inCode : loading.phase = .code)
    {statements : List Statement}
    (room : loading.machine.code.size + statements.length ≤ codeMax) (number : Nat) :
    ∃ code, loading.addLines number (statements.map Statement.executableLine) =
        (.ok (), { loading with machine := { loading.machine with code } }) ∧
      code.instructions =
        loading.machine.code.instructions ++ statements.map Statement.instruction := by
  induction statements generalizing loading number with
  | nil => exact ⟨loading.machine.code, rfl, (List.append_nil _).symm⟩
  | cons statement rest inductionHypothesis =>
      rw [List.length_cons] at room
      obtain ⟨longer, pushed, instructions⟩ :=
        Code.exists_push statement.instruction
          (show loading.machine.code.size < codeMax by omega)
      have size : longer.size = loading.machine.code.size + 1 := by
        rw [← Code.length_instructions, instructions, List.length_append,
          Code.length_instructions]
        rfl
      let next : Loading := { loading with machine.code := longer }
      have inNext : next.phase = .code := inCode
      have roomInNext : next.machine.code.size + rest.length ≤ codeMax := by
        change longer.size + rest.length ≤ codeMax
        omega
      obtain ⟨code, added, whole⟩ := inductionHypothesis inNext roomInNext (number + 1)
      refine ⟨code, ?_, ?_⟩
      · rw [List.map_cons, addLines, addLine_executableLine inCode pushed]
        exact added
      · change code.instructions = longer.instructions ++ _ at whole
        rw [whole, instructions, List.append_assoc]
        rfl

theorem addLines_data {loading : Loading} (inData : loading.phase = .data)
    (data : List Datum) (number : Nat) :
    loading.addLines number (data.map Datum.line) =
      (.ok (), { loading with
        machine.memory := loading.machine.memory.writeAll data
        cells := loading.cells + data.length }) := by
  induction data generalizing loading number with
  | nil => rfl
  | cons datum rest inductionHypothesis =>
      let next : Loading := { loading with
        machine.memory := loading.machine.memory.writeCell datum.address datum.value
        cells := loading.cells + 1 }
      have inNext : next.phase = .data := inData
      have cells : loading.cells + 1 + rest.length = loading.cells + (datum :: rest).length := by
        rw [List.length_cons]
        omega
      rw [List.map_cons, addLines, addLine_datum inData datum, ← cells]
      exact inductionHypothesis inNext (number + 1)

end Loading

namespace Machine

/-- A fresh machine loads every program that fits in the code store. -/
theorem exists_load_executable {program : Program}
    (fits : program.code.length ≤ codeMax) :
    ∃ machine, fresh.load program.executable = (.ok (), machine) ∧
      machine.Holds program := by
  have areLines : ∀ line ∈ program.code.map Statement.executableLine ++
      Hexadecimal.ofWord sentinel :: program.data.map Datum.line, Text.IsLine line := by
    rw [List.forall_mem_append, List.forall_mem_cons, List.forall_mem_map,
      List.forall_mem_map]
    exact ⟨fun statement _ => statement.isLine_executableLine,
      (Hexadecimal.isToken_ofWord sentinel).isLine, fun datum _ => datum.isLine_line⟩
  have room : fresh.code.size + program.code.length ≤ codeMax := by
    rw [fresh, Code.size_empty]
    omega
  have inCode : fresh.beginLoading.phase = .code := rfl
  obtain ⟨code, loaded, instructions⟩ := Loading.exists_addLines_code inCode room 1
  refine ⟨{ fresh with code, memory := Memory.empty.writeAll program.data }, ?_, ?_⟩
  · rw [load, Program.executable, Program.unlines, Text.lines_flatMap areLines,
      Loading.addLines_append loaded, Loading.addLines, Loading.addLine_sentinel rfl]
    simp only
    rw [Loading.addLines_data rfl]
    rfl
  · refine ⟨instructions, fun index => ?_, ?_, rfl, rfl⟩
    · rw [Memory.cell_writeAll, Memory.cell_empty]
      rfl
    · rw [Memory.lastWritten_writeAll, Memory.empty, Option.or_none]

/-- The executable text of every accepted source text is loaded by a fresh
machine, which then holds the program that the source text writes.  A program
that fits, with the argument zero where none is written, is accepted as it is
printed and loaded likewise. -/
theorem load_assembled :
    (∀ source program, Source.assemble source = .ok program →
      Source.Writes source program ∧
      ∃ machine, fresh.load program.executable = (.ok (), machine) ∧
        machine.Holds program) ∧
    (∀ program : Program, program.code.length ≤ codeMax →
      (∀ statement ∈ program.code,
        statement.opcode.takesArgument = false → statement.argument = 0) →
      Source.assemble program.source = .ok program ∧
      ∃ machine, fresh.load program.executable = (.ok (), machine) ∧
        machine.Holds program) := by
  refine ⟨fun source program accepted => ?_, fun program fits plain => ?_⟩
  · obtain ⟨writes, fits⟩ := Source.writes_of_assemble accepted
    exact ⟨writes, exists_load_executable fits⟩
  · exact ⟨Source.assemble_of_printed fits plain, exists_load_executable fits⟩

/-- A program with a blank line and with two values for one cell. -/
theorem load_assembled_overwritten :
    let source := "LODI 1f\n\nHALT\nENDCODE\n1ff 3\n1ff -7\n".toList
    let program : Program :=
      ⟨[⟨.loadImmediate, 0x1F⟩, ⟨.halt, 0⟩],
        [⟨⟨511, by decide⟩, 3⟩, ⟨⟨511, by decide⟩, -7⟩]⟩
    Source.assemble source = .ok program ∧
    Source.codeLines source = ["LODI 1f".toList, "HALT".toList] ∧
    Source.Writes source program ∧
    Source.assemble program.source = .ok program ∧
    ∃ machine, fresh.load program.executable = (.ok (), machine) ∧
      machine.code.instructions = [⟨0x01, 0x1F⟩, ⟨0x1F, 0⟩] ∧
      machine.memory.cell ⟨511, by decide⟩ = -7 ∧
      machine.memory.lastWritten = some ⟨511, by decide⟩ := by
  intro source program
  have accepted : Source.assemble source = .ok program := by rfl
  have plain : ∀ statement ∈ program.code,
      statement.opcode.takesArgument = false → statement.argument = 0 := by decide
  obtain ⟨writes, -⟩ := load_assembled.1 source program accepted
  obtain ⟨printed, machine, loaded, holds⟩ :=
    load_assembled.2 program (by decide) plain
  exact ⟨accepted, by rfl, writes, printed, machine, loaded, holds.code,
    holds.cells ⟨511, by decide⟩, holds.lastWritten⟩

end Machine
end AccumulatorMachine
