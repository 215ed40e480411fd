import AccumulatorMachine.Proofs.SourceReading

/-!
# Reading printed programs

The lines of a printed program are lines of tokens.  The assembler reads a
printed source text back as the program it was printed from, if its code fits
in the code store and mnemonics without argument have the argument zero.
-/

namespace AccumulatorMachine

/-! ## Printed lines -/

namespace Text

theorem IsToken.isLine {token : Text} (isToken : IsToken token) : IsLine token :=
  ⟨token, [], by simpa using isToken, spaced_singleton token⟩

theorem spaced_pair (first second : Text) :
    spaced [first, second] = first ++ ' ' :: second := by
  rw [spaced_cons_cons, spaced_singleton]

theorem areTokens_pair {first second : Text}
    (isFirst : IsToken first) (isSecond : IsToken second) :
    ∀ token ∈ [first, second], IsToken token := by
  rintro token member
  rcases List.mem_pair.mp member with rfl | rfl
  · exact isFirst
  · exact isSecond

theorem IsToken.isLine_pair {first second : Text}
    (isFirst : IsToken first) (isSecond : IsToken second) :
    IsLine (first ++ ' ' :: second) :=
  ⟨first, [second], areTokens_pair isFirst isSecond, spaced_pair first second⟩

theorem IsToken.words_pair {first second : Text}
    (isFirst : IsToken first) (isSecond : IsToken second) :
    words (first ++ ' ' :: second) = [first, second] := by
  rw [← spaced_pair]
  exact words_spaced (areTokens_pair isFirst isSecond)

end Text

theorem Hexadecimal.isToken_ofWord (word : Word) : Text.IsToken (ofWord word) :=
  have denotes := denotes_ofInt word.toInt
  ⟨denotes.ne_nil, denotes.not_isBlank⟩

theorem Opcode.isToken_mnemonic (opcode : Opcode) : Text.IsToken opcode.mnemonic.toList := by
  cases opcode <;> decide

theorem isLine_endOfCode : Text.IsLine endOfCode :=
  Text.IsToken.isLine (by decide)

namespace Statement

theorem isLine_sourceLine (statement : Statement) : Text.IsLine statement.sourceLine := by
  unfold sourceLine
  split_ifs
  · exact statement.opcode.isToken_mnemonic.isLine_pair (Hexadecimal.isToken_ofWord _)
  · exact statement.opcode.isToken_mnemonic.isLine

theorem isLine_executableLine (statement : Statement) :
    Text.IsLine statement.executableLine :=
  (Hexadecimal.isToken_ofWord _).isLine_pair (Hexadecimal.isToken_ofWord _)

theorem words_executableLine (statement : Statement) :
    Text.words statement.executableLine =
      [Hexadecimal.ofWord statement.opcode.code, Hexadecimal.ofWord statement.argument] :=
  (Hexadecimal.isToken_ofWord _).words_pair (Hexadecimal.isToken_ofWord _)

/-- No mnemonic starts as the end of the code does. -/
theorem map_toUpper_sourceLine_ne (statement : Statement) :
    statement.sourceLine.map Char.toUpper ≠ endOfCode := by
  have starts : statement.sourceLine.head? = statement.opcode.mnemonic.toList.head? := by
    unfold sourceLine
    split_ifs
    · exact List.head?_append_of_ne_nil _ statement.opcode.isToken_mnemonic.ne_nil
    · rfl
  intro same
  have first := congrArg List.head? same
  rw [List.head?_map, starts] at first
  revert first
  cases statement.opcode <;> decide

end Statement

namespace Datum

theorem isLine_line (datum : Datum) : Text.IsLine datum.line :=
  (Hexadecimal.isToken_ofWord _).isLine_pair (Hexadecimal.isToken_ofWord _)

theorem words_line (datum : Datum) :
    Text.words datum.line =
      [Hexadecimal.ofWord datum.addressWord, Hexadecimal.ofWord datum.value] :=
  (Hexadecimal.isToken_ofWord _).words_pair (Hexadecimal.isToken_ofWord _)

end Datum

/-! ## Printed source texts -/

namespace Source

theorem writesStatement_sourceLine {statement : Statement}
    (plain : statement.opcode.takesArgument = false → statement.argument = 0) :
    WritesStatement statement.sourceLine statement := by
  obtain ⟨opcode, argument⟩ := statement
  unfold Statement.sourceLine
  by_cases takes : opcode.takesArgument = true
  · rw [if_pos takes]
    exact .withArgument
      (opcode.isToken_mnemonic.words_pair (Hexadecimal.isToken_ofWord argument)) takes
      (Hexadecimal.denotes_ofInt argument.toInt)
  · have alone : opcode.takesArgument = false := Bool.eq_false_iff.mpr takes
    obtain rfl : argument = 0 := plain alone
    rw [if_neg takes]
    exact .alone opcode.isToken_mnemonic.words_eq alone

theorem writesDatum_line (datum : Datum) : WritesDatum datum.line datum := by
  refine .numerals datum.words_line ?_ (Hexadecimal.denotes_ofInt datum.value.toInt)
  rw [← datum.toInt_addressWord]
  exact Hexadecimal.denotes_ofInt datum.addressWord.toInt

/-- Lines of tokens are all kept as they are. -/
theorem significantLines_of_isLine {content : List Text}
    (areLines : ∀ line ∈ content, Text.IsLine line) (blankSeen : Bool) (number : Nat) :
    significantLines blankSeen number content = .ok content := by
  induction content generalizing number with
  | nil => rfl
  | cons line rest inductionHypothesis =>
      rw [List.forall_mem_cons] at areLines
      have noSpace : line.head? ≠ some ' ' := areLines.1.head?_ne (by decide)
      have noTab : line.head? ≠ some '\t' := areLines.1.head?_ne (by decide)
      rw [significantLines, areLines.1.trim_eq,
        if_neg (by simpa using areLines.1.ne_nil), if_neg (by simp [noSpace, noTab]),
        inductionHypothesis areLines.2]
      rfl

theorem splitSections_append {code : List Text}
    (different : ∀ line ∈ code, line.map Char.toUpper ≠ endOfCode)
    (number : Nat) (data : List Text) :
    splitSections number (code ++ endOfCode :: data) = .ok ⟨code, data⟩ := by
  induction code generalizing number with
  | nil =>
      rw [List.nil_append, splitSections, if_pos rfl]
  | cons line rest inductionHypothesis =>
      rw [List.forall_mem_cons] at different
      have notFinal : line ≠ endOfCode := by
        rintro rfl
        exact different.1 (by decide)
      rw [List.cons_append, splitSections, if_neg notFinal, if_neg different.1,
        inductionHypothesis different.2]
      rfl

/-- A printed source text is read as its program. -/
theorem assemble_of_printed {program : Program}
    (fits : program.code.length ≤ codeMax)
    (plain : ∀ statement ∈ program.code,
      statement.opcode.takesArgument = false → statement.argument = 0) :
    assemble program.source = .ok program := by
  have areLines : ∀ line ∈ program.code.map Statement.sourceLine ++
      endOfCode :: program.data.map Datum.line, Text.IsLine line := by
    rw [List.forall_mem_append, List.forall_mem_cons, List.forall_mem_map,
      List.forall_mem_map]
    exact ⟨fun statement _ => statement.isLine_sourceLine, isLine_endOfCode,
      fun datum _ => datum.isLine_line⟩
  have different : ∀ line ∈ program.code.map Statement.sourceLine,
      line.map Char.toUpper ≠ endOfCode := by
    rw [List.forall_mem_map]
    exact fun statement _ => statement.map_toUpper_sourceLine_ne
  have isSplit : sections program.source =
      .ok ⟨program.code.map Statement.sourceLine, program.data.map Datum.line⟩ := by
    rw [sections, Program.source, Program.unlines, Text.lines_flatMap areLines]
    refine bind_eq_ok_iff.mpr ⟨_, significantLines_of_isLine areLines _ _, ?_⟩
    exact splitSections_append different _ _
  refine bind_eq_ok_iff.mpr ⟨_, isSplit, (program_eq_ok_iff _ _).mpr ⟨?_, ?_, ?_⟩⟩
  · rw [List.length_map]
    exact fits
  · rw [List.forall₂_map_left_iff, List.forall₂_same]
    exact fun statement member => writesStatement_sourceLine (plain statement member)
  · rw [List.forall₂_map_left_iff, List.forall₂_same]
    exact fun datum _ => writesDatum_line datum

end Source
end AccumulatorMachine
