import AccumulatorMachine.Proofs.SourceFaults

/-!
# The grammar of source texts

A source text conforms to a program if its lines are laid out well, no line of
the code is almost the end of the code, the code fits in the code store, and the
lines around the end of the code write the statements and the data one by one.
The grammar looks at the lines as they stand in the text, and the assembler
accepts exactly the texts that it describes.
-/

namespace AccumulatorMachine
namespace Source

/-- The lines that are not white space only. -/
def visibleLines (content : List Text) : List Text :=
  content.filter fun line => !Text.isBlankText line

/-- The lines of a text before the first one with the end of the code on it, or
all lines if there is none. -/
def linesOfCode (source : Text) : List Text :=
  (Text.lines source).takeWhile fun line => Text.trim line != endOfCode

/-- The lines of a text after the first one with the end of the code on it. -/
def linesOfData (source : Text) : List Text :=
  ((Text.lines source).dropWhile fun line => Text.trim line != endOfCode).tail

/-- A text that is laid out as the source text of a program. -/
structure Conforms (source : Text) (program : Program) : Prop where
  blankLines : (Text.lines source).countP Text.isBlankText ≤ 1
  indentation : ∀ line ∈ visibleLines (Text.lines source),
    line.head? ≠ some ' ' ∧ line.head? ≠ some '\t'
  marker : ∀ line ∈ linesOfCode source, ¬Text.EqualUpToCase (Text.trim line) endOfCode
  fits : (visibleLines (linesOfCode source)).length ≤ codeMax
  code : List.Forall₂ WritesStatement (visibleLines (linesOfCode source)) program.code
  data : List.Forall₂ WritesDatum (visibleLines (linesOfData source)) program.data

/-! ## Kept lines -/

theorem mem_visibleLines {content : List Text} {line : Text} :
    line ∈ visibleLines content ↔ line ∈ content ∧ Text.isBlankText line = false := by
  simp [visibleLines]

theorem visibleLines_cons_of_blank {line : Text} (blank : Text.isBlankText line = true)
    (rest : List Text) :
    visibleLines (line :: rest) = visibleLines rest :=
  List.filter_cons_of_neg (by rw [blank]; exact Bool.false_ne_true)

theorem visibleLines_cons_of_visible {line : Text} (visible : Text.isBlankText line = false)
    (rest : List Text) :
    visibleLines (line :: rest) = line :: visibleLines rest :=
  List.filter_cons_of_pos (by rw [visible]; rfl)

theorem isEmpty_trim (line : Text) : (Text.trim line).isEmpty = Text.isBlankText line := by
  rw [Bool.eq_iff_iff, List.isEmpty_iff, Text.trim_eq_nil_iff]

/-- A line with the end of the code on it is not blank. -/
theorem isBlankText_of_trim_eq_endOfCode {line : Text} (final : Text.trim line = endOfCode) :
    Text.isBlankText line = false := by
  rw [← isEmpty_trim, final]
  rfl

theorem keptLines_eq (source : Text) :
    keptLines source = (visibleLines (Text.lines source)).map Text.trim := by
  rw [keptLines, List.filter_map, visibleLines]
  simp only [Function.comp_def, isEmpty_trim]

/-- Blank lines do not end the code. -/
theorem blank_or_goesOn (line : Text) :
    (!(!Text.isBlankText line) || Text.trim line != endOfCode) =
      (Text.trim line != endOfCode) := by
  by_cases final : Text.trim line = endOfCode
  · rw [isBlankText_of_trim_eq_endOfCode final]
    rfl
  · have goesOn : (Text.trim line != endOfCode) = true := by simpa using final
    rw [goesOn, Bool.or_true]

theorem codeLines_eq (source : Text) :
    codeLines source = (visibleLines (linesOfCode source)).map Text.trim := by
  rw [codeLines, keptLines_eq, List.takeWhile_map, visibleLines, List.takeWhile_filter]
  simp only [Function.comp_apply, blank_or_goesOn]
  rfl

theorem dataLines_eq (source : Text) :
    dataLines source = (visibleLines (linesOfData source)).map Text.trim := by
  rw [dataLines, keptLines_eq, List.dropWhile_map, visibleLines, List.dropWhile_filter]
  simp only [Function.comp_apply, blank_or_goesOn]
  rw [← List.map_tail, linesOfData]
  -- The line that ends the code is not blank, so leaving it out and leaving out the
  -- blank lines can change places.
  have stops := List.head?_dropWhile_not (fun line => Text.trim line != endOfCode)
    (Text.lines source)
  cases rest : (Text.lines source).dropWhile fun line => Text.trim line != endOfCode with
  | nil => rfl
  | cons line others =>
      rw [rest] at stops
      have final : Text.trim line = endOfCode := by simpa using stops
      exact congrArg (fun lines => lines.tail.map Text.trim)
        (visibleLines_cons_of_visible (isBlankText_of_trim_eq_endOfCode final) others)

/-! ## Right lines -/

/-- Lines are laid out well when at most one is blank and no other line starts
with white space. -/
theorem faultless_layout_iff (seen content : List Text) :
    Faultless (fun before => LayoutFault (seen ++ before)) content ↔
      content.countP Text.isBlankText ≤ (if seen.any Text.isBlankText then 0 else 1) ∧
        ∀ line ∈ visibleLines content, line.head? ≠ some ' ' ∧ line.head? ≠ some '\t' := by
  induction content generalizing seen with
  | nil => exact iff_of_true (faultless_nil _) ⟨Nat.zero_le _, by simp [visibleLines]⟩
  | cons line rest inductionHypothesis =>
      have next := inductionHypothesis (seen ++ [line])
      rw [List.any_append, List.any_cons, List.any_nil, Bool.or_false] at next
      simp only [List.append_assoc, List.singleton_append] at next
      rw [faultless_cons, next, List.append_nil]
      cases blank : Text.isBlankText line with
      | true =>
          have right : (∀ fault, ¬LayoutFault seen line fault) ↔
              ¬seen.any Text.isBlankText = true := by
            simp only [layoutFault_of_blank blank, not_and_or]
            exact ⟨fun all => (all .secondBlankLine).resolve_right (not_not.mpr rfl),
              fun none _ => Or.inl none⟩
          rw [right, Bool.or_true, if_pos rfl, visibleLines_cons_of_blank blank,
            List.countP_cons_of_pos blank]
          cases seen.any Text.isBlankText <;> simp
      | false =>
          have right : (∀ fault, ¬LayoutFault seen line fault) ↔
              line.head? ≠ some ' ' ∧ line.head? ≠ some '\t' := by
            simp [layoutFault_of_visible blank]
          rw [right, Bool.or_false, visibleLines_cons_of_visible blank,
            List.countP_cons_of_neg (Bool.eq_false_iff.mp blank), List.forall_mem_cons]
          exact and_left_comm

/-- The markers are right when no line of the code is almost the end of it. -/
theorem faultless_marker_iff (source : Text) :
    Faultless (fun _ => MarkerFault) (codeLines source) ↔
      ∀ line ∈ linesOfCode source, ¬Text.EqualUpToCase (Text.trim line) endOfCode := by
  rw [faultless_iff_forall_mem, codeLines_eq, List.forall_mem_map]
  constructor
  · intro right line member almost
    have notFinal : Text.trim line ≠ endOfCode := by
      simpa using List.mem_takeWhile_imp member
    have visible : Text.isBlankText line = false := by
      by_contra blank
      rw [Bool.not_eq_false, ← Text.trim_eq_nil_iff] at blank
      rw [blank] at almost
      exact absurd almost (by decide)
    exact right line (mem_visibleLines.mpr ⟨member, visible⟩) _ (.endOfCodeCase notFinal almost)
  · rintro none line member fault ⟨-, almost⟩
    exact none line (mem_visibleLines.mp member).1 almost

/-- What a line writes is in its words. -/
theorem WritesStatement.of_words_eq {line other : Text} {statement : Statement}
    (same : Text.words line = Text.words other) (writes : WritesStatement line statement) :
    WritesStatement other statement := by
  cases writes with
  | withArgument split takes denotes => exact .withArgument (same ▸ split) takes denotes
  | alone split takes => exact .alone (same ▸ split) takes

theorem WritesDatum.of_words_eq {line other : Text} {datum : Datum}
    (same : Text.words line = Text.words other) (writes : WritesDatum line datum) :
    WritesDatum other datum := by
  cases writes with
  | numerals split address value => exact .numerals (same ▸ split) address value

theorem writesStatement_trim_iff (line : Text) (statement : Statement) :
    WritesStatement (Text.trim line) statement ↔ WritesStatement line statement :=
  ⟨.of_words_eq (Text.words_trim line), .of_words_eq (Text.words_trim line).symm⟩

theorem writesDatum_trim_iff (line : Text) (datum : Datum) :
    WritesDatum (Text.trim line) datum ↔ WritesDatum line datum :=
  ⟨.of_words_eq (Text.words_trim line), .of_words_eq (Text.words_trim line).symm⟩

/-! ## Accepted texts -/

/-- Exactly the texts that conform to a program are accepted as that program. -/
theorem assemble_eq_ok_iff_conforms (source : Text) (program : Program) :
    assemble source = .ok program ↔ Conforms source program := by
  have layout : Faultless LayoutFault (Text.lines source) ↔ _ :=
    faultless_layout_iff [] (Text.lines source)
  have code : List.Forall₂ WritesStatement (codeLines source) program.code ↔
      List.Forall₂ WritesStatement (visibleLines (linesOfCode source)) program.code := by
    simp only [codeLines_eq, List.forall₂_map_left_iff, writesStatement_trim_iff]
  have data : List.Forall₂ WritesDatum (dataLines source) program.data ↔
      List.Forall₂ WritesDatum (visibleLines (linesOfData source)) program.data := by
    simp only [dataLines_eq, List.forall₂_map_left_iff, writesDatum_trim_iff]
  have fits : (codeLines source).length = (visibleLines (linesOfCode source)).length := by
    rw [codeLines_eq, List.length_map]
  rw [assemble, bind_eq_ok_iff]
  simp only [sections_eq_ok_iff, program_eq_ok_iff, layout, faultless_marker_iff]
  constructor
  · rintro ⟨_, ⟨⟨blankLines, indentation⟩, marker, rfl⟩, short, isCode, isData⟩
    exact ⟨blankLines, indentation, marker, fits ▸ short, code.mp isCode, data.mp isData⟩
  · rintro ⟨blankLines, indentation, marker, short, isCode, isData⟩
    exact ⟨_, ⟨⟨blankLines, indentation⟩, marker, rfl⟩, fits ▸ short, code.mpr isCode,
      data.mpr isData⟩

/-- The assembler accepts exactly the source texts of the grammar.  It writes the
number and the argument of every statement, then the number minus one, and then
the address and the value of every datum, each on a line of its own. -/
theorem executable_eq_ok_iff (source executable : Text) :
    (assemble source).map Program.executable = .ok executable ↔
      ∃ program, Conforms source program ∧
        executable = Program.unlines
          (program.code.map (fun statement =>
              Hexadecimal.ofWord statement.opcode.code ++ ' ' ::
                Hexadecimal.ofWord statement.argument) ++
            "-1".toList :: program.data.map fun datum =>
              Hexadecimal.ofWord (Int32.ofNat datum.address.val) ++ ' ' ::
                Hexadecimal.ofWord datum.value) := by
  have sentinel : Hexadecimal.ofWord sentinel = "-1".toList := by decide
  simp only [map_eq_ok_iff, assemble_eq_ok_iff_conforms, ← sentinel, eq_comm (b := executable)]
  rfl

example : (assemble "LODI +1F\n\nHALT\n  ENDCODE\n1ff -7".toList).map Program.executable =
    .error ⟨4, .leadingWhiteSpace⟩ := by
  rfl

example : (assemble "LODI +1F\n\nHALT\nENDCODE  \n1ff -7".toList).map Program.executable =
    .ok "1 1f\n1f 0\n-1\n1ff -7\n".toList := by
  rfl

end Source
end AccumulatorMachine
