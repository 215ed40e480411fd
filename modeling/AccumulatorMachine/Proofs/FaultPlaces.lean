import AccumulatorMachine.CommandLine.Diagnostic
import AccumulatorMachine.Proofs.LineSpans
import AccumulatorMachine.Proofs.SourceGrammar

/-!
# Where faults are shown

The number of a layout fault is that of its line.  The others are numbered by the
lines that are not blank, and since at most one line is blank in a text with the
right layout, such a number is at most one too small.  Either way the text has a
line with the number, so there is always a place to show.  Faults of executable
texts are numbered by the lines as they stand.  A diagnostic is labelled at the line
with the number, which it counts in line breaks: it shows a larger number behind
carriage returns that no line feed follows.
-/

namespace AccumulatorMachine

namespace Source

/-- What is wrong with a line that is kept, given the lines kept before it. -/
inductive SectionFault (before : List Text) (line : Text) : AssemblyFault → Prop
  | marker {fault : AssemblyFault} :
      endOfCode ∉ before → MarkerFault line fault → SectionFault before line fault
  | statement {fault : AssemblyFault} :
      endOfCode ∉ before → line ≠ endOfCode → StatementFault line fault →
        SectionFault before line fault
  | codeTooLong :
      endOfCode ∉ before → line ≠ endOfCode → before.length = codeMax →
        SectionFault before line .codeTooLong
  | datum {fault : AssemblyFault} :
      endOfCode ∈ before → DatumFault line fault → SectionFault before line fault

/-! ## Kept lines -/

theorem codeLines_isPrefix (source : Text) : codeLines source <+: keptLines source :=
  List.takeWhile_prefix _

theorem ne_endOfCode_of_mem_codeLines {source line : Text}
    (member : line ∈ codeLines source) : line ≠ endOfCode := by
  simpa using List.mem_takeWhile_imp member

theorem endOfCode_notMem_codeLines (source : Text) : endOfCode ∉ codeLines source :=
  fun member => ne_endOfCode_of_mem_codeLines member rfl

/-- Data follow the code and the line that ends it. -/
theorem keptLines_of_mem_dataLines {source line : Text}
    (member : line ∈ dataLines source) :
    keptLines source = codeLines source ++ endOfCode :: dataLines source := by
  have stops := List.head?_dropWhile_not (fun line => line != endOfCode) (keptLines source)
  have whole : codeLines source ++ (keptLines source).dropWhile (fun line => line != endOfCode) =
      keptLines source := List.takeWhile_append_dropWhile
  rw [← whole]
  unfold dataLines at member ⊢
  cases rest : (keptLines source).dropWhile fun line => line != endOfCode with
  | nil =>
      rw [rest] at member
      exact absurd member List.not_mem_nil
  | cons final others =>
      rw [rest] at stops
      have isFinal : final = endOfCode := by simpa using stops
      rw [isFinal, List.tail_cons]

/-- An error is about a kept line, numbered by the kept lines. -/
def IsAboutKept (source : Text) (error : AssemblyError) : Prop :=
  ∃ before line after, keptLines source = before ++ line :: after ∧
    SectionFault before line error.fault ∧ error.line = before.length + 1

/-- The first wrong line at the start of the code is a kept line. -/
theorem exists_kept_of_prefix {source : Text} {content : List Text}
    {wrong : Text → AssemblyFault → Prop} {error : AssemblyError}
    (start : content <+: codeLines source)
    (first : FirstFault (fun _ => wrong) 1 content error) :
    ∃ before line after, keptLines source = before ++ line :: after ∧
      endOfCode ∉ before ∧ line ≠ endOfCode ∧ wrong line error.fault ∧
      error.line = before.length + 1 := by
  obtain ⟨before, line, after, rfl, -, isWrong, place⟩ := first
  have inCode : ∀ other ∈ before ++ line :: after, other ≠ endOfCode :=
    fun other member => ne_endOfCode_of_mem_codeLines (start.subset member)
  obtain ⟨others, whole⟩ := start.trans (codeLines_isPrefix source)
  refine ⟨before, line, after ++ others, ?_,
    fun member => inCode _ (List.mem_append_left _ member) rfl,
    inCode line (List.mem_append_right _ List.mem_cons_self), isWrong, by omega⟩
  rw [← whole, List.append_assoc, List.cons_append]

/-- All but layout faults are about kept lines. -/
theorem Reports.isAboutKept {source : Text} {error : AssemblyError}
    (reports : Reports source error) :
    FirstFault LayoutFault 1 (Text.lines source) error ∨
      (Faultless LayoutFault (Text.lines source) ∧ IsAboutKept source error) := by
  cases reports with
  | layout first => exact Or.inl first
  | marker layout first =>
      obtain ⟨before, line, after, split, inCode, -, isWrong, place⟩ :=
        exists_kept_of_prefix List.prefix_rfl first
      exact Or.inr ⟨layout, before, line, after, split, .marker inCode isWrong, place⟩
  | statement layout _ first =>
      obtain ⟨before, line, after, split, inCode, notFinal, isWrong, place⟩ :=
        exists_kept_of_prefix (List.take_prefix _ _) first
      exact Or.inr ⟨layout, before, line, after, split, .statement inCode notFinal isWrong, place⟩
  | codeTooLong layout _ _ long =>
      -- The line at fault is the first one that is not read, whatever it is.
      obtain ⟨line, after, rest⟩ :=
        List.exists_cons_of_ne_nil (List.drop_eq_nil_iff.not.mpr (Nat.not_le.mpr long))
      have split : codeLines source = (codeLines source).take codeMax ++ line :: after := by
        rw [← rest, List.take_append_drop]
      have inCode : line ∈ codeLines source := List.mem_of_mem_drop (rest ▸ List.mem_cons_self)
      have full : ((codeLines source).take codeMax).length = codeMax :=
        List.length_take_of_le (Nat.le_of_lt long)
      obtain ⟨others, whole⟩ := codeLines_isPrefix source
      refine Or.inr ⟨layout, (codeLines source).take codeMax, line, after ++ others, ?_,
        .codeTooLong ?_ (ne_endOfCode_of_mem_codeLines inCode) full, by rw [full]⟩
      · rw [← whole]
        conv_lhs => rw [split]
        rw [List.append_assoc, List.cons_append]
      · exact fun member => endOfCode_notMem_codeLines source (List.mem_of_mem_take member)
  | datum layout _ _ _ first =>
      obtain ⟨before, line, after, split, -, isWrong, place⟩ := first
      have member : line ∈ dataLines source := by
        rw [split]
        exact List.mem_append_right _ List.mem_cons_self
      refine Or.inr ⟨layout, codeLines source ++ endOfCode :: before, line, after, ?_,
        .datum (List.mem_append_right _ List.mem_cons_self) isWrong, ?_⟩
      · rw [keptLines_of_mem_dataLines member, split, List.append_assoc, List.cons_append]
      · rw [List.length_append, List.length_cons]
        omega

/-! ## Lines of the text -/

/-- A kept line is what trimming leaves of a line of the text, and the lines kept
before it are those that are not blank. -/
theorem exists_line_of_keptLines {source line : Text} {before after : List Text}
    (split : keptLines source = before ++ line :: after) :
    ∃ earlier whole later, Text.lines source = earlier ++ whole :: later ∧
      Text.isBlankText whole = false ∧ Text.trim whole = line ∧
      (visibleLines earlier).map Text.trim = before := by
  -- Trimming is undone first, then the blank lines are put back: those right before
  -- the line go with the lines before it.
  rw [keptLines_eq, List.map_eq_append_iff] at split
  obtain ⟨visible, others, apart, rfl, trimmed⟩ := split
  obtain ⟨whole, rest, rfl, rfl, -⟩ := List.map_eq_cons_iff.mp trimmed
  obtain ⟨start, stop, lines, rfl, fromWhole⟩ := List.filter_eq_append_iff.mp apart
  obtain ⟨blank, later, rfl, allBlank, isVisible, -⟩ := List.filter_eq_cons_iff.mp fromWhole
  refine ⟨start ++ blank, whole, later, ?_, by simpa using isVisible, rfl, ?_⟩
  · rw [lines, List.append_assoc]
  · have noneVisible : visibleLines blank = [] := List.filter_eq_nil_iff.mpr allBlank
    rw [visibleLines, List.filter_append]
    change (_ ++ visibleLines blank).map Text.trim = _
    rw [noneVisible, List.append_nil]

theorem length_eq_visible_add_blank (content : List Text) :
    content.length = (visibleLines content).length + content.countP Text.isBlankText := by
  rw [List.length_eq_countP_add_countP Text.isBlankText, visibleLines,
    ← List.countP_eq_length_filter, Nat.add_comm]
  simp only [Bool.not_eq_true, Bool.decide_eq_false]

/-- Behind a blank line, if there is one, the number of a line is one more than
its number among the lines that are not blank. -/
theorem length_succ_eq_ite {content : List Text}
    (blankLines : content.countP Text.isBlankText ≤ 1) :
    content.length + 1 =
      if content.any Text.isBlankText then (visibleLines content).length + 1 + 1
      else (visibleLines content).length + 1 := by
  rw [length_eq_visible_add_blank]
  by_cases blank : content.any Text.isBlankText = true
  · have one : 0 < content.countP Text.isBlankText :=
      List.countP_pos_iff.mpr (List.any_eq_true.mp blank)
    rw [if_pos blank]
    omega
  · have zero : ¬0 < content.countP Text.isBlankText :=
      fun some => blank (List.any_eq_true.mpr (List.countP_pos_iff.mp some))
    rw [if_neg blank]
    omega

/-- The line that an error about a source text is about, with the lines before
it: a line with a wrong layout has its own number, and any other its number
among the lines that are not blank. -/
inductive IsAbout (source : Text) (error : AssemblyError) (before : List Text) (line : Text) :
    Prop
  | layout :
      LayoutFault before line error.fault →
        error.line = before.length + 1 →
        IsAbout source error before line
  | kept :
      Text.isBlankText line = false →
        SectionFault ((visibleLines before).map Text.trim) (Text.trim line) error.fault →
        error.line = (visibleLines before).length + 1 →
        (before.length + 1 = if before.any Text.isBlankText then error.line + 1 else error.line) →
        IsAbout source error before line

/-- The error of a rejected text is about one of its lines. -/
theorem exists_isAbout {source : Text} {error : AssemblyError}
    (rejected : assemble source = .error error) :
    ∃ before line after, Text.lines source = before ++ line :: after ∧
      IsAbout source error before line := by
  rcases ((assemble_eq_error_iff_reports _ _).mp rejected).isAboutKept with
    ⟨before, line, after, split, -, isWrong, place⟩ |
    ⟨layout, _, _, _, split, isWrong, place⟩
  · exact ⟨before, line, after, split, .layout isWrong (by omega)⟩
  · obtain ⟨before, line, after, whole, visible, rfl, rfl⟩ := exists_line_of_keptLines split
    rw [List.length_map] at place
    have blankLines : before.countP Text.isBlankText ≤ 1 := by
      have all := ((faultless_layout_iff [] _).mp layout).1
      rw [whole, List.countP_append] at all
      exact le_trans (Nat.le_add_right _ _) all
    refine ⟨before, line, after, whole, .kept visible isWrong place ?_⟩
    rw [place]
    exact length_succ_eq_ite blankLines

/-- The number of an error about a line is not past that line. -/
theorem IsAbout.line_le {source : Text} {error : AssemblyError} {before : List Text}
    {line : Text} (about : IsAbout source error before line) :
    1 ≤ error.line ∧ error.line ≤ before.length + 1 := by
  cases about with
  | layout _ place => omega
  | kept _ _ place _ =>
      have visible := length_eq_visible_add_blank before
      omega

end Source

namespace Loading

/-- Loading stops at a line that cannot be added, after all lines before it. -/
theorem exists_line_of_addLines_error {number : Nat} {loading last : Loading}
    {content : List Text} {error : LoadError}
    (refused : loading.addLines number content = (.error error, last)) :
    ∃ before line after, content = before ++ line :: after ∧
      loading.addLines number before = (.ok (), last) ∧
      last.addLine line = .error error.fault ∧
      error.line = number + before.length := by
  induction content generalizing number loading with
  | nil => cases refused
  | cons line rest inductionHypothesis =>
      rw [addLines] at refused
      cases added : loading.addLine line with
      | error fault =>
          rw [added] at refused
          cases refused
          exact ⟨[], line, rest, rfl, rfl, added, rfl⟩
      | ok next =>
          rw [added] at refused
          obtain ⟨before, other, after, rfl, loaded, refusal, place⟩ :=
            inductionHypothesis refused
          refine ⟨line :: before, other, after, rfl, ?_, refusal, ?_⟩
          · rw [addLines, added]
            exact loaded
          · rw [List.length_cons]
            omega

end Loading

namespace CommandLine
namespace Diagnostic

/-- The diagnostic is labelled at the line of a text with a given number.  It names the
line by its number and the carriage returns before its span that no line feed follows, as
a reader takes these for the ends of lines too. -/
def PointsAt (diagnostic : Diagnostic) (text : Text) (number : Nat) : Prop :=
  ∃ span before, Text.lineSpan text number = some span ∧
    Text.takeBytes? span.start text = some before ∧
    diagnostic.line = some (number + Text.loneReturns before)

/-- The line that is shown of a text is the one that its span starts on. -/
theorem exists_shownLine? {text : Text} {number : Nat}
    (inText : 1 ≤ number ∧ number ≤ (Text.lines text).length) :
    ∃ span before, Text.lineSpan text number = some span ∧
      Text.takeBytes? span.start text = some before ∧
      shownLine? text number = some (number + Text.loneReturns before) := by
  obtain ⟨span, found⟩ := Option.isSome_iff_exists.mp ((Text.isSome_lineSpan_iff _ _).mpr inText)
  obtain ⟨before, start, earlier, breaks⟩ := Text.exists_before_of_lineSpan found
  refine ⟨span, before, found, start, ?_⟩
  rw [shownLine?, found, Option.map_some, earlier, breaks]

/-- Behind a lone carriage return a line is shown one further down. -/
example : shownLine? "1\r1\n-1\n0\n".toList 3 = some 4 := by decide +kernel

/-- The diagnostic about a rejected text is labelled at the line that the error
names, which the text has.  The number of a source text is that of the line at
fault, unless the fault is not in the layout and a blank line precedes it, which
makes the number one too small.  The number of an executable text is that of the
first line that cannot be added. -/
theorem shows_line_at_fault :
    (∀ source error, Source.assemble source = .error error →
      1 ≤ error.line ∧ error.line ≤ (Text.lines source).length ∧
      (Text.lineSpan source error.line).isSome = true ∧
      (∀ path, (ofAssemblyError path source error).PointsAt source error.line) ∧
      ∃ before line after, Text.lines source = before ++ line :: after ∧
        Source.IsAbout source error before line) ∧
    (∀ machine executable error, (Machine.load machine executable).1 = .error error →
      1 ≤ error.line ∧ error.line ≤ (Text.lines executable).length ∧
      (Text.lineSpan executable error.line).isSome = true ∧
      (∀ path, (ofLoadError path executable error).PointsAt executable error.line) ∧
      ∃ before line after last, Text.lines executable = before ++ line :: after ∧
        error.line = before.length + 1 ∧
        machine.beginLoading.addLines 1 before = (.ok (), last) ∧
        last.addLine line = .error error.fault) := by
  refine ⟨fun source error rejected => ?_, fun machine executable error refused => ?_⟩
  · obtain ⟨before, line, after, split, about⟩ := Source.exists_isAbout rejected
    have bounds : 1 ≤ error.line ∧ error.line ≤ (Text.lines source).length := by
      obtain ⟨positive, atMost⟩ := about.line_le
      rw [split, List.length_append, List.length_cons]
      omega
    exact ⟨bounds.1, bounds.2, (Text.isSome_lineSpan_iff _ _).mpr bounds,
      fun _ => exists_shownLine? bounds, before, line, after, split, about⟩
  · obtain ⟨before, line, after, split, loaded, refusal, place⟩ :=
      Loading.exists_line_of_addLines_error (Prod.ext refused rfl)
    have bounds : 1 ≤ error.line ∧ error.line ≤ (Text.lines executable).length := by
      rw [split, List.length_append, List.length_cons]
      omega
    exact ⟨bounds.1, bounds.2, (Text.isSome_lineSpan_iff _ _).mpr bounds,
      fun _ => exists_shownLine? bounds, before, line, after, _, split, by omega,
      loaded, refusal⟩

/-- A wrong address on the third line that is not blank, which is the fourth of
all, and a line with too few numbers. -/
theorem shows_line_at_fault_behind_blank_line :
    let source := "LODI 1\n\nENDCODE\n200 0\n".toList
    let executable := "1 1\n-1\n0\n".toList
    let wrongAddress : AssemblyError := ⟨3, .dataAddress 0x200⟩
    Source.assemble source = .error wrongAddress ∧
    (Machine.load Machine.fresh executable).1 = .error ⟨3, .wrongTokenCount 1⟩ ∧
    (∃ before line after, Text.lines source = before ++ line :: after ∧
      Source.IsAbout source wrongAddress before line) ∧
    (Text.lineSpan source 3).isSome = true ∧
    (∀ path, (ofAssemblyError path source wrongAddress).PointsAt source 3) ∧
    (Text.lineSpan executable 3).isSome = true ∧
    ∀ path, (ofLoadError path executable ⟨3, .wrongTokenCount 1⟩).PointsAt executable 3 := by
  intro source executable wrongAddress
  have rejected : Source.assemble source = .error wrongAddress := by rfl
  have refused : (Machine.load Machine.fresh executable).1 =
      .error ⟨3, .wrongTokenCount 1⟩ := by rfl
  obtain ⟨-, -, inSource, labelled, about⟩ :=
    shows_line_at_fault.1 source wrongAddress rejected
  obtain ⟨-, -, inExecutable, labelledToo, -⟩ :=
    shows_line_at_fault.2 Machine.fresh executable _ refused
  exact ⟨rejected, refused, about, inSource, labelled, inExecutable, labelledToo⟩

end Diagnostic
end CommandLine
end AccumulatorMachine
