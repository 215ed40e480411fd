import AccumulatorMachine.Program.Assembly
import AccumulatorMachine.Program.Loading
import AccumulatorMachine.Proofs.BlankText
import Mathlib.Data.List.Forall2

/-!
# Line endings

A carriage return put before every line feed leaves the lines of a text what they
were, except that some get a carriage return at their end: lines drop no more
than one of them.  That is white space behind the words of a line, and neither
the assembler nor the loader takes notice of it.
-/

namespace AccumulatorMachine
namespace Text

/-- A text with a carriage return before every line feed. -/
def withReturns (text : Text) : Text :=
  text.flatMap fun c => if c = '\n' then ['\r', '\n'] else [c]

@[simp] theorem withReturns_nil : withReturns [] = [] := rfl

@[simp] theorem withReturns_lineFeed (rest : Text) :
    withReturns ('\n' :: rest) = '\r' :: '\n' :: withReturns rest := rfl

theorem withReturns_cons {c : Char} (inLine : c ≠ '\n') (rest : Text) :
    withReturns (c :: rest) = c :: withReturns rest := by
  rw [withReturns, List.flatMap_cons, if_neg inLine]
  rfl

theorem withReturns_append (first second : Text) :
    withReturns (first ++ second) = withReturns first ++ withReturns second :=
  List.flatMap_append

theorem withReturns_of_inLine {content : Text} (inLine : '\n' ∉ content) :
    withReturns content = content := by
  induction content with
  | nil => rfl
  | cons c rest inductionHypothesis =>
      rw [List.mem_cons, not_or] at inLine
      rw [withReturns_cons (Ne.symm inLine.1), inductionHypothesis inLine.2]

/-! ## Lines -/

theorem pieces_withReturns (text : Text) :
    pieces (withReturns text) = (pieces text).map withReturns := by
  fun_induction pieces text with
  | case1 => rfl
  | case2 rest inductionHypothesis =>
      rw [withReturns_lineFeed, pieces, if_neg (by decide), pieces, if_pos rfl,
        inductionHypothesis]
      rfl
  | case3 c rest inLine noLine inductionHypothesis =>
      rw [noLine] at inductionHypothesis
      rw [withReturns_cons inLine, pieces, if_neg inLine, inductionHypothesis, List.map_singleton,
        withReturns_cons inLine]
      rfl
  | case4 c rest inLine piece later others inductionHypothesis =>
      rw [others] at inductionHypothesis
      rw [withReturns_cons inLine, pieces, if_neg inLine, inductionHypothesis, List.map_cons,
        List.map_cons, withReturns_cons inLine]

/-- Each line of a text holds at most one line feed, which ends it. -/
theorem exists_content_of_mem_pieces {text piece : Text} (member : piece ∈ pieces text) :
    ∃ content, '\n' ∉ content ∧ (piece = content ++ ['\n'] ∨ piece = content) := by
  fun_induction pieces text generalizing piece with
  | case1 => exact absurd member List.not_mem_nil
  | case2 rest inductionHypothesis =>
      rcases List.mem_cons.mp member with rfl | inRest
      · exact ⟨[], List.not_mem_nil, Or.inl rfl⟩
      · exact inductionHypothesis inRest
  | case3 c rest inLine noLine inductionHypothesis =>
      rw [List.mem_singleton] at member
      exact ⟨[c], by simpa using Ne.symm inLine, Or.inr member⟩
  | case4 c rest inLine first later others inductionHypothesis =>
      rcases List.mem_cons.mp member with rfl | inLater
      · obtain ⟨content, noLineFeed, ending⟩ :=
          inductionHypothesis (others ▸ List.mem_cons_self)
        refine ⟨c :: content, ?_, ?_⟩
        · rw [List.mem_cons, not_or]
          exact ⟨Ne.symm inLine, noLineFeed⟩
        · exact ending.imp (congrArg (c :: ·)) (congrArg (c :: ·))
      · exact inductionHypothesis (others ▸ List.mem_cons_of_mem _ inLater)

/-- A line that is the other one, or has one more carriage return at its end. -/
def SameUpToReturn (line other : Text) : Prop :=
  other = line ∨ other = line ++ ['\r']

theorem withoutEnding_return_lineFeed (content : Text) :
    withoutEnding (content ++ ['\r', '\n']) = content := by
  rw [withoutEnding, List.reverse_append]
  exact content.reverse_reverse

/-- What a line feed ends loses at most one carriage return with it. -/
theorem sameUpToReturn_withoutEnding (content : Text) :
    SameUpToReturn (withoutEnding (content ++ ['\n'])) content := by
  rcases content.eq_nil_or_concat' with rfl | ⟨start, last, rfl⟩
  · exact Or.inl rfl
  · by_cases isReturn : last = '\r'
    · subst isReturn
      rw [List.append_assoc]
      exact Or.inr (congrArg (· ++ ['\r']) (withoutEnding_return_lineFeed start).symm)
    · left
      rw [withoutEnding, List.reverse_append, List.reverse_append]
      simp [isReturn]

/-- The lines are the same up to carriage returns at their ends. -/
theorem lines_withReturns (text : Text) :
    List.Forall₂ SameUpToReturn (lines text) (lines (withReturns text)) := by
  rw [lines, lines, pieces_withReturns, List.map_map, List.forall₂_map_left_iff,
    List.forall₂_map_right_iff, List.forall₂_same]
  intro piece member
  obtain ⟨content, inLine, rfl | rfl⟩ := exists_content_of_mem_pieces member
  · rw [Function.comp_apply, withReturns_append, withReturns_of_inLine inLine,
      withReturns_lineFeed, withReturns_nil, withoutEnding_return_lineFeed]
    exact sameUpToReturn_withoutEnding content
  · rw [Function.comp_apply, withReturns_of_inLine inLine]
    exact Or.inl rfl

/-! ## What is read of a line -/

theorem trim_append_of_isBlank {c : Char} (blank : isBlank c = true) (text : Text) :
    trim (text ++ [c]) = trim text := by
  have dropped : [c].dropWhile isBlank = [] := List.dropWhile_cons_of_pos blank
  rw [trim, trim, trimStart, trimStart, List.dropWhile_append, dropped]
  split
  next nothing => rw [List.isEmpty_iff.mp nothing]
  next =>
    rw [trimEnd, trimEnd, List.reverse_append, List.reverse_singleton, List.singleton_append,
      List.dropWhile_cons_of_pos blank]

namespace SameUpToReturn

variable {line other : Text}

theorem trim_eq (same : SameUpToReturn line other) : trim other = trim line := by
  rcases same with rfl | rfl
  · rfl
  · exact trim_append_of_isBlank (by decide) line

theorem words_eq (same : SameUpToReturn line other) : words other = words line := by
  rcases same with rfl | rfl
  · rfl
  · exact words_append_of_isBlank (by decide) line

theorem head?_eq (same : SameUpToReturn line other) (visible : trim line ≠ []) :
    other.head? = line.head? := by
  rcases same with rfl | rfl
  · rfl
  · apply List.head?_append_of_ne_nil
    rintro rfl
    exact visible trim_nil

end SameUpToReturn
end Text

namespace Source

/-- The layout of lines is the same whether or not carriage returns end them. -/
theorem significantLines_congr {content other : List Text}
    (same : List.Forall₂ Text.SameUpToReturn content other) (blankSeen : Bool) (number : Nat) :
    significantLines blankSeen number other = significantLines blankSeen number content := by
  induction same generalizing blankSeen number with
  | nil => rfl
  | cons first _ inductionHypothesis =>
      rw [significantLines, significantLines, first.trim_eq]
      split
      next => rw [inductionHypothesis]
      next visible =>
        rw [first.head?_eq fun nothing => visible (List.isEmpty_iff.mpr nothing),
          inductionHypothesis]

end Source

namespace Loading

theorem addLine_congr {line other : Text} (same : Text.words other = Text.words line)
    (loading : Loading) :
    loading.addLine other = loading.addLine line := by
  rw [addLine, addLine, readNumbers, readNumbers, same]

/-- Lines of the same words are carried out alike. -/
theorem addLines_congr {content others : List Text}
    (same : List.Forall₂ (fun line other => Text.words other = Text.words line) content others)
    (number : Nat) (loading : Loading) :
    loading.addLines number others = loading.addLines number content := by
  induction same generalizing number loading with
  | nil => rfl
  | cons first _ inductionHypothesis =>
      rw [addLines, addLines, addLine_congr first]
      simp only [inductionHypothesis]

end Loading

namespace Text

/-- Neither assembling a text nor loading it in any machine notices carriage returns
that are put before its line feeds: the program or the error is the same, and so are
the result of loading and the machine that it leaves. -/
theorem lineEndings_do_not_matter (text : Text) :
    Source.assemble (withReturns text) = Source.assemble text ∧
    ∀ machine : Machine, machine.load (withReturns text) = machine.load text := by
  have same := lines_withReturns text
  constructor
  · rw [Source.assemble, Source.assemble, Source.sections, Source.sections,
      Source.significantLines_congr same]
  · intro machine
    rw [Machine.load, Machine.load, Loading.addLines_congr (same.imp fun _ _ => (·.words_eq))]

end Text
end AccumulatorMachine
