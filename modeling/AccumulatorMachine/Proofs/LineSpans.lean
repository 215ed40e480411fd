import AccumulatorMachine.Proofs.CharacterBoundaries
import AccumulatorMachine.Proofs.LineEndings
import AccumulatorMachine.Proofs.TextLayout
import Mathlib.Data.List.DropRight

/-!
# Spans of lines

The span of a line starts behind the bytes of all lines before it, with their line
feeds, and covers what the assembler and the loader read as the line, up to the carriage
returns at its end.  A line that another one follows ends with a line feed, which its
span leaves out, so the spans of two lines neither overlap nor touch.  Counted in breaks,
the span starts on the line with its number and a line further down for each carriage
return before it that no line feed follows.
-/

namespace AccumulatorMachine
namespace Text

/-- A line without the carriage returns it ends with. -/
def withoutReturns (line : Text) : Text :=
  line.rdropWhile fun c => c == '\r'

/-- The number of carriage returns in a text that no line feed follows. -/
def loneReturns : Text → Nat
  | [] => 0
  | c :: rest =>
      if c = '\r' ∧ rest.head? ≠ some '\n' then loneReturns rest + 1 else loneReturns rest

/-- A span starts behind a part of a text and covers the part that follows: both of its
ends lie on boundaries of characters. -/
structure ByteSpan.Covers (span : ByteSpan) (text before covered : Text) : Prop where
  start_eq : takeBytes? span.start text = some before
  stop_eq : takeBytes? span.stop text = some (before ++ covered)

theorem ByteSpan.Covers.le_stop {span : ByteSpan} {text before covered : Text}
    (covers : span.Covers text before covered) :
    span.start ≤ span.stop ∧ span.stop ≤ byteLength text := by
  obtain ⟨-, -, start⟩ := takeBytes?_eq_some_iff.mp covers.start_eq
  obtain ⟨rest, rfl, stop⟩ := takeBytes?_eq_some_iff.mp covers.stop_eq
  rw [byteLength_append] at stop ⊢
  rw [byteLength_append]
  omega

/-! ## Ends of lines -/

theorem withoutBreaks_append_lineFeed (content : Text) :
    withoutBreaks (content ++ ['\n']) = withoutBreaks content :=
  List.rdropWhile_concat_pos _ content '\n' rfl

theorem withoutReturns_append_return (content : Text) :
    withoutReturns (content ++ ['\r']) = withoutReturns content :=
  List.rdropWhile_concat_pos _ content '\r' rfl

/-- Inside a line only carriage returns are breaks. -/
theorem withoutBreaks_of_inLine {content : Text} (inLine : '\n' ∉ content) :
    withoutBreaks content = withoutReturns content := by
  induction content using List.reverseRecOn with
  | nil => rfl
  | append_singleton start last inductionHypothesis =>
      rw [List.mem_append, not_or, List.mem_singleton] at inLine
      by_cases isReturn : last = '\r'
      · subst isReturn
        rw [withoutReturns_append_return, ← inductionHypothesis inLine.1]
        exact List.rdropWhile_concat_pos _ start '\r' rfl
      · have kept : withoutReturns (start ++ [last]) = start ++ [last] :=
          List.rdropWhile_concat_neg _ start last (by simpa using isReturn)
        rw [kept]
        exact List.rdropWhile_concat_neg _ start last (by simp [isReturn, Ne.symm inLine.2])

theorem withoutEnding_of_inLine {content : Text} (inLine : '\n' ∉ content) :
    withoutEnding content = content := by
  have notReversed : '\n' ∉ content.reverse := fun member => inLine (List.mem_reverse.mp member)
  unfold withoutEnding
  split
  next same => exact absurd (same ▸ List.mem_cons_self) notReversed
  next same => exact absurd (same ▸ List.mem_cons_self) notReversed
  next => rfl

theorem SameUpToReturn.withoutReturns_eq {line other : Text} (same : SameUpToReturn line other) :
    withoutReturns other = withoutReturns line := by
  rcases same with rfl | rfl
  · rfl
  · exact withoutReturns_append_return line

/-- A span covers the content of its line up to the carriage returns that end it. -/
theorem withoutBreaks_eq_withoutReturns {text piece : Text} (member : piece ∈ pieces text) :
    withoutBreaks piece = withoutReturns (withoutEnding piece) := by
  obtain ⟨content, inLine, rfl | rfl⟩ := exists_content_of_mem_pieces member
  · rw [withoutBreaks_append_lineFeed, withoutBreaks_of_inLine inLine]
    exact (sameUpToReturn_withoutEnding content).withoutReturns_eq
  · rw [withoutBreaks_of_inLine inLine, withoutEnding_of_inLine inLine]

theorem withoutBreaks_isPrefix (piece : Text) : withoutBreaks piece <+: piece :=
  List.rdropWhile_prefix (fun c => c == '\n' || c == '\r') piece

/-- A line that another one follows ends with a line feed. -/
theorem exists_content_of_followed {text piece next : Text} {before after : List Text}
    (split : pieces text = before ++ piece :: next :: after) :
    ∃ content, piece = content ++ ['\n'] := by
  fun_induction pieces text generalizing before piece with
  | case1 => simp at split
  | case2 rest inductionHypothesis =>
      cases before with
      | nil => exact ⟨[], (List.cons.inj split).1.symm⟩
      | cons first others => exact inductionHypothesis (List.cons.inj split).2
  | case3 c rest inLine noLine inductionHypothesis =>
      have size := congrArg List.length split
      rw [List.length_append, List.length_singleton, List.length_cons, List.length_cons] at size
      omega
  | case4 c rest inLine first later others inductionHypothesis =>
      rw [others] at inductionHypothesis
      cases before with
      | nil =>
          obtain ⟨rfl, rfl⟩ := List.cons.inj split
          obtain ⟨content, rfl⟩ := @inductionHypothesis first [] rfl
          exact ⟨c :: content, rfl⟩
      | cons start middle =>
          obtain ⟨-, rfl⟩ := List.cons.inj split
          exact @inductionHypothesis piece (first :: middle) rfl

/-! ## Breaks -/

/-- A break is a line feed, whatever stands before it, or a carriage return that no line
feed follows. -/
theorem breakCount_eq (text : Text) : breakCount text = text.count '\n' + loneReturns text := by
  fun_induction breakCount text with
  | case1 => rfl
  | case2 rest inductionHypothesis =>
      have both : loneReturns ('\r' :: '\n' :: rest) = loneReturns rest := by simp [loneReturns]
      rw [inductionHypothesis, both, List.count_cons_of_ne (by decide), List.count_cons_self]
      omega
  | case3 c rest notBoth ends inductionHypothesis =>
      rw [inductionHypothesis, loneReturns]
      rcases ends with rfl | rfl
      · rw [List.count_cons_self, if_neg (by simp)]
        omega
      · have alone : rest.head? ≠ some '\n' := fun feed =>
          notBoth _ rfl (List.eq_cons_of_mem_head? feed)
        rw [List.count_cons_of_ne (by decide), if_pos ⟨rfl, alone⟩]
        omega
  | case4 c rest notBoth inside inductionHypothesis =>
      obtain ⟨notFeed, notReturn⟩ := not_or.mp inside
      rw [inductionHypothesis, loneReturns, List.count_cons_of_ne notFeed,
        if_neg fun alone => notReturn alone.1]

/-- A line that another one follows has one line feed. -/
theorem count_lineFeed_of_followed {text piece next : Text} {before after : List Text}
    (split : pieces text = before ++ piece :: next :: after) :
    piece.count '\n' = 1 := by
  have isPiece : piece ∈ pieces text := split ▸ List.mem_append_cons_self
  obtain ⟨start, ends⟩ := exists_content_of_followed split
  obtain ⟨content, inLine, rfl | rfl⟩ := exists_content_of_mem_pieces isPiece
  · rw [List.count_append, List.count_eq_zero.mpr inLine, List.count_singleton_self]
  · rw [ends] at inLine
    exact absurd (List.mem_append_right _ List.mem_cons_self) inLine

/-- The lines before a line have a line feed each. -/
theorem count_lineFeed_flatten {text piece : Text} {before after : List Text}
    (split : pieces text = before ++ piece :: after) :
    before.flatten.count '\n' = before.length := by
  have each : ∀ line ∈ before, line.count '\n' = 1 := by
    intro line member
    obtain ⟨earlier, later, rfl⟩ := List.append_of_mem member
    rw [List.append_assoc, List.cons_append] at split
    cases later with
    | nil => exact count_lineFeed_of_followed split
    | cons next later => exact count_lineFeed_of_followed split
  rw [List.count_flatten, List.map_congr_left each, List.map_const', List.sum_replicate_nat,
    Nat.mul_one]

/-! ## Spans -/

/-- The span of a line counts the bytes of the lines before it, and then those of the
line itself without the breaks at its end. -/
theorem lineSpan_eq_some_iff {text : Text} {number : Nat} {span : ByteSpan} :
    lineSpan text number = some span ↔
      ∃ before piece after, pieces text = before ++ piece :: after ∧
        before.length + 1 = number ∧
        span = ⟨byteLength before.flatten,
          byteLength before.flatten + byteLength (withoutBreaks piece)⟩ := by
  cases number with
  | zero => simp [lineSpan]
  | succ index =>
      rw [lineSpan, Option.map_eq_some_iff]
      constructor
      · rintro ⟨piece, found, rfl⟩
        obtain ⟨inside, rfl⟩ := List.getElem?_eq_some_iff.mp found
        refine ⟨(pieces text).take index, _, (pieces text).drop (index + 1), ?_, ?_, rfl⟩
        · rw [List.getElem_cons_drop, List.take_append_drop]
        · rw [List.length_take_of_le (Nat.le_of_lt inside)]
      · rintro ⟨before, piece, after, split, place, rfl⟩
        obtain rfl : before.length = index := Nat.succ.inj place
        refine ⟨piece, ?_, ?_⟩
        · rw [split, List.getElem?_append_right (Nat.le_refl _), Nat.sub_self]
          rfl
        · rw [split, List.take_left]

/-- A line has a span when the text has a line with its number. -/
theorem isSome_lineSpan_iff (text : Text) (number : Nat) :
    (lineSpan text number).isSome = true ↔ 1 ≤ number ∧ number ≤ (lines text).length := by
  rw [length_lines]
  cases number with
  | zero => simp [lineSpan]
  | succ index =>
      rw [lineSpan, Option.isSome_map, Option.isSome_iff_ne_none, ne_eq,
        List.getElem?_eq_none_iff]
      omega

section Spans

variable {text : Text} {number : Nat} {span : ByteSpan}

/-- A span covers the content of the line with its number, behind the lines before it. -/
theorem exists_covers_of_lineSpan (found : lineSpan text number = some span) :
    ∃ before line, pieces before = (pieces text).take (number - 1) ∧
      (lines text)[number - 1]? = some line ∧
      span.Covers text before (withoutReturns line) := by
  obtain ⟨before, piece, after, split, rfl, rfl⟩ := lineSpan_eq_some_iff.mp found
  have isPiece : piece ∈ pieces text := split ▸ List.mem_append_cons_self
  obtain ⟨breaks, whole⟩ := withoutBreaks_isPrefix piece
  have text_eq : text = before.flatten ++ (withoutBreaks piece ++ (breaks ++ after.flatten)) := by
    rw [← flatten_pieces text, split, List.flatten_append, List.flatten_cons,
      ← List.append_assoc (withoutBreaks piece), whole]
  refine ⟨before.flatten, withoutEnding piece, ?_, ?_, ?_⟩
  · have start := pieces_flatten_take text before.length
    rw [split, List.take_left] at start
    rw [start, Nat.add_sub_cancel, split, List.take_left]
  · rw [Nat.add_sub_cancel, lines, List.getElem?_map, split,
      List.getElem?_append_right (Nat.le_refl _), Nat.sub_self]
    rfl
  · rw [← withoutBreaks_eq_withoutReturns isPiece]
    constructor
    · exact takeBytes?_eq_some_iff.mpr ⟨_, text_eq, rfl⟩
    · refine takeBytes?_eq_some_iff.mpr ⟨breaks ++ after.flatten, ?_, byteLength_append _ _⟩
      rw [List.append_assoc]
      exact text_eq

/-- Before the span of a line each line has one break, and each carriage return that no line
feed follows is one more. -/
theorem exists_before_of_lineSpan (found : lineSpan text number = some span) :
    ∃ before, takeBytes? span.start text = some before ∧
      ((pieces text).take (number - 1)).flatten = before ∧
      breakCount before + 1 = number + loneReturns before := by
  obtain ⟨earlier, line, whole, -, covers⟩ := exists_covers_of_lineSpan found
  obtain ⟨before, piece, after, split, rfl, rfl⟩ := lineSpan_eq_some_iff.mp found
  have flat : before.flatten = earlier := by
    rw [← flatten_pieces earlier, whole, split, Nat.add_sub_cancel, List.take_left]
  refine ⟨earlier, covers.start_eq, by rw [← whole, flatten_pieces], ?_⟩
  rw [breakCount_eq, ← flat, count_lineFeed_flatten split]
  omega

/-- A span stops before the span of a later line starts. -/
theorem stop_lt_start_of_lineSpan (found : lineSpan text number = some span) {later : Nat}
    {laterSpan : ByteSpan} (before : number < later)
    (foundLater : lineSpan text later = some laterSpan) :
    span.stop < laterSpan.start := by
  obtain ⟨earlier, piece, after, split, rfl, rfl⟩ := lineSpan_eq_some_iff.mp found
  obtain ⟨longer, other, rest, splitLater, rfl, rfl⟩ := lineSpan_eq_some_iff.mp foundLater
  obtain ⟨content, ends⟩ : ∃ content, piece = content ++ ['\n'] := by
    cases after with
    | nil =>
        have size := congrArg List.length (split.symm.trans splitLater)
        simp only [List.length_append, List.length_cons, List.length_nil] at size
        omega
    | cons next after => exact exists_content_of_followed split
  -- The later line stands behind this one and the lines between the two.
  obtain ⟨between, rfl⟩ : ∃ between, longer = earlier ++ piece :: between := by
    rcases List.append_eq_append_iff.mp (split.symm.trans splitLater) with
      ⟨more, rfl, same⟩ | ⟨more, rfl, -⟩
    · cases more with
      | nil =>
          rw [List.append_nil] at before
          omega
      | cons first between =>
          obtain ⟨rfl, -⟩ := List.cons.inj same
          exact ⟨between, rfl⟩
    · rw [List.length_append] at before
      omega
  have shorter : byteLength (withoutBreaks piece) < byteLength piece := by
    have prefixSize := byteLength_le_of_sublist (withoutBreaks_isPrefix content).sublist
    have lineFeed := '\n'.utf8Size_pos
    rw [ends, withoutBreaks_append_lineFeed, byteLength_append, byteLength_cons]
    omega
  simp only [List.flatten_append, List.flatten_cons, byteLength_append]
  omega

end Spans

/-- Exactly the lines of a text have spans.  A span lies within the text, starts behind
the bytes of the lines before its own, with all that ends them, and covers the content of
its line up to the carriage returns at the end; the span of a later line starts behind
it. -/
theorem lineSpan_covers_line (text : Text) (number : Nat) :
    ((lineSpan text number).isSome = true ↔ 1 ≤ number ∧ number ≤ (lines text).length) ∧
    ∀ span, lineSpan text number = some span →
      span.start ≤ span.stop ∧ span.stop ≤ byteLength text ∧
      (∃ before line, pieces before = (pieces text).take (number - 1) ∧
        (lines text)[number - 1]? = some line ∧
        span.Covers text before (withoutReturns line)) ∧
      ∀ later laterSpan, number < later → lineSpan text later = some laterSpan →
        span.stop < laterSpan.start := by
  refine ⟨isSome_lineSpan_iff text number, fun span found => ?_⟩
  obtain ⟨before, line, earlier, isLine, covers⟩ := exists_covers_of_lineSpan found
  obtain ⟨inOrder, inside⟩ := covers.le_stop
  exact ⟨inOrder, inside, ⟨before, line, earlier, isLine, covers⟩,
    fun _ _ => stop_lt_start_of_lineSpan found⟩

/-- A line of a two-byte character with two carriage returns behind it, an empty line, and
a last line that only a carriage return ends. -/
theorem lineSpan_covers_line_returns :
    let text := "é\r\r\n\nb\r".toList
    lineSpan text 1 = some ⟨0, 2⟩ ∧ lineSpan text 2 = some ⟨5, 5⟩ ∧
    lineSpan text 3 = some ⟨6, 7⟩ ∧ lineSpan text 4 = none ∧
    (lines text)[0]? = some ['é', '\r'] ∧
    (∃ before, pieces before = [] ∧ ByteSpan.Covers ⟨0, 2⟩ text before ['é']) ∧
    (lines text)[2]? = some ['b', '\r'] ∧
    (∃ before, pieces before = ["é\r\r\n".toList, "\n".toList] ∧
      ByteSpan.Covers ⟨6, 7⟩ text before ['b']) ∧
    2 < 5 := by
  intro text
  have first : lineSpan text 1 = some ⟨0, 2⟩ := by decide +kernel
  have second : lineSpan text 2 = some ⟨5, 5⟩ := by decide +kernel
  have third : lineSpan text 3 = some ⟨6, 7⟩ := by decide +kernel
  have firstLine : (lines text)[0]? = some ['é', '\r'] := by decide +kernel
  have thirdLine : (lines text)[2]? = some ['b', '\r'] := by decide +kernel
  obtain ⟨-, -, ⟨none, line, atStart, isLine, covers⟩, apart⟩ :=
    (lineSpan_covers_line text 1).2 _ first
  obtain ⟨-, -, ⟨before, other, earlier, isOther, coversOther⟩, -⟩ :=
    (lineSpan_covers_line text 3).2 _ third
  obtain rfl := Option.some.inj (isLine.symm.trans firstLine)
  obtain rfl := Option.some.inj (isOther.symm.trans thirdLine)
  refine ⟨first, second, third, by decide +kernel, firstLine, ⟨none, atStart, covers⟩, thirdLine,
    ⟨before, earlier, coversOther⟩, apart 2 _ (by decide) second⟩

end Text
end AccumulatorMachine
