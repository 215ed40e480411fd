import AccumulatorMachine.Text.Line
import Mathlib.Data.List.Basic

/-!
# Tokens, lines and texts

A line written as tokens with one space between any two of them splits in these
tokens, and has no white space around it.  A text written as lines, each ended
by a line feed, splits in these lines, as long as no line holds a line feed or
ends with a carriage return.
-/

namespace AccumulatorMachine
namespace Text

/-- A text with a character and without white space. -/
structure IsToken (token : Text) : Prop where
  ne_nil : token ≠ []
  not_isBlank : ∀ c ∈ token, isBlank c = false

theorem isToken_iff (token : Text) :
    IsToken token ↔ (!token.isEmpty && token.all fun c => !isBlank c) = true := by
  simp only [Bool.and_eq_true, Bool.not_eq_true', List.isEmpty_eq_false_iff,
    List.all_eq_true]
  exact ⟨fun isToken => ⟨isToken.ne_nil, isToken.not_isBlank⟩,
    fun ⟨nonempty, visible⟩ => ⟨nonempty, visible⟩⟩

instance (token : Text) : Decidable (IsToken token) :=
  decidable_of_iff _ (isToken_iff token).symm

/-- Tokens with one space between any two of them. -/
def spaced (tokens : List Text) : Text :=
  [' '].intercalate tokens

/-- No character of the text is white space but spaces. -/
def OnlySpaces (text : Text) : Prop :=
  ∀ c ∈ text, c = ' ' ∨ isBlank c = false

/-- A line of tokens, at least one, with one space between any two of them. -/
def IsLine (line : Text) : Prop :=
  ∃ first rest, (∀ token ∈ first :: rest, IsToken token) ∧ spaced (first :: rest) = line

/-! ## Words -/

@[simp] theorem spaced_singleton (token : Text) : spaced [token] = token :=
  List.intercalate_singleton

@[simp] theorem spaced_cons_cons (first second : Text) (rest : List Text) :
    spaced (first :: second :: rest) = first ++ ' ' :: spaced (second :: rest) := by
  rw [spaced, List.intercalate_cons_cons, List.append_assoc]
  rfl

theorem IsToken.words_eq {token : Text} (isToken : IsToken token) :
    words token = [token] := by
  have nonempty : token.isEmpty = false := List.isEmpty_eq_false_iff.mpr isToken.ne_nil
  rw [words, List.splitOnP_eq_singleton isToken.not_isBlank]
  simp [nonempty]

theorem words_append_blank (first : Text) {c : Char} (blank : isBlank c = true)
    (second : Text) :
    words (first ++ c :: second) = words first ++ words second := by
  rw [words, List.splitOnP_append_cons first second blank, List.filter_append]
  rfl

theorem words_append_space (first second : Text) :
    words (first ++ ' ' :: second) = words first ++ words second :=
  words_append_blank first (by decide) second

/-- A line splits in the tokens it was written with. -/
theorem words_spaced {tokens : List Text} (areTokens : ∀ token ∈ tokens, IsToken token) :
    words (spaced tokens) = tokens := by
  induction tokens with
  | nil => rfl
  | cons first rest inductionHypothesis =>
      rw [List.forall_mem_cons] at areTokens
      cases rest with
      | nil =>
          rw [spaced_singleton]
          exact areTokens.1.words_eq
      | cons second later =>
          rw [spaced_cons_cons, words_append_space, areTokens.1.words_eq,
            inductionHypothesis areTokens.2]
          rfl

/-! ## Trimming -/

theorem onlySpaces_spaced {tokens : List Text}
    (areTokens : ∀ token ∈ tokens, IsToken token) :
    OnlySpaces (spaced tokens) := by
  induction tokens with
  | nil => exact fun c member => absurd member (List.not_mem_nil)
  | cons first rest inductionHypothesis =>
      rw [List.forall_mem_cons] at areTokens
      cases rest with
      | nil =>
          rw [spaced_singleton]
          exact fun c member => Or.inr (areTokens.1.not_isBlank c member)
      | cons second later =>
          rw [spaced_cons_cons]
          intro c member
          rcases List.mem_append.mp member with inFirst | behind
          · exact Or.inr (areTokens.1.not_isBlank c inFirst)
          · rcases List.mem_cons.mp behind with space | inRest
            · exact Or.inl space
            · exact inductionHypothesis areTokens.2 c inRest

theorem spaced_ne_nil {token : Text} (isToken : IsToken token) (rest : List Text) :
    spaced (token :: rest) ≠ [] := by
  cases rest with
  | nil =>
      rw [spaced_singleton]
      exact isToken.ne_nil
  | cons second later =>
      rw [spaced_cons_cons]
      exact List.append_ne_nil_of_left_ne_nil isToken.ne_nil _

theorem head?_spaced {token : Text} (isToken : IsToken token) (rest : List Text) :
    (spaced (token :: rest)).head? = token.head? := by
  cases rest with
  | nil => rw [spaced_singleton]
  | cons second later =>
      obtain ⟨c, visible, rfl⟩ := List.exists_cons_of_ne_nil isToken.ne_nil
      rw [spaced_cons_cons]
      rfl

theorem not_isBlank_head? {tokens : List Text}
    (areTokens : ∀ token ∈ tokens, IsToken token) :
    ∀ c ∈ (spaced tokens).head?, isBlank c = false := by
  cases tokens with
  | nil => exact fun c member => absurd member (Option.not_mem_none c)
  | cons first rest =>
      rw [List.forall_mem_cons] at areTokens
      rw [head?_spaced areTokens.1]
      exact fun c member =>
        areTokens.1.not_isBlank c (List.mem_of_mem_head? member)

theorem not_isBlank_getLast? {tokens : List Text}
    (areTokens : ∀ token ∈ tokens, IsToken token) :
    ∀ c ∈ (spaced tokens).getLast?, isBlank c = false := by
  induction tokens with
  | nil => exact fun c member => absurd member (Option.not_mem_none c)
  | cons first rest inductionHypothesis =>
      rw [List.forall_mem_cons] at areTokens
      cases rest with
      | nil =>
          rw [spaced_singleton]
          exact fun c member =>
            areTokens.1.not_isBlank c (List.mem_of_mem_getLast? member)
      | cons second later =>
          have nonempty : spaced (second :: later) ≠ [] :=
            spaced_ne_nil (areTokens.2 second List.mem_cons_self) later
          rw [spaced_cons_cons, List.getLast?_append_of_ne_nil _ (List.cons_ne_nil _ _),
            List.getLast?_cons_of_ne_nil nonempty]
          exact inductionHypothesis areTokens.2

/-- A text without white space at its ends is not changed by trimming. -/
theorem trim_eq_self {text : Text}
    (start : ∀ c ∈ text.head?, isBlank c = false)
    (stop : ∀ c ∈ text.getLast?, isBlank c = false) :
    trim text = text := by
  have dropped {part : Text} (visible : ∀ c ∈ part.head?, isBlank c = false) :
      part.dropWhile isBlank = part := by
    cases part with
    | nil => rfl
    | cons c rest =>
        rw [List.dropWhile_cons_of_neg]
        rw [visible c rfl]
        exact Bool.false_ne_true
  rw [trim, trimStart, dropped start, trimEnd, dropped, List.reverse_reverse]
  rw [List.head?_reverse]
  exact stop

theorem IsLine.trim_eq {line : Text} (isLine : IsLine line) : trim line = line := by
  obtain ⟨first, rest, areTokens, rfl⟩ := isLine
  exact trim_eq_self (not_isBlank_head? areTokens) (not_isBlank_getLast? areTokens)

theorem IsLine.ne_nil {line : Text} (isLine : IsLine line) : line ≠ [] := by
  obtain ⟨first, rest, areTokens, rfl⟩ := isLine
  exact spaced_ne_nil (areTokens first List.mem_cons_self) rest

theorem IsLine.head?_ne {line : Text} (isLine : IsLine line) {c : Char}
    (blank : isBlank c = true) :
    line.head? ≠ some c := by
  obtain ⟨first, rest, areTokens, rfl⟩ := isLine
  intro starts
  rw [not_isBlank_head? areTokens c starts] at blank
  contradiction

theorem IsLine.onlySpaces {line : Text} (isLine : IsLine line) : OnlySpaces line := by
  obtain ⟨first, rest, areTokens, rfl⟩ := isLine
  exact onlySpaces_spaced areTokens

/-! ## Lines -/

theorem pieces_append_lineFeed {line : Text} (inLine : '\n' ∉ line) (rest : Text) :
    pieces (line ++ '\n' :: rest) = (line ++ ['\n']) :: pieces rest := by
  induction line with
  | nil => rfl
  | cons c line inductionHypothesis =>
      rw [List.mem_cons, not_or] at inLine
      rw [List.cons_append, pieces, if_neg (Ne.symm inLine.1),
        inductionHypothesis inLine.2]
      rfl

theorem withoutEnding_append_lineFeed {line : Text} (noReturn : '\r' ∉ line) :
    withoutEnding (line ++ ['\n']) = line := by
  have ends : (line ++ ['\n']).reverse = '\n' :: line.reverse := by
    rw [List.reverse_append]
    rfl
  rw [withoutEnding, ends]
  split
  · rename_i content same
    have backwards : line.reverse = '\r' :: content := (List.cons.inj same).2
    have member : '\r' ∈ line.reverse := backwards ▸ List.mem_cons_self
    exact absurd (List.mem_reverse.mp member) noReturn
  · rename_i content _ same
    rw [← (List.cons.inj same).2, List.reverse_reverse]
  · rename_i noEnding
    exact absurd rfl (noEnding line.reverse)

/-- A text splits in the lines it was written with. -/
theorem lines_flatMap {content : List Text}
    (areLines : ∀ line ∈ content, IsLine line) :
    lines (content.flatMap fun line => line ++ ['\n']) = content := by
  induction content with
  | nil => rfl
  | cons line rest inductionHypothesis =>
      rw [List.forall_mem_cons] at areLines
      have absent {c : Char} (notSpace : c ≠ ' ') (blank : isBlank c = true) : c ∉ line := by
        intro member
        rcases areLines.1.onlySpaces c member with space | visible
        · exact notSpace space
        · rw [blank] at visible
          contradiction
      have noLineFeed : '\n' ∉ line := absent (by decide) (by decide)
      have noReturn : '\r' ∉ line := absent (by decide) (by decide)
      rw [List.flatMap_cons, List.append_assoc, List.singleton_append, lines,
        pieces_append_lineFeed noLineFeed, List.map_cons,
        withoutEnding_append_lineFeed noReturn]
      exact congrArg (line :: ·) (inductionHypothesis areLines.2)

/-- Lines from the start of a text are the lines of a text. -/
theorem pieces_flatten_take (text : Text) (number : Nat) :
    pieces ((pieces text).take number).flatten = (pieces text).take number := by
  fun_induction pieces text generalizing number with
  | case1 => rw [List.take_nil, List.flatten_nil, pieces_nil]
  | case2 rest inductionHypothesis =>
      cases number with
      | zero => rfl
      | succ number =>
          rw [List.take_succ_cons, List.flatten_cons, List.singleton_append, pieces, if_pos rfl,
            inductionHypothesis]
  | case3 c rest inLine noLine inductionHypothesis =>
      cases number with
      | zero => rfl
      | succ number =>
          rw [List.take_succ_cons, List.take_nil, List.flatten_singleton, pieces, if_neg inLine]
          rfl
  | case4 c rest inLine piece later others inductionHypothesis =>
      cases number with
      | zero => rfl
      | succ number =>
          have shorter := inductionHypothesis (number + 1)
          rw [others, List.take_succ_cons, List.flatten_cons] at shorter
          rw [List.take_succ_cons, List.flatten_cons, List.cons_append, pieces, if_neg inLine,
            shorter]

/-- The lines that a text starts with are those of some text that it starts
with. -/
theorem exists_prefix_of_lines {text : Text} {first second : List Text}
    (split : lines text = first ++ second) :
    ∃ start, start <+: text ∧ lines start = first := by
  refine ⟨((pieces text).take first.length).flatten, ?_, ?_⟩
  · have whole := flatten_pieces text
    rw [← List.take_append_drop first.length (pieces text), List.flatten_append] at whole
    exact ⟨_, whole⟩
  · rw [lines, pieces_flatten_take, List.map_take]
    change (lines text).take first.length = first
    rw [split, List.take_left]

end Text
end AccumulatorMachine
