import AccumulatorMachine.Proofs.TextLayout
import Mathlib.Data.List.Induction
import Mathlib.Data.List.TakeWhile

/-!
# White space around and between words

Trimming and splitting in words go by the same white space: trimming leaves the
words of a text alone, and nothing is left of a text exactly when it has no word.
-/

namespace AccumulatorMachine
namespace Text

theorem isBlankText_cons (c : Char) (rest : Text) :
    isBlankText (c :: rest) = (isBlank c && isBlankText rest) := rfl

/-! ## Words -/

theorem words_cons_of_isBlank {c : Char} (blank : isBlank c = true) (rest : Text) :
    words (c :: rest) = words rest :=
  words_append_blank [] blank rest

theorem words_append_of_isBlank {c : Char} (blank : isBlank c = true) (text : Text) :
    words (text ++ [c]) = words text := by
  rw [words_append_blank text blank []]
  exact List.append_nil _

theorem ne_nil_of_mem_words {text word : Text} (member : word ∈ words text) :
    word ≠ [] := by
  have nonempty := (List.mem_filter.mp member).2
  simpa using nonempty

/-- A text without a word is white space only. -/
theorem words_eq_nil_iff (text : Text) :
    words text = [] ↔ isBlankText text = true := by
  induction text with
  | nil => exact iff_of_true rfl rfl
  | cons c rest inductionHypothesis =>
      rw [isBlankText_cons, Bool.and_eq_true]
      by_cases blank : isBlank c = true
      · rw [words_cons_of_isBlank blank, inductionHypothesis]
        exact ⟨fun others => ⟨blank, others⟩, And.right⟩
      · refine iff_of_false ?_ fun both => blank both.1
        obtain ⟨piece, pieces, split⟩ :=
          List.exists_cons_of_ne_nil (List.splitOnP_ne_nil isBlank rest)
        rw [words, List.splitOnP_cons_eq_if_modifyHead, if_neg blank, split]
        exact List.cons_ne_nil _ _

/-! ## Trimming -/

theorem words_trimStart (text : Text) : words (trimStart text) = words text := by
  induction text with
  | nil => rfl
  | cons c rest inductionHypothesis =>
      by_cases blank : isBlank c = true
      · rw [words_cons_of_isBlank blank, ← inductionHypothesis, trimStart,
          List.dropWhile_cons_of_pos blank]
        rfl
      · rw [trimStart, List.dropWhile_cons_of_neg blank]

theorem words_trimEnd (text : Text) : words (trimEnd text) = words text := by
  induction text using List.reverseRecOn with
  | nil => rfl
  | append_singleton text c inductionHypothesis =>
      rw [trimEnd, List.reverse_append, List.reverse_singleton, List.singleton_append]
      by_cases blank : isBlank c = true
      · rw [List.dropWhile_cons_of_pos blank, words_append_of_isBlank blank]
        exact inductionHypothesis
      · rw [List.dropWhile_cons_of_neg blank, List.reverse_cons, List.reverse_reverse]

/-- Trimming leaves the words alone. -/
@[simp] theorem words_trim (text : Text) : words (trim text) = words text := by
  rw [trim, words_trimEnd, words_trimStart]

/-- Nothing is left of a text that is white space only. -/
theorem trim_eq_nil_iff (text : Text) :
    trim text = [] ↔ isBlankText text = true := by
  constructor
  · intro nothing
    rw [← words_eq_nil_iff, ← words_trim, nothing]
    rfl
  · intro blank
    have dropped : text.dropWhile isBlank = [] :=
      List.dropWhile_eq_nil_iff.mpr (List.all_eq_true.mp blank)
    rw [trim, trimStart, dropped]
    rfl

end Text
end AccumulatorMachine
