import AccumulatorMachine.Text.ShellWords
import Mathlib.Data.List.Basic

/-!
# Boundaries of characters

A byte offset into a text lies on a boundary when so many bytes at the start of
the text are whole characters.  The other offsets inside the text are those that
cut a character in two.
-/

namespace AccumulatorMachine
namespace Text

/-- A byte offset falls inside the character that follows a part of a text. -/
structure CutsCharacter (before : Text) (c : Char) (offset : Nat) : Prop where
  above : byteLength before < offset
  below : offset < byteLength before + c.utf8Size

theorem byteLength_eq_zero_iff {text : Text} : byteLength text = 0 ↔ text = [] := by
  cases text with
  | nil => exact iff_of_true rfl rfl
  | cons c rest =>
      have size := c.utf8Size_pos
      rw [byteLength_cons]
      exact iff_of_false (by omega) (List.cons_ne_nil c rest)

theorem byteLength_le_of_sublist {part text : Text} (sublist : part.Sublist text) :
    byteLength part ≤ byteLength text := by
  induction sublist with
  | slnil => exact Nat.le_refl _
  | cons c _ inductionHypothesis =>
      rw [byteLength_cons]
      omega
  | cons_cons c _ inductionHypothesis =>
      rw [byteLength_cons, byteLength_cons]
      omega

/-- A part of a text with as many bytes is all of it. -/
theorem eq_of_sublist_of_byteLength_le {part text : Text} (sublist : part.Sublist text)
    (size : byteLength text ≤ byteLength part) :
    part = text := by
  induction sublist with
  | slnil => rfl
  | cons c fewer _ =>
      have smaller := byteLength_le_of_sublist fewer
      have positive := c.utf8Size_pos
      rw [byteLength_cons] at size
      omega
  | cons_cons c _ inductionHypothesis =>
      rw [byteLength_cons, byteLength_cons] at size
      rw [inductionHypothesis (by omega)]

/-! ## Offsets -/

@[simp] theorem takeBytes?_zero (text : Text) : takeBytes? 0 text = some [] := by
  cases text <;> rfl

theorem takeBytes?_cons {count : Nat} (positive : 0 < count) (c : Char) (rest : Text) :
    takeBytes? count (c :: rest) =
      if c.utf8Size ≤ count then (takeBytes? (count - c.utf8Size) rest).map (c :: ·)
      else none := by
  cases count with
  | zero => cases positive
  | succ count => rw [takeBytes?]

/-- The bytes of a start of a text are whole characters. -/
theorem takeBytes?_byteLength_append (taken rest : Text) :
    takeBytes? (byteLength taken) (taken ++ rest) = some taken := by
  induction taken with
  | nil => exact takeBytes?_zero rest
  | cons c others inductionHypothesis =>
      have positive := c.utf8Size_pos
      rw [byteLength_cons, List.cons_append, takeBytes?_cons (by omega), if_pos (by omega),
        Nat.add_sub_cancel_left, inductionHypothesis]
      rfl

theorem exists_rest_of_takeBytes? {count : Nat} {text taken : Text}
    (isTaken : takeBytes? count text = some taken) :
    ∃ rest, text = taken ++ rest ∧ byteLength taken = count := by
  induction text generalizing count taken with
  | nil =>
      cases count with
      | zero =>
          cases isTaken
          exact ⟨[], rfl, rfl⟩
      | succ count => cases isTaken
  | cons c text inductionHypothesis =>
      rcases count.eq_zero_or_pos with rfl | positive
      · rw [takeBytes?_zero, Option.some.injEq] at isTaken
        subst isTaken
        exact ⟨c :: text, rfl, rfl⟩
      · rw [takeBytes?_cons positive] at isTaken
        split at isTaken
        next fits =>
          obtain ⟨others, found, rfl⟩ := Option.map_eq_some_iff.mp isTaken
          obtain ⟨rest, rfl, size⟩ := inductionHypothesis found
          refine ⟨rest, rfl, ?_⟩
          rw [byteLength_cons]
          omega
        next => cases isTaken

/-- What is taken has the size asked for, and every such start of a text can be
taken. -/
theorem takeBytes?_eq_some_iff {count : Nat} {text taken : Text} :
    takeBytes? count text = some taken ↔
      ∃ rest, text = taken ++ rest ∧ byteLength taken = count := by
  refine ⟨exists_rest_of_takeBytes?, ?_⟩
  rintro ⟨rest, rfl, rfl⟩
  exact takeBytes?_byteLength_append taken rest

theorem exists_cut_of_takeBytes?_eq_none {offset : Nat} {text : Text}
    (inside : offset ≤ byteLength text) (missing : takeBytes? offset text = none) :
    ∃ before c rest, text = before ++ c :: rest ∧ CutsCharacter before c offset := by
  induction text generalizing offset with
  | nil =>
      rw [Nat.le_zero.mp inside, takeBytes?_zero] at missing
      cases missing
  | cons c text inductionHypothesis =>
      rcases offset.eq_zero_or_pos with rfl | positive
      · rw [takeBytes?_zero] at missing
        cases missing
      · rw [takeBytes?_cons positive] at missing
        split at missing
        next fits =>
          rw [byteLength_cons] at inside
          obtain ⟨before, cut, rest, rfl, above, below⟩ :=
            inductionHypothesis (by omega) (Option.map_eq_none_iff.mp missing)
          refine ⟨c :: before, cut, rest, rfl, ?_, ?_⟩ <;>
            rw [byteLength_cons] <;>
            omega
        next tooLarge =>
          refine ⟨[], c, text, rfl, positive, ?_⟩
          rw [byteLength_nil]
          omega

/-- An offset inside a text that is no boundary cuts a character. -/
theorem takeBytes?_eq_none_iff {offset : Nat} {text : Text} (inside : offset ≤ byteLength text) :
    takeBytes? offset text = none ↔
      ∃ before c rest, text = before ++ c :: rest ∧ CutsCharacter before c offset := by
  refine ⟨exists_cut_of_takeBytes?_eq_none inside, ?_⟩
  rintro ⟨before, c, rest, rfl, above, below⟩
  rw [Option.eq_none_iff_forall_ne_some]
  intro taken isTaken
  obtain ⟨later, whole, size⟩ := exists_rest_of_takeBytes? isTaken
  rcases List.append_eq_append_iff.mp whole with ⟨more, rfl, same⟩ | ⟨more, rfl, same⟩
  · cases more with
    | nil =>
        rw [List.append_nil] at size
        omega
    | cons first others =>
        obtain ⟨rfl, -⟩ := List.cons_eq_cons.mp same
        rw [byteLength_append, byteLength_cons] at size
        omega
  · rw [byteLength_append] at above
    omega

/-- An offset inside the start of a text depends on that start only. -/
theorem takeBytes?_append {offset : Nat} {first : Text} (inside : offset ≤ byteLength first)
    (second : Text) :
    takeBytes? offset (first ++ second) = takeBytes? offset first := by
  cases found : takeBytes? offset first with
  | some taken =>
      obtain ⟨rest, rfl, size⟩ := exists_rest_of_takeBytes? found
      rw [takeBytes?_eq_some_iff]
      exact ⟨rest ++ second, List.append_assoc _ _ _, size⟩
  | none =>
      obtain ⟨before, c, rest, rfl, cuts⟩ := exists_cut_of_takeBytes?_eq_none inside found
      rw [takeBytes?_eq_none_iff (by rw [byteLength_append]; omega)]
      exact ⟨before, c, rest ++ second, by rw [List.append_assoc, List.cons_append], cuts⟩

end Text
end AccumulatorMachine
