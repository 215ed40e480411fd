import AccumulatorMachine.Text.Cluster

/-!
# Backspaces

A backspace that stands for itself takes back the last cluster that is left of
the text before it.  A cluster is remembered by its size in bytes, and that in
one byte, so that of a cluster of 256 bytes or more only a part is taken back.
When that part ends inside a character, nothing is left that could be called a
text.
-/

namespace AccumulatorMachine
namespace Text

/-- The character that takes back what stands before it. -/
def backspace : Char := '\x08'

/-- A text without some bytes at its start, if these are the bytes of whole
characters. -/
def dropBytes? : Nat → Text → Option Text
  | 0, text => some text
  | _ + 1, [] => none
  | count + 1, c :: rest =>
      if c.utf8Size ≤ count + 1 then dropBytes? (count + 1 - c.utf8Size) rest else none

/-- What is dropped has the size asked for, and every such start of a text can be
dropped. -/
theorem dropBytes?_eq_some_iff {count : Nat} {text rest : Text} :
    dropBytes? count text = some rest ↔
      ∃ dropped, text = dropped ++ rest ∧ byteLength dropped = count := by
  fun_induction dropBytes? count text with
  | case1 text =>
    constructor
    · rintro ⟨⟩
      exact ⟨[], rfl, rfl⟩
    · rintro ⟨dropped, rfl, size⟩
      cases dropped with
      | nil => rfl
      | cons c tail =>
        have := c.utf8Size_pos
        rw [byteLength_cons] at size
        omega
  | case2 count =>
    simp only [reduceCtorEq, false_iff]
    rintro ⟨dropped, equality, size⟩
    obtain ⟨rfl, rfl⟩ := List.append_eq_nil_iff.mp equality.symm
    simp at size
  | case3 count c tail fits ih =>
    rw [ih]
    clear ih
    constructor
    · rintro ⟨dropped, rfl, size⟩
      refine ⟨c :: dropped, rfl, ?_⟩
      rw [byteLength_cons]
      omega
    · rintro ⟨dropped, equality, size⟩
      cases dropped with
      | nil => simp at size
      | cons head dropped =>
        obtain ⟨rfl, rfl⟩ := List.cons_eq_cons.mp equality
        rw [byteLength_cons] at size
        exact ⟨dropped, rfl, by omega⟩
  | case4 count c tail tooLarge =>
    simp only [reduceCtorEq, false_iff]
    rintro ⟨dropped, equality, size⟩
    cases dropped with
    | nil => simp at size
    | cons head dropped =>
      obtain ⟨rfl, rfl⟩ := List.cons_eq_cons.mp equality
      rw [byteLength_cons] at size
      omega

/-- The size of a cluster as it is remembered. -/
def rememberedSize (cluster : Text) : Nat :=
  byteLength cluster % 256

/-- What is left of a text on the way through its clusters. -/
structure Draft where
  /-- The characters left, the latest first. -/
  characters : Text
  /-- The remembered sizes of the clusters left, the latest first. -/
  sizes : List Nat
  deriving DecidableEq, Repr

namespace Draft

/-- Nothing yet. -/
def empty : Draft :=
  ⟨[], []⟩

/-- Go on with a cluster, unless it is a backspace that would leave a part of a
character. -/
def enter? (draft : Draft) (cluster : Text) : Option Draft :=
  if cluster = [backspace] then
    match draft.sizes with
    | [] => some draft
    | size :: sizes => (dropBytes? size draft.characters).map (⟨·, sizes⟩)
  else
    some ⟨cluster.reverse ++ draft.characters, rememberedSize cluster :: draft.sizes⟩

/-- The text left. -/
def text (draft : Draft) : Text :=
  draft.characters.reverse

end Draft

/-- What is left of a text when its backspaces have done their work, unless one
of them leaves a part of a character. -/
def applyBackspaces? (text : Text) : Option Text :=
  ((clusters text).foldlM Draft.enter? .empty).map Draft.text

end Text
end AccumulatorMachine
