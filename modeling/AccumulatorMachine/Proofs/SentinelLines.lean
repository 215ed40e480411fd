import AccumulatorMachine.Proofs.LoadedLines

/-!
# The line that ends the code

Loading reads all words of a line as numbers before it looks at the first of
them.  Behind the sentinel any numbers make no difference, and any other word is
a fault.
-/

namespace AccumulatorMachine
namespace Executable

/-! ## Words and numbers -/

/-- Tokens denote numbers exactly when each of them is a numeral. -/
theorem exists_numbers_iff (tokens : List Text) :
    (∃ numbers : List Word,
      List.Forall₂ (fun token number => Hexadecimal.Denotes token number.toInt) tokens numbers) ↔
      ∀ token ∈ tokens, Hexadecimal.IsNumeral token := by
  induction tokens with
  | nil => exact iff_of_true ⟨[], .nil⟩ (List.forall_mem_nil _)
  | cons token rest inductionHypothesis =>
      rw [List.forall_mem_cons, ← inductionHypothesis]
      constructor
      · rintro ⟨_, denotes | ⟨first, others⟩⟩
        exact ⟨⟨_, first⟩, _, others⟩
      · rintro ⟨⟨number, first⟩, numbers, others⟩
        exact ⟨number :: numbers, .cons first others⟩

section Line

variable {line first : Text} {others : List Text}

theorem endsCode_of_numerals (starts : Text.words line = first :: others)
    (isSentinel : Hexadecimal.read first = .ok sentinel)
    (numerals : ∀ token ∈ others, Hexadecimal.IsNumeral token) :
    EndsCode line := by
  obtain ⟨numbers, denote⟩ := (exists_numbers_iff others).mpr numerals
  refine ⟨numbers, ?_⟩
  rw [Holds, starts]
  exact .cons ((Hexadecimal.read_eq_ok_iff first sentinel).mp isSentinel) denote

/-- A line with a word that is no numeral is refused, whatever its first word is. -/
theorem exists_addLine_error {token : Text} (member : token ∈ Text.words line)
    (noNumeral : ¬Hexadecimal.IsNumeral token) (loading : Loading) :
    ∃ fault, loading.addLine line = .error fault := by
  rcases exists_holds_or_lineFault line with ⟨numbers, holds⟩ | ⟨fault, read, -⟩
  · exact absurd ((exists_numbers_iff _).mp ⟨numbers, holds⟩ token member) noNumeral
  · exact ⟨fault, by rw [Loading.addLine, read]⟩

end Line

/-! ## Texts -/

/-- Loading goes on from a line as it stands. -/
theorem load_of_reached {machine : Machine} {executable line : Text}
    {before after : List Text} {loading : Loading}
    (written : Text.lines executable = before ++ line :: after)
    (reached : machine.beginLoading.addLines 1 before = (.ok (), loading)) :
    machine.load executable =
      match loading.addLine line with
      | .error fault => (.error ⟨1 + before.length, fault⟩, loading.machine)
      | .ok next =>
          ((next.addLines (1 + before.length + 1) after).1,
            (next.addLines (1 + before.length + 1) after).2.machine) := by
  rw [Machine.load, written, Loading.addLines_append reached, Loading.addLines]
  cases loading.addLine line <;> rfl

/-- Faults are found on the lines that are still to be added. -/
theorem addLines_ne_error_of_lt {number line : Nat} (less : line < number)
    (loading : Loading) (content : List Text) (fault : LoadFault) :
    (loading.addLines number content).1 ≠ .error ⟨line, fault⟩ := by
  intro failed
  obtain ⟨before, other, later, -, -, -, place⟩ :=
    Loading.exists_line_of_addLines_error (Prod.ext failed rfl)
  change line = number + before.length at place
  omega

/-- What stands behind the sentinel on a line that loading reaches in the code makes
no difference exactly when it is numerals: then loading does what it does with the
sentinel alone on that line, and otherwise it does not. -/
theorem load_eq_sentinel_alone_iff {machine : Machine} {executable replaced line first : Text}
    {before after others : List Text} {loading : Loading}
    (written : Text.lines executable = before ++ line :: after)
    (alone : Text.lines replaced = before ++ Hexadecimal.ofWord sentinel :: after)
    (reached : machine.beginLoading.addLines 1 before = (.ok (), loading))
    (inCode : loading.phase = .code)
    (starts : Text.words line = first :: others)
    (isSentinel : Hexadecimal.read first = .ok sentinel) :
    machine.load executable = machine.load replaced ↔
      ∀ token ∈ others, Hexadecimal.IsNumeral token := by
  rw [load_of_reached written reached, load_of_reached alone reached,
    Loading.addLine_sentinel inCode]
  constructor
  · intro same token member
    by_contra noNumeral
    have inLine : token ∈ Text.words line := by
      rw [starts]
      exact List.mem_cons_of_mem first member
    obtain ⟨fault, refused⟩ := exists_addLine_error inLine noNumeral loading
    rw [refused] at same
    -- The line with the sentinel alone is carried out, so a fault there would stand
    -- on a later line.
    exact addLines_ne_error_of_lt (Nat.lt_succ_self _) _ after fault
      (congrArg Prod.fst same).symm
  · intro numerals
    rw [addLine_of_endsCode inCode (endsCode_of_numerals starts isSentinel numerals)]

/-- Numbers behind the sentinel on the second line are ignored. -/
theorem load_eq_sentinel_alone_iff_numbers :
    let executable := "1 5\n-1 0 +1F\r\n3 7\n".toList
    let replaced := "1 5\n-1\n3 7\n".toList
    Machine.fresh.load executable = Machine.fresh.load replaced ∧
    (Machine.fresh.load executable).1 = .ok () ∧
    (Machine.fresh.load executable).2.memory.cell ⟨3, by decide⟩ = 7 := by
  intro executable replaced
  obtain ⟨loading, reached, inCode⟩ : ∃ loading,
      Machine.fresh.beginLoading.addLines 1 ["1 5".toList] = (.ok (), loading) ∧
        loading.phase = .code :=
    ⟨_, Prod.ext rfl rfl, rfl⟩
  have numerals : ∀ token ∈ ["0".toList, "+1F".toList], Hexadecimal.IsNumeral token := by
    simp only [List.forall_mem_cons, Hexadecimal.IsNumeral, ← Hexadecimal.read_eq_ok_iff]
    exact ⟨⟨0, by decide +kernel⟩, ⟨0x1F, by decide +kernel⟩, List.forall_mem_nil _⟩
  have written : Text.lines executable =
      ["1 5".toList] ++ "-1 0 +1F".toList :: ["3 7".toList] := rfl
  have alone : Text.lines replaced =
      ["1 5".toList] ++ Hexadecimal.ofWord sentinel :: ["3 7".toList] := rfl
  have starts : Text.words "-1 0 +1F".toList =
      "-1".toList :: ["0".toList, "+1F".toList] := rfl
  have same := (load_eq_sentinel_alone_iff written alone reached inCode starts rfl).mpr numerals
  exact ⟨same, rfl, by decide +kernel⟩

/-- A word that is no numeral is refused behind the sentinel, so the text is not loaded
as with the sentinel alone. -/
theorem load_refuses_word_behind_sentinel :
    let executable := "-1 zz\n".toList
    let replaced := "-1\n".toList
    Text.lines executable = ["-1 zz".toList] ∧
    Text.lines replaced = [Hexadecimal.ofWord sentinel] ∧
    Text.words "-1 zz".toList = ["-1".toList, "zz".toList] ∧
    Hexadecimal.read "-1".toList = .ok sentinel ∧
    Machine.fresh.beginLoading.phase = .code ∧
    (Machine.fresh.load executable).1 = .error ⟨1, .invalidNumber ⟨"zz".toList⟩⟩ ∧
    (Machine.fresh.load replaced).1 = .ok () :=
  ⟨rfl, rfl, rfl, rfl, rfl, rfl, rfl⟩

end Executable
end AccumulatorMachine
