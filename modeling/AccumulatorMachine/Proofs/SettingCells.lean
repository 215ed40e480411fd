import AccumulatorMachine.Proofs.HexadecimalSpellings
import AccumulatorMachine.Proofs.SessionFrames
import AccumulatorMachine.Proofs.WrittenCommands

/-!
# Setting cells

The line `set` with an address and a value, written as programs write them, sets the
cell, unless the value is negative: its minus sign makes the word look like a flag, and
the line is refused.  With a word `--` before the numerals every value can be set.
-/

namespace AccumulatorMachine

/-! ## Numerals as words of a line -/

namespace Hexadecimal

theorem notMem_specials_of_mem_toDigits {magnitude : Nat} {c : Char}
    (member : c ∈ Nat.toDigits 16 magnitude) :
    c ∉ Text.specials := by
  have plain : Text.IsPlain lowerDigits := by decide
  exact plain c (mem_lowerDigits_of_mem_toDigits member)

theorem ofWord_ne_nil (word : Word) : ofWord word ≠ [] :=
  (denotes_ofInt word.toInt).ne_nil

/-- The written form of a word is plain text. -/
theorem textIsPlain_ofWord (word : Word) : Text.IsPlain (ofWord word) := by
  rw [ofWord]
  cases word.toInt with
  | ofNat magnitude => exact fun c member => notMem_specials_of_mem_toDigits member
  | negSucc predecessor =>
      exact List.forall_mem_cons.mpr
        ⟨by decide, fun c member => notMem_specials_of_mem_toDigits member⟩

theorem head?_ofWord_ne_hyphen {word : Word} (natural : 0 ≤ word.toInt) :
    (ofWord word).head? ≠ some '-' := by
  obtain ⟨magnitude, same⟩ := Int.eq_ofNat_of_zero_le natural
  rw [ofWord, same]
  intro starts
  exact (ne_sign_of_mem_toDigits (List.mem_of_mem_head? starts)).2 rfl

/-- A negative word is written as a hyphen with a digit behind it. -/
theorem exists_digit_of_negative {word : Word} (negative : word.toInt < 0) :
    ∃ digit rest, ofWord word = '-' :: digit :: rest ∧ digit ∈ lowerDigits := by
  obtain ⟨predecessor, same⟩ := Int.eq_negSucc_of_lt_zero negative
  have nonempty : Nat.toDigits 16 (predecessor + 1) ≠ [] := Nat.toDigits_ne_nil
  obtain ⟨digit, rest, digits⟩ := List.exists_cons_of_ne_nil nonempty
  have isDigit : digit ∈ Nat.toDigits 16 (predecessor + 1) := by
    rw [digits]
    exact List.mem_cons_self
  refine ⟨digit, rest, ?_, mem_lowerDigits_of_mem_toDigits isDigit⟩
  rw [ofWord, same, ofInt, digits]

end Hexadecimal

namespace Session

/-! ## The line -/

/-- The line that sets a cell. -/
def setLine (address value : Word) : Text :=
  Text.spaced ["set".toList, Hexadecimal.ofWord address, Hexadecimal.ofWord value]

/-- The line that sets a cell, with a word `--` before the numerals. -/
def escapedSetLine (address value : Word) : Text :=
  Text.spaced
    ["set".toList, "--".toList, Hexadecimal.ofWord address, Hexadecimal.ofWord value]

section Lines

variable {address value : Word}

theorem read_hexadecimal_ofWord (word : Word) :
    NumberForm.hexadecimal.read (Hexadecimal.ofWord word) = .ok (.word word) := by
  simp only [NumberForm.read, Hexadecimal.read_ofWord]

theorem arePlainWords_numerals (address value : Word) :
    Text.ArePlainWords [Hexadecimal.ofWord address, Hexadecimal.ofWord value] := by
  intro word member
  rcases List.mem_pair.mp member with rfl | rfl
  · exact ⟨Hexadecimal.ofWord_ne_nil _, Hexadecimal.textIsPlain_ofWord _⟩
  · exact ⟨Hexadecimal.ofWord_ne_nil _, Hexadecimal.textIsPlain_ofWord _⟩

/-- Both numerals are read if none of them can be mistaken for a flag. -/
theorem reads_numerals {escaped : Bool}
    (unlikeFlags : escaped = false → 0 ≤ address.toInt ∧ 0 ≤ value.toInt) :
    Reads escaped setVerb.parameters
      [Hexadecimal.ofWord address, Hexadecimal.ofWord value] [.word address, .word value] := by
  refine .cons (read_hexadecimal_ofWord address) (fun unescaped => ?_)
    (.cons (read_hexadecimal_ofWord value) (fun unescaped => ?_) .nil)
  · exact Hexadecimal.head?_ofWord_ne_hyphen (unlikeFlags unescaped).1
  · exact Hexadecimal.head?_ofWord_ne_hyphen (unlikeFlags unescaped).2

theorem readInput_setLine (address value : Word) :
    readInput (setLine address value) =
      match (Reading.start setVerb).readWords
          [Hexadecimal.ofWord address, Hexadecimal.ofWord value] with
      | .ok command => .command command
      | .error rejection => .rejected rejection :=
  readInput_spaced (by decide) rfl (arePlainWords_numerals address value)

theorem readInput_setLine_of_natural (naturalAddress : 0 ≤ address.toInt)
    (natural : 0 ≤ value.toInt) :
    readInput (setLine address value) = .command (.set address value) := by
  have read : (Reading.start setVerb).readWords
      [Hexadecimal.ofWord address, Hexadecimal.ofWord value] = .ok (.set address value) :=
    Reading.readWords_of_reads (reads_numerals fun _ => ⟨naturalAddress, natural⟩) rfl rfl
      (Reading.holds_start setVerb) rfl rfl
  rw [readInput_setLine, read]

/-- A negative value is taken for a flag. -/
theorem exists_readInput_setLine_of_negative (naturalAddress : 0 ≤ address.toInt)
    (negative : value.toInt < 0) :
    ∃ digit, readInput (setLine address value) =
      .rejected (.unexpectedArgument ['-', digit]) := by
  obtain ⟨digit, rest, written, isDigit⟩ := Hexadecimal.exists_digit_of_negative negative
  obtain ⟨next, taken, holds, sameVerb, unescaped⟩ :=
    (Reading.holds_start setVerb).takeParameter rfl (read_hexadecimal_ofWord address)
  have notHyphen : digit ≠ '-' := ne_of_mem_of_not_mem isDigit (by decide)
  have notHelp : digit ≠ 'h' := ne_of_mem_of_not_mem isDigit (by decide)
  have noTopics : next.verb.topics = [] := by
    rw [sameVerb]
    rfl
  have refused : (Reading.start setVerb).readWords
      [Hexadecimal.ofWord address, Hexadecimal.ofWord value] =
        .error (.unexpectedArgument ['-', digit]) := by
    rw [Reading.readWords_cons_of_topics_eq_nil rfl,
      Reading.takeWord_eq_takeParameter fun _ =>
        Hexadecimal.head?_ofWord_ne_hyphen naturalAddress, taken]
    change next.readWords _ = _
    rw [Reading.readWords_cons_of_topics_eq_nil noTopics, written,
      Reading.takeWord_hyphen unescaped rest notHyphen, Reading.refuseShort, if_neg notHelp]
  refine ⟨digit, ?_⟩
  rw [readInput_setLine, refused]

theorem readInput_escapedSetLine (address value : Word) :
    readInput (escapedSetLine address value) = .command (.set address value) := by
  have plain : Text.ArePlainWords
      ["--".toList, Hexadecimal.ofWord address, Hexadecimal.ofWord value] :=
    List.forall_mem_cons.mpr
      ⟨⟨by decide, by decide⟩, arePlainWords_numerals address value⟩
  have numerals : Reads true setVerb.parameters
      [Hexadecimal.ofWord address, Hexadecimal.ofWord value] [.word address, .word value] :=
    reads_numerals fun unescaped => Bool.noConfusion unescaped
  have read : (Reading.start setVerb).readWords
      ["--".toList, Hexadecimal.ofWord address, Hexadecimal.ofWord value] =
        .ok (.set address value) := by
    rw [Reading.readWords_cons_of_topics_eq_nil rfl]
    exact Reading.readWords_of_reads numerals rfl rfl (Reading.holds_escaped setVerb) rfl rfl
  rw [escapedSetLine, readInput_spaced (by decide) rfl plain, read]

end Lines

/-! ## What the line does -/

/-- A turn sets a cell: the cell holds the value and was written last, and nothing else
of the machine is changed, nor the breakpoints, nor where listing goes on. -/
structure Turn.SetsCell (turn : Turn) (session : Session) (address value : Word) : Prop where
  events_eq : turn.events = [.executing (.set address value), .setting address value]
  goesOn : turn.isOver = false
  contents_address : turn.session.machine.memory.contents address.toInt = some value
  lastAddress_eq : turn.session.machine.memory.lastAddress = some address.toInt
  contents_other : ∀ other : Int, other ≠ address.toInt →
    turn.session.machine.memory.contents other = session.machine.memory.contents other
  registers_eq : turn.session.machine.registers = session.machine.registers
  code_eq : turn.session.machine.code = session.machine.code
  halted_eq : turn.session.machine.halted = session.machine.halted
  breakpoints_eq : turn.session.breakpoints = session.breakpoints
  listPosition_eq : turn.session.listPosition = session.listPosition

section Sessions

variable {address value : Word} {input : Text}

/-- Where there is a cell, the command to set it does so. -/
theorem exists_setsCell (conditions : Conditions) (session : Session)
    (inside : Memory.IsAddress address.toInt)
    (understood : readInput input = .command (.set address value)) :
    ∃ turn, session.enter conditions input = some turn ∧
      turn.SetsCell session address value := by
  obtain ⟨written, succeeds, last, contents⟩ :=
    session.machine.memory.exists_write value inside
  rw [enter_of_readInput conditions session understood, perform,
    execute_set_of_write conditions (session.remember _) succeeds]
  refine ⟨_, rfl, rfl, rfl, ?_, last, fun other different => ?_, rfl, rfl, rfl, rfl, rfl⟩
  · exact (contents address.toInt).trans (if_pos rfl)
  · exact (contents other).trans (if_neg different)

theorem enter_of_rejected (conditions : Conditions) (session : Session) {rejection : Rejection}
    (refused : readInput input = .rejected rejection) :
    session.enter conditions input = some (session.tell [.rejected rejection]) := by
  rw [enter, refused, answer]

end Sessions

/-- Every cell can be set to every value that is not negative by writing its address and
the value behind `set`.  A negative value is taken for a flag, and the line is refused
and changes nothing; with a word `--` before the numerals every value is set. -/
theorem set_line_sets_unless_negative (conditions : Conditions) (session : Session)
    {address : Word} (inside : Memory.IsAddress address.toInt) (value : Word) :
    (∃ turn, session.enter conditions (setLine address value) = some turn ∧
      (turn.SetsCell session address value ↔ 0 ≤ value.toInt) ∧
      (value.toInt < 0 →
        turn.session = session ∧
          ∃ digit, turn.events = [.rejected (.unexpectedArgument ['-', digit])])) ∧
    ∃ turn, session.enter conditions (escapedSetLine address value) = some turn ∧
      turn.SetsCell session address value := by
  refine ⟨?_, exists_setsCell conditions session inside (readInput_escapedSetLine address value)⟩
  rcases lt_or_ge value.toInt 0 with negative | natural
  · obtain ⟨digit, refused⟩ := exists_readInput_setLine_of_negative inside.1 negative
    refine ⟨_, enter_of_rejected conditions session refused, iff_of_false ?_ (by omega),
      fun _ => ⟨rfl, digit, rfl⟩⟩
    intro sets
    cases sets.events_eq
  · obtain ⟨turn, entered, sets⟩ := exists_setsCell conditions session inside
      (readInput_setLine_of_natural inside.1 natural)
    exact ⟨turn, entered, iff_of_true sets natural, fun negative => absurd natural (by omega)⟩

/-- In a new session cell 1ff is set to the largest value, and to the lowest with the word
`--`. -/
theorem set_line_sets_unless_negative_extremes :
    let conditions : Conditions := ⟨⟨"a", []⟩, .normal, 0⟩
    let session := Session.start Machine.fresh
    setLine 511 2147483647 = "set 1ff 7fffffff".toList ∧
    (∃ turn, session.enter conditions "set 1ff 7fffffff".toList = some turn ∧
      turn.SetsCell session 511 2147483647) ∧
    ∃ turn, session.enter conditions "set -- 1ff -80000000".toList = some turn ∧
      turn.SetsCell session 511 (-2147483648) := by
  intro conditions session
  have inside : Memory.IsAddress (511 : Word).toInt := by decide
  have largest := (set_line_sets_unless_negative conditions session inside 2147483647).1
  have lowest := (set_line_sets_unless_negative conditions session inside (-2147483648)).2
  have written : setLine 511 2147483647 = "set 1ff 7fffffff".toList := by decide +kernel
  have escaped : escapedSetLine 511 (-2147483648) = "set -- 1ff -80000000".toList := by
    decide +kernel
  rw [written] at largest
  rw [escaped] at lowest
  obtain ⟨turn, entered, sets, -⟩ := largest
  exact ⟨written, ⟨turn, entered, sets.mpr (by decide)⟩, lowest⟩

/-- The line `set 0 -1` is refused, and cell 0 keeps its value. -/
theorem negative_value_is_refused :
    let conditions : Conditions := ⟨⟨"a", []⟩, .normal, 0⟩
    let session := Session.start Machine.fresh
    setLine 0 (-1) = "set 0 -1".toList ∧
    ∃ turn, session.enter conditions "set 0 -1".toList = some turn ∧
      turn.events = [.rejected (.unexpectedArgument ['-', '1'])] ∧
      turn.session.machine.memory.contents 0 = some 0 ∧ ¬turn.SetsCell session 0 (-1) := by
  intro conditions session
  refine ⟨by decide +kernel, _, rfl, rfl, by decide +kernel, fun sets => ?_⟩
  cases sets.events_eq

end Session
end AccumulatorMachine
