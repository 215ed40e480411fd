import AccumulatorMachine.Program.Assembly
import AccumulatorMachine.Proofs.HexadecimalNumerals
import AccumulatorMachine.Proofs.TextLayout
import Mathlib.Data.List.Forall2

/-!
# Reading source texts

The code of a source text are its lines, trimmed and without the blank ones, up
to the line that ends the code, and its data the lines after that.  An accepted
text gives the program whose statements and data these lines denote, one by one.
-/

namespace AccumulatorMachine

theorem mapError_eq_ok_iff {ε δ α : Type} {result : Except ε α}
    {wrap : ε → δ} {value : α} :
    result.mapError wrap = .ok value ↔ result = .ok value := by
  cases result <;> simp [Except.mapError]

theorem map_eq_ok_iff {ε α β : Type} {result : Except ε α}
    {function : α → β} {value : β} :
    result.map function = .ok value ↔
      ∃ argument, result = .ok argument ∧ function argument = value := by
  cases result <;> simp [Except.map]

theorem bind_eq_ok_iff {ε α β : Type} {result : Except ε α}
    {next : α → Except ε β} {value : β} :
    result >>= next = .ok value ↔
      ∃ argument, result = .ok argument ∧ next argument = .ok value := by
  cases result <;> simp [bind, Except.bind]

/-- The address of a cell is written exactly. -/
theorem Datum.toInt_addressWord (datum : Datum) :
    datum.addressWord.toInt = (datum.address.val : Int) := by
  have bound := datum.address.isLt
  unfold dataSize at bound
  exact Word.toInt_ofNat_of_le (by unfold Word.highest; omega)

namespace Source

/-! ## What a source text writes -/

/-- The lines that are not blank, trimmed. -/
def keptLines (source : Text) : List Text :=
  ((Text.lines source).map Text.trim).filter fun line => !line.isEmpty

/-- The lines before the end of the code. -/
def codeLines (source : Text) : List Text :=
  (keptLines source).takeWhile fun line => line != endOfCode

/-- The lines after the end of the code. -/
def dataLines (source : Text) : List Text :=
  ((keptLines source).dropWhile fun line => line != endOfCode).tail

/-- A line writes a statement: the mnemonic, and the numeral of the argument if
the mnemonic takes one. -/
inductive WritesStatement : Text → Statement → Prop
  | withArgument {line numeral : Text} {opcode : Opcode} {argument : Word} :
      Text.words line = [opcode.mnemonic.toList, numeral] →
        opcode.takesArgument = true →
        Hexadecimal.Denotes numeral argument.toInt →
        WritesStatement line ⟨opcode, argument⟩
  | alone {line : Text} {opcode : Opcode} :
      Text.words line = [opcode.mnemonic.toList] →
        opcode.takesArgument = false →
        WritesStatement line ⟨opcode, 0⟩

/-- A line writes a datum: the numerals of the address and of the value. -/
inductive WritesDatum : Text → Datum → Prop
  | numerals {line first second : Text} {address : CellIndex} {value : Word} :
      Text.words line = [first, second] →
        Hexadecimal.Denotes first (address.val : Int) →
        Hexadecimal.Denotes second value.toInt →
        WritesDatum line ⟨address, value⟩

/-- A source text writes a program, line by line. -/
structure Writes (source : Text) (program : Program) : Prop where
  code : List.Forall₂ WritesStatement (codeLines source) program.code
  data : List.Forall₂ WritesDatum (dataLines source) program.data

/-! ## Lines -/

theorem upperCase_mnemonic (opcode : Opcode) :
    Text.upperCase opcode.mnemonic.toList = opcode.mnemonic.toList := by
  cases opcode <;> decide

theorem readArgument_eq_ok_iff (opcode : Opcode) (tokens : List Text) (argument : Word) :
    readArgument opcode tokens = .ok argument ↔
      (∃ numeral, tokens = [numeral] ∧ opcode.takesArgument = true ∧
        Hexadecimal.Denotes numeral argument.toInt) ∨
      (tokens = [] ∧ opcode.takesArgument = false ∧ argument = 0) := by
  simp only [← Hexadecimal.read_eq_ok_iff]
  unfold readArgument
  cases takes : opcode.takesArgument with
  | true =>
      rcases tokens with _ | ⟨numeral, _ | ⟨second, rest⟩⟩ <;>
        simp [mapError_eq_ok_iff]
  | false => rcases tokens with _ | ⟨numeral, rest⟩ <;> simp [eq_comm]

theorem readStatement_of_words {line : Text} {tokens : List Text} {opcode : Opcode}
    (split : Text.words line = opcode.mnemonic.toList :: tokens) :
    readStatement line =
      (readArgument opcode tokens).map fun argument => ⟨opcode, argument⟩ := by
  rw [readStatement, split]
  simp only [upperCase_mnemonic, Opcode.ofMnemonic?_mnemonic, ne_eq, not_true_eq_false,
    if_false]

/-- Only a mnemonic in upper case starts a statement. -/
theorem words_of_readStatement {line : Text} {statement : Statement}
    (found : readStatement line = .ok statement) :
    ∃ tokens, Text.words line = statement.opcode.mnemonic.toList :: tokens := by
  unfold readStatement at found
  split at found
  · cases found
  · rename_i mnemonic tokens split
    split at found
    · cases found
    · rename_i opcode named
      split at found
      · cases found
      · rename_i upperCase
        obtain ⟨argument, -, rfl⟩ := map_eq_ok_iff.mp found
        rw [← not_not.mp upperCase] at named
        exact ⟨tokens, by rw [split, Opcode.ofMnemonic?_eq_some_iff.mp named]⟩

/-- Exactly the lines that write a statement are read, as that statement. -/
theorem readStatement_eq_ok_iff (line : Text) (statement : Statement) :
    readStatement line = .ok statement ↔ WritesStatement line statement := by
  constructor
  · intro found
    obtain ⟨tokens, split⟩ := words_of_readStatement found
    rw [readStatement_of_words split, map_eq_ok_iff] at found
    obtain ⟨argument, argumentRead, same⟩ := found
    rw [← same]
    rcases (readArgument_eq_ok_iff _ _ _).mp argumentRead with
      ⟨numeral, rfl, takes, denotes⟩ | ⟨rfl, takes, rfl⟩
    · exact .withArgument split takes denotes
    · exact .alone split takes
  · rintro (⟨split, takes, denotes⟩ | ⟨split, takes⟩)
    · rw [readStatement_of_words split, map_eq_ok_iff]
      exact ⟨_, (readArgument_eq_ok_iff _ _ _).mpr (Or.inl ⟨_, rfl, takes, denotes⟩), rfl⟩
    · rw [readStatement_of_words split, map_eq_ok_iff]
      exact ⟨0, (readArgument_eq_ok_iff _ _ _).mpr (Or.inr ⟨rfl, takes, rfl⟩), rfl⟩

/-- Exactly the lines that write a datum are read, as that datum. -/
theorem readDatum_eq_ok_iff (line : Text) (datum : Datum) :
    readDatum line = .ok datum ↔ WritesDatum line datum := by
  constructor
  · intro found
    unfold readDatum at found
    split at found
    · rename_i first second split
      obtain ⟨address, readFirst, found⟩ := bind_eq_ok_iff.mp found
      obtain ⟨value, readSecond, found⟩ := bind_eq_ok_iff.mp found
      split at found
      · rename_i index inside
        cases found
        have denotes := (Hexadecimal.read_eq_ok_iff _ _).mp (mapError_eq_ok_iff.mp readFirst)
        rw [(Memory.index?_eq_some_iff _ _).mp inside] at denotes
        exact .numerals split denotes
          ((Hexadecimal.read_eq_ok_iff _ _).mp (mapError_eq_ok_iff.mp readSecond))
      · cases found
    · cases found
  · rintro ⟨split, denotesAddress, denotesValue⟩
    rename_i first second address value
    have exact := Datum.toInt_addressWord ⟨address, value⟩
    have readFirst := (Hexadecimal.read_eq_ok_iff first _).mpr (exact ▸ denotesAddress)
    have readSecond := (Hexadecimal.read_eq_ok_iff second value).mpr denotesValue
    rw [readDatum, split]
    simp only [readFirst, readSecond, (Memory.index?_eq_some_iff _ _).mpr exact, bind,
      Except.bind, Except.mapError]

/-- Lines are read when each of them is. -/
theorem readLines_eq_ok_iff {α : Type} (read : Text → Except AssemblyFault α)
    (number : Nat) (content : List Text) (values : List α) :
    readLines read number content = .ok values ↔
      List.Forall₂ (fun line value => read line = .ok value) content values := by
  induction content generalizing number values with
  | nil =>
      rw [readLines, Except.ok.injEq, List.forall₂_nil_left_iff]
      exact eq_comm
  | cons line rest inductionHypothesis =>
      rw [readLines, List.forall₂_cons_left_iff]
      cases first : read line with
      | error fault => simp
      | ok value =>
          simp only [map_eq_ok_iff, inductionHypothesis, Except.ok.injEq]
          constructor
          · rintro ⟨others, inRest, rfl⟩
            exact ⟨value, others, rfl, inRest, rfl⟩
          · rintro ⟨_, others, rfl, inRest, rfl⟩
            exact ⟨others, inRest, rfl⟩

theorem readStatements_eq_ok_iff (number : Nat) (content : List Text)
    (code : List Statement) :
    readLines readStatement number content = .ok code ↔
      List.Forall₂ WritesStatement content code := by
  simp only [readLines_eq_ok_iff, readStatement_eq_ok_iff]

theorem readData_eq_ok_iff (number : Nat) (content : List Text) (data : List Datum) :
    readLines readDatum number content = .ok data ↔
      List.Forall₂ WritesDatum content data := by
  simp only [readLines_eq_ok_iff, readDatum_eq_ok_iff]

/-! ## Sections -/

theorem significantLines_eq_ok {blankSeen : Bool} {number : Nat}
    {content kept : List Text}
    (found : significantLines blankSeen number content = .ok kept) :
    kept = (content.map Text.trim).filter fun line => !line.isEmpty := by
  induction content generalizing blankSeen number kept with
  | nil =>
      cases found
      rfl
  | cons line rest inductionHypothesis =>
      rw [significantLines] at found
      by_cases blank : (Text.trim line).isEmpty = true
      · rw [if_pos blank] at found
        rw [List.map_cons, List.filter_cons_of_neg (by rw [blank]; exact Bool.false_ne_true)]
        split at found
        · cases found
        · exact inductionHypothesis found
      · rw [if_neg blank] at found
        rw [List.map_cons, List.filter_cons_of_pos (by simpa using blank)]
        split at found
        · cases found
        · obtain ⟨others, inRest, rfl⟩ := map_eq_ok_iff.mp found
          rw [inductionHypothesis inRest]

theorem splitSections_eq_ok {number : Nat} {kept : List Text} {sections : Sections}
    (found : splitSections number kept = .ok sections) :
    sections.code = kept.takeWhile (fun line => line != endOfCode) ∧
      sections.data = (kept.dropWhile fun line => line != endOfCode).tail := by
  induction kept generalizing number sections with
  | nil =>
      cases found
      exact ⟨rfl, rfl⟩
  | cons line rest inductionHypothesis =>
      rw [splitSections] at found
      by_cases final : line = endOfCode
      · rw [if_pos final] at found
        cases found
        have stops : (line != endOfCode) = false := by simpa using final
        simp only [List.takeWhile_cons, List.dropWhile_cons, stops]
        exact ⟨rfl, rfl⟩
      · rw [if_neg final] at found
        have goesOn : (line != endOfCode) = true := by simpa using final
        simp only [List.takeWhile_cons, List.dropWhile_cons, goesOn, if_true]
        split at found
        · cases found
        · obtain ⟨others, inRest, rfl⟩ := map_eq_ok_iff.mp found
          obtain ⟨code, data⟩ := inductionHypothesis inRest
          exact ⟨congrArg (line :: ·) code, data⟩

/-- Sections are accepted when every line in them is right and the code fits in
the code store. -/
theorem program_eq_ok_iff (sections : Sections) (program : Program) :
    sections.program = .ok program ↔
      sections.code.length ≤ codeMax ∧
        List.Forall₂ WritesStatement sections.code program.code ∧
        List.Forall₂ WritesDatum sections.data program.data := by
  constructor
  · intro found
    obtain ⟨code, codeRead, found⟩ := bind_eq_ok_iff.mp found
    by_cases long : codeMax < sections.code.length
    · rw [if_pos long] at found
      cases found
    · rw [if_neg long] at found
      obtain ⟨data, dataRead, found⟩ := bind_eq_ok_iff.mp found
      cases found
      rw [List.take_of_length_le (by omega)] at codeRead
      exact ⟨by omega, (readStatements_eq_ok_iff _ _ _).mp codeRead,
        (readData_eq_ok_iff _ _ _).mp dataRead⟩
  · rintro ⟨fits, code, data⟩
    rw [Sections.program, List.take_of_length_le fits,
      (readStatements_eq_ok_iff _ _ _).mpr code]
    refine bind_eq_ok_iff.mpr ⟨_, rfl, ?_⟩
    rw [if_neg (by omega)]
    exact bind_eq_ok_iff.mpr ⟨_, (readData_eq_ok_iff _ _ _).mpr data, rfl⟩

/-- An accepted text writes its program, which fits in the code store. -/
theorem writes_of_assemble {source : Text} {program : Program}
    (accepted : assemble source = .ok program) :
    Writes source program ∧ program.code.length ≤ codeMax := by
  obtain ⟨split, isSplit, accepted⟩ := bind_eq_ok_iff.mp accepted
  obtain ⟨kept, isKept, isSplit⟩ := bind_eq_ok_iff.mp isSplit
  obtain ⟨fits, code, data⟩ := (program_eq_ok_iff split program).mp accepted
  obtain ⟨sameCode, sameData⟩ := splitSections_eq_ok isSplit
  have sameLines : kept = keptLines source := significantLines_eq_ok isKept
  rw [sameCode, sameLines] at code
  rw [sameData, sameLines] at data
  exact ⟨⟨code, data⟩, by rw [← code.length_eq, ← sameLines, ← sameCode]; exact fits⟩

end Source
end AccumulatorMachine
