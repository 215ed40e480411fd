import AccumulatorMachine.Proofs.SourceReading

/-!
# What is wrong with a line

The faults of a line of a source text, as relations that do not mention the
assembler.  Their conditions exclude each other, and what a condition leaves out
does not matter: a wrong mnemonic is a fault whatever its arguments are, and a
wrong number of arguments is one whatever the arguments are.  Reading refuses a
line exactly for the fault that it has.
-/

namespace AccumulatorMachine

theorem mapError_eq_error_iff {ε δ α : Type} {result : Except ε α}
    {wrap : ε → δ} {error : δ} :
    result.mapError wrap = .error error ↔
      ∃ cause, result = .error cause ∧ wrap cause = error := by
  cases result <;> simp [Except.mapError]

theorem map_eq_error_iff {ε α β : Type} {result : Except ε α}
    {function : α → β} {error : ε} :
    result.map function = .error error ↔ result = .error error := by
  cases result <;> simp [Except.map]

theorem bind_eq_error_iff {ε α β : Type} {result : Except ε α}
    {next : α → Except ε β} {error : ε} :
    result >>= next = .error error ↔
      result = .error error ∨
        ∃ argument, result = .ok argument ∧ next argument = .error error := by
  cases result <;> simp [bind, Except.bind]

/-- Two texts differ at most in the case of letters of ASCII. -/
def Text.EqualUpToCase (first second : Text) : Prop :=
  first.map Char.toUpper = second.map Char.toUpper

instance (first second : Text) : Decidable (Text.EqualUpToCase first second) :=
  inferInstanceAs (Decidable (first.map Char.toUpper = second.map Char.toUpper))

/-- A token is the numeral of some word. -/
def Hexadecimal.IsNumeral (token : Text) : Prop :=
  ∃ word : Word, Denotes token word.toInt

theorem Hexadecimal.read_eq_error_iff (token : Text) (error : Invalid) :
    read token = .error error ↔ ¬IsNumeral token ∧ error = ⟨token⟩ := by
  have noNumeral : ¬IsNumeral token ↔ ∀ word, read token ≠ .ok word := by
    simp only [IsNumeral, not_exists, ne_eq, read_eq_ok_iff]
  rw [noNumeral]
  unfold read
  split
  · split_ifs <;> simp [eq_comm]
  · simp [eq_comm]

namespace Source

/-! ## What is wrong with a line -/

/-- A line, given the lines before it, is a blank line too many or starts with
white space. -/
inductive LayoutFault (before : List Text) (line : Text) : AssemblyFault → Prop
  | secondBlankLine :
      Text.isBlankText line = true →
        (∃ earlier ∈ before, Text.isBlankText earlier = true) →
        LayoutFault before line .secondBlankLine
  | leadingWhiteSpace :
      Text.isBlankText line = false →
        line.head? = some ' ' ∨ line.head? = some '\t' →
        LayoutFault before line .leadingWhiteSpace

/-- A line is the end of the code but for the case of its letters. -/
inductive MarkerFault (line : Text) : AssemblyFault → Prop
  | endOfCodeCase :
      line ≠ endOfCode → Text.EqualUpToCase line endOfCode →
        MarkerFault line .endOfCodeCase

/-- A line is no statement: for its mnemonic, whatever follows it; for the
number of its arguments, whatever they are; or for its argument. -/
inductive StatementFault (line : Text) : AssemblyFault → Prop
  | illegalMnemonic {token : Text} {arguments : List Text} :
      Text.words line = token :: arguments →
        (∀ opcode : Opcode, Text.upperCase token ≠ opcode.mnemonic.toList) →
        StatementFault line (.illegalMnemonic token)
  | mnemonicCase {token : Text} {arguments : List Text} {opcode : Opcode} :
      Text.words line = token :: arguments →
        Text.upperCase token = opcode.mnemonic.toList →
        token ≠ opcode.mnemonic.toList →
        StatementFault line (.mnemonicCase opcode)
  | unexpectedArgument {opcode : Opcode} {arguments : List Text} :
      Text.words line = opcode.mnemonic.toList :: arguments →
        opcode.takesArgument = false →
        arguments ≠ [] →
        StatementFault line .unexpectedArgument
  | missingArgument {opcode : Opcode} :
      Text.words line = [opcode.mnemonic.toList] →
        opcode.takesArgument = true →
        StatementFault line .missingArgument
  | tooManyArguments {opcode : Opcode} {arguments : List Text} :
      Text.words line = opcode.mnemonic.toList :: arguments →
        opcode.takesArgument = true →
        2 ≤ arguments.length →
        StatementFault line .tooManyArguments
  | invalidArgument {opcode : Opcode} {argument : Text} :
      Text.words line = [opcode.mnemonic.toList, argument] →
        opcode.takesArgument = true →
        ¬Hexadecimal.IsNumeral argument →
        StatementFault line (.invalidArgument ⟨argument⟩)

/-- A line is no datum: for the number of its tokens, whatever they are; for its
first token, whatever the second is; for its second token; or for its address. -/
inductive DatumFault (line : Text) : AssemblyFault → Prop
  | dataArguments :
      (Text.words line).length ≠ 2 →
        DatumFault line .dataArguments
  | invalidAddress {first second : Text} :
      Text.words line = [first, second] →
        ¬Hexadecimal.IsNumeral first →
        DatumFault line (.invalidData ⟨first⟩)
  | invalidValue {first second : Text} :
      Text.words line = [first, second] →
        Hexadecimal.IsNumeral first →
        ¬Hexadecimal.IsNumeral second →
        DatumFault line (.invalidData ⟨second⟩)
  | dataAddress {first second : Text} {address : Word} :
      Text.words line = [first, second] →
        Hexadecimal.Denotes first address.toInt →
        Hexadecimal.IsNumeral second →
        address.toInt < 0 ∨ (dataSize : Int) ≤ address.toInt →
        DatumFault line (.dataAddress address)

/-! ## Layout and markers -/

theorem layoutFault_of_blank {before : List Text} {line : Text} {fault : AssemblyFault}
    (blank : Text.isBlankText line = true) :
    LayoutFault before line fault ↔
      before.any Text.isBlankText = true ∧ fault = .secondBlankLine := by
  rw [List.any_eq_true]
  constructor
  · rintro (⟨-, earlier⟩ | ⟨visible, -⟩)
    · exact ⟨earlier, rfl⟩
    · rw [blank] at visible
      contradiction
  · rintro ⟨earlier, rfl⟩
    exact .secondBlankLine blank earlier

theorem layoutFault_of_visible {before : List Text} {line : Text} {fault : AssemblyFault}
    (visible : Text.isBlankText line = false) :
    LayoutFault before line fault ↔
      (line.head? = some ' ' ∨ line.head? = some '\t') ∧ fault = .leadingWhiteSpace := by
  constructor
  · rintro (⟨blank, -⟩ | ⟨-, white⟩)
    · rw [visible] at blank
      contradiction
    · exact ⟨white, rfl⟩
  · rintro ⟨white, rfl⟩
    exact .leadingWhiteSpace visible white

theorem markerFault_iff {line : Text} {fault : AssemblyFault} :
    MarkerFault line fault ↔
      line ≠ endOfCode ∧ line.map Char.toUpper = endOfCode ∧ fault = .endOfCodeCase := by
  have inCapitals : endOfCode.map Char.toUpper = endOfCode := by decide
  constructor
  · rintro ⟨notFinal, same⟩
    exact ⟨notFinal, same.trans inCapitals, rfl⟩
  · rintro ⟨notFinal, same, rfl⟩
    exact .endOfCodeCase notFinal (same.trans inCapitals.symm)

/-! ## Refused lines -/

theorem readArgument_eq_error_iff (opcode : Opcode) (tokens : List Text)
    (fault : AssemblyFault) :
    readArgument opcode tokens = .error fault ↔
      (opcode.takesArgument = false ∧ tokens ≠ [] ∧ .unexpectedArgument = fault) ∨
      (opcode.takesArgument = true ∧ tokens = [] ∧ .missingArgument = fault) ∨
      (opcode.takesArgument = true ∧ 2 ≤ tokens.length ∧ .tooManyArguments = fault) ∨
      ∃ argument, opcode.takesArgument = true ∧ tokens = [argument] ∧
        ¬Hexadecimal.IsNumeral argument ∧ .invalidArgument ⟨argument⟩ = fault := by
  unfold readArgument
  cases takes : opcode.takesArgument with
  | true =>
      rcases tokens with _ | ⟨argument, _ | ⟨second, others⟩⟩
      · simp
      · simp [mapError_eq_error_iff, Hexadecimal.read_eq_error_iff]
      · simp
  | false => rcases tokens with _ | ⟨argument, others⟩ <;> simp

theorem readStatement_of_unknown {line token : Text} {arguments : List Text}
    (split : Text.words line = token :: arguments)
    (unknown : ∀ opcode : Opcode, Text.upperCase token ≠ opcode.mnemonic.toList) :
    readStatement line = .error (.illegalMnemonic token) := by
  have notFound : Opcode.ofMnemonic? (Text.upperCase token) = none :=
    Option.eq_none_iff_forall_ne_some.mpr fun opcode found =>
      unknown opcode (Opcode.ofMnemonic?_eq_some_iff.mp found).symm
  rw [readStatement, split]
  simp only [notFound]

theorem readStatement_of_case {line token : Text} {arguments : List Text}
    {opcode : Opcode}
    (split : Text.words line = token :: arguments)
    (named : Text.upperCase token = opcode.mnemonic.toList)
    (different : token ≠ opcode.mnemonic.toList) :
    readStatement line = .error (.mnemonicCase opcode) := by
  rw [readStatement, split]
  simp only [named, Opcode.ofMnemonic?_mnemonic, if_pos different]

/-- A line with a word is refused exactly as a statement for what is wrong with
it. -/
theorem readStatement_eq_error_iff {line : Text} (hasWord : Text.words line ≠ [])
    (fault : AssemblyFault) :
    readStatement line = .error fault ↔ StatementFault line fault := by
  constructor
  · intro refused
    obtain ⟨token, arguments, split⟩ := List.exists_cons_of_ne_nil hasWord
    by_cases known : ∃ opcode : Opcode, Text.upperCase token = opcode.mnemonic.toList
    · obtain ⟨opcode, named⟩ := known
      by_cases upper : token = opcode.mnemonic.toList
      · rw [upper] at split
        rw [readStatement_of_words split, map_eq_error_iff, readArgument_eq_error_iff] at refused
        rcases refused with ⟨takes, some, rfl⟩ | ⟨takes, rfl, rfl⟩ | ⟨takes, many, rfl⟩ |
          ⟨argument, takes, rfl, noNumeral, rfl⟩
        · exact .unexpectedArgument split takes some
        · exact .missingArgument split takes
        · exact .tooManyArguments split takes many
        · exact .invalidArgument split takes noNumeral
      · rw [readStatement_of_case split named upper] at refused
        cases refused
        exact .mnemonicCase split named upper
    · rw [readStatement_of_unknown split (not_exists.mp known)] at refused
      cases refused
      exact .illegalMnemonic split (not_exists.mp known)
  · rintro (⟨split, unknown⟩ | ⟨split, named, different⟩ | ⟨split, takes, some⟩ |
      ⟨split, takes⟩ | ⟨split, takes, many⟩ | ⟨split, takes, noNumeral⟩)
    · exact readStatement_of_unknown split unknown
    · exact readStatement_of_case split named different
    all_goals rw [readStatement_of_words split, map_eq_error_iff, readArgument_eq_error_iff]
    · exact Or.inl ⟨takes, some, rfl⟩
    · exact Or.inr (Or.inl ⟨takes, rfl, rfl⟩)
    · exact Or.inr (Or.inr (Or.inl ⟨takes, many, rfl⟩))
    · exact Or.inr (Or.inr (Or.inr ⟨_, takes, rfl, noNumeral, rfl⟩))

theorem readDatum_of_words {line first second : Text}
    (split : Text.words line = [first, second]) (fault : AssemblyFault) :
    readDatum line = .error fault ↔
      (¬Hexadecimal.IsNumeral first ∧ .invalidData ⟨first⟩ = fault) ∨
      ∃ address : Word, Hexadecimal.Denotes first address.toInt ∧
        ((¬Hexadecimal.IsNumeral second ∧ .invalidData ⟨second⟩ = fault) ∨
          (Hexadecimal.IsNumeral second ∧ Memory.index? address = none ∧
            .dataAddress address = fault)) := by
  have refused {wrap : Hexadecimal.Invalid → AssemblyFault} (token : Text) :
      (Hexadecimal.read token).mapError wrap = .error fault ↔
        ¬Hexadecimal.IsNumeral token ∧ wrap ⟨token⟩ = fault := by
    simp [mapError_eq_error_iff, Hexadecimal.read_eq_error_iff, and_assoc]
  rw [readDatum, split]
  simp only [bind_eq_error_iff, refused, mapError_eq_ok_iff, Hexadecimal.read_eq_ok_iff]
  refine or_congr_right (exists_congr fun address => and_congr_right fun _ => or_congr_right ?_)
  cases Memory.index? address with
  | none => simp [Hexadecimal.IsNumeral]
  | some index => simp

/-- A line is refused exactly as a datum for what is wrong with it. -/
theorem readDatum_eq_error_iff (line : Text) (fault : AssemblyFault) :
    readDatum line = .error fault ↔ DatumFault line fault := by
  constructor
  · intro refused
    by_cases two : (Text.words line).length = 2
    · obtain ⟨first, second, split⟩ := List.length_eq_two.mp two
      rcases (readDatum_of_words split fault).mp refused with
        ⟨noNumeral, rfl⟩ | ⟨address, denotes, ⟨noNumeral, rfl⟩ | ⟨numeral, outside, rfl⟩⟩
      · exact .invalidAddress split noNumeral
      · exact .invalidValue split ⟨address, denotes⟩ noNumeral
      · exact .dataAddress split denotes numeral ((Memory.index?_eq_none_iff address).mp outside)
    · unfold readDatum at refused
      split at refused
      · rename_i split
        exact absurd (congrArg List.length split) two
      · cases refused
        exact .dataArguments two
  · rintro (notTwo | ⟨split, noNumeral⟩ | ⟨split, ⟨address, denotes⟩, noNumeral⟩ |
      ⟨split, denotes, numeral, outside⟩)
    · unfold readDatum
      split
      · rename_i split
        exact absurd (congrArg List.length split) notTwo
      · rfl
    · exact (readDatum_of_words split _).mpr (Or.inl ⟨noNumeral, rfl⟩)
    · exact (readDatum_of_words split _).mpr
        (Or.inr ⟨address, denotes, Or.inl ⟨noNumeral, rfl⟩⟩)
    · exact (readDatum_of_words split _).mpr (Or.inr ⟨_, denotes,
        Or.inr ⟨numeral, (Memory.index?_eq_none_iff _).mpr outside, rfl⟩⟩)

end Source
end AccumulatorMachine
