import AccumulatorMachine.Proofs.BlankText
import AccumulatorMachine.Proofs.LineFaults

/-!
# The fault a source text is rejected for

A source text is rejected for the first line with a wrong layout; if there is
none, for the first line of its code that is the end of the code but for the
case of a letter; then for the first wrong statement among those that fit in the
code store, or for a statement too many; and for the first wrong datum at last.
-/

namespace AccumulatorMachine

theorem exists_eq_ok_iff {ε α : Type} {result : Except ε α} :
    (∃ value, result = .ok value) ↔ ∀ error, result ≠ .error error := by
  cases result <;> simp

/-- A result with one possible value is that value unless it is an error. -/
theorem eq_ok_iff_of_forall_eq {ε α : Type} {result : Except ε α} {value : α}
    (determined : ∀ found, result = .ok found → found = value) (found : α) :
    result = .ok found ↔ (∀ error, result ≠ .error error) ∧ found = value := by
  rw [← exists_eq_ok_iff]
  constructor
  · exact fun succeeds => ⟨⟨found, succeeds⟩, determined found succeeds⟩
  · rintro ⟨⟨other, succeeds⟩, rfl⟩
    rw [succeeds, determined other succeeds]

namespace Source

/-! ## The first faulty line -/

section FirstFault

-- `wrong` is what can be wrong with a line, given the lines before it.
variable (wrong : List Text → Text → AssemblyFault → Prop)

/-- No line has a fault. -/
def Faultless (content : List Text) : Prop :=
  ∀ before line after, content = before ++ line :: after →
    ∀ fault, ¬wrong before line fault

/-- An error is about the first line with a fault, where the first line of all
has a given number. -/
def FirstFault (number : Nat) (content : List Text) (error : AssemblyError) : Prop :=
  ∃ before line after, content = before ++ line :: after ∧
    Faultless wrong before ∧ wrong before line error.fault ∧
    error.line = number + before.length

theorem faultless_nil : Faultless wrong [] := by
  intro before line after split
  have nonempty : before ++ line :: after ≠ [] :=
    List.append_ne_nil_of_right_ne_nil before (List.cons_ne_nil line after)
  exact absurd split.symm nonempty

theorem faultless_cons (line : Text) (rest : List Text) :
    Faultless wrong (line :: rest) ↔
      (∀ fault, ¬wrong [] line fault) ∧
        Faultless (fun before => wrong (line :: before)) rest := by
  constructor
  · exact fun faultless => ⟨faultless [] line rest rfl, fun before other after split =>
      faultless (line :: before) other after (congrArg (line :: ·) split)⟩
  · rintro ⟨first, others⟩ before other after split
    cases before with
    | nil =>
        obtain ⟨rfl, -⟩ := List.cons.inj split
        exact first
    | cons _ before =>
        obtain ⟨rfl, rest⟩ := List.cons.inj split
        exact others before other after rest

theorem not_firstFault_nil (number : Nat) (error : AssemblyError) :
    ¬FirstFault wrong number [] error := by
  rintro ⟨before, line, after, split, -⟩
  exact List.append_ne_nil_of_right_ne_nil before (List.cons_ne_nil line after) split.symm

/-- The first line is at fault, or it is right and the others are searched. -/
theorem firstFault_cons (number : Nat) (line : Text) (rest : List Text)
    (error : AssemblyError) :
    FirstFault wrong number (line :: rest) error ↔
      (wrong [] line error.fault ∧ error.line = number) ∨
        ((∀ fault, ¬wrong [] line fault) ∧
          FirstFault (fun before => wrong (line :: before)) (number + 1) rest error) := by
  constructor
  · rintro ⟨before, other, after, split, clean, fault, place⟩
    cases before with
    | nil =>
        obtain ⟨rfl, -⟩ := List.cons.inj split
        exact Or.inl ⟨fault, place⟩
    | cons _ before =>
        obtain ⟨rfl, inRest⟩ := List.cons.inj split
        obtain ⟨first, clean⟩ := (faultless_cons wrong _ _).mp clean
        rw [List.length_cons] at place
        exact Or.inr ⟨first, before, other, after, inRest, clean, fault, by omega⟩
  · rintro (⟨fault, place⟩ | ⟨first, before, other, after, rfl, clean, fault, place⟩)
    · exact ⟨[], line, rest, rfl, faultless_nil wrong, fault, place⟩
    · refine ⟨line :: before, other, after, rfl, (faultless_cons wrong _ _).mpr ⟨first, clean⟩,
        fault, ?_⟩
      rw [List.length_cons]
      omega

theorem firstFault_cons_of_fault {number : Nat} {line : Text} {rest : List Text}
    {error : AssemblyError} {fault : AssemblyFault}
    (only : ∀ other, wrong [] line other ↔ other = fault) :
    FirstFault wrong number (line :: rest) error ↔ ⟨number, fault⟩ = error := by
  rw [firstFault_cons]
  constructor
  · rintro (⟨isWrong, rfl⟩ | ⟨right, -⟩)
    · rw [← (only error.fault).mp isWrong]
    · exact absurd ((only fault).mpr rfl) (right fault)
  · rintro rfl
    exact Or.inl ⟨(only fault).mpr rfl, rfl⟩

theorem firstFault_cons_of_right {number : Nat} {line : Text} {rest : List Text}
    {error : AssemblyError} (right : ∀ fault, ¬wrong [] line fault) :
    FirstFault wrong number (line :: rest) error ↔
      FirstFault (fun before => wrong (line :: before)) (number + 1) rest error := by
  rw [firstFault_cons]
  exact ⟨fun either => either.elim (fun here => absurd here.1 (right _)) And.right,
    fun later => Or.inr ⟨right, later⟩⟩

/-- Without a first faulty line there is no faulty line. -/
theorem faultless_iff (number : Nat) (content : List Text) :
    Faultless wrong content ↔ ∀ error, ¬FirstFault wrong number content error := by
  -- The lines after the first are judged with it before them, by another relation.
  induction content generalizing wrong number with
  | nil => exact iff_of_true (faultless_nil wrong) (not_firstFault_nil wrong number)
  | cons line rest inductionHypothesis =>
      simp only [faultless_cons, firstFault_cons, not_or, not_and, forall_and,
        inductionHypothesis _ (number + 1)]
      constructor
      · exact fun ⟨first, others⟩ => ⟨fun error fault => absurd fault (first error.fault),
          fun error _ => others error⟩
      · rintro ⟨first, others⟩
        have right : ∀ fault, ¬wrong [] line fault :=
          fun fault isWrong => first ⟨number, fault⟩ isWrong rfl
        exact ⟨right, fun error => others error right⟩

end FirstFault

/-- Lines are right when each is, where the lines before do not matter. -/
theorem faultless_iff_forall_mem (wrong : Text → AssemblyFault → Prop)
    (content : List Text) :
    Faultless (fun _ => wrong) content ↔ ∀ line ∈ content, ∀ fault, ¬wrong line fault := by
  induction content with
  | nil => simp [faultless_nil]
  | cons line rest inductionHypothesis =>
      rw [faultless_cons, List.forall_mem_cons, inductionHypothesis]

/-! ## Passes -/

/-- The layout check stops at the first line with a wrong layout. -/
theorem significantLines_eq_error_iff (seen : List Text) (number : Nat)
    (content : List Text) (error : AssemblyError) :
    significantLines (seen.any Text.isBlankText) number content = .error error ↔
      FirstFault (fun before => LayoutFault (seen ++ before)) number content error := by
  -- The lines checked so far are carried along, since a blank line is a fault for
  -- the sake of one of them.
  induction content generalizing seen number with
  | nil => exact iff_of_false (by simp [significantLines]) (not_firstFault_nil _ _ _)
  | cons line rest inductionHypothesis =>
      have next := inductionHypothesis (seen ++ [line]) (number + 1)
      rw [List.any_append, List.any_cons, List.any_nil, Bool.or_false] at next
      simp only [List.append_assoc, List.singleton_append] at next
      rw [significantLines]
      simp only [List.isEmpty_iff, Text.trim_eq_nil_iff]
      cases blank : Text.isBlankText line with
      | true =>
          rw [blank, Bool.or_true] at next
          rw [if_pos rfl]
          by_cases second : seen.any Text.isBlankText = true
          · rw [if_pos second, firstFault_cons_of_fault, Except.error.injEq]
            intro other
            rw [layoutFault_of_blank blank, List.append_nil]
            exact and_iff_right second
          · rw [if_neg second, firstFault_cons_of_right, next]
            intro fault
            rw [layoutFault_of_blank blank, List.append_nil]
            exact fun isWrong => second isWrong.1
      | false =>
          rw [blank, Bool.or_false] at next
          rw [if_neg Bool.false_ne_true]
          by_cases white : line.head? = some ' ' ∨ line.head? = some '\t'
          · rw [if_pos white, firstFault_cons_of_fault, Except.error.injEq]
            intro other
            rw [layoutFault_of_visible blank]
            exact and_iff_right white
          · rw [if_neg white, map_eq_error_iff, firstFault_cons_of_right, next]
            intro fault
            rw [layoutFault_of_visible blank]
            exact fun isWrong => white isWrong.1

/-- The split stops at the first wrong marker before the end of the code. -/
theorem splitSections_eq_error_iff (number : Nat) (kept : List Text)
    (error : AssemblyError) :
    splitSections number kept = .error error ↔
      FirstFault (fun _ => MarkerFault) number
        (kept.takeWhile fun line => line != endOfCode) error := by
  induction kept generalizing number with
  | nil => exact iff_of_false (by simp [splitSections]) (not_firstFault_nil _ _ _)
  | cons line rest inductionHypothesis =>
      rw [splitSections]
      by_cases final : line = endOfCode
      · rw [if_pos final, List.takeWhile_cons_of_neg (by simpa using final)]
        exact iff_of_false (by simp) (not_firstFault_nil _ _ _)
      · rw [if_neg final, List.takeWhile_cons_of_pos (by simpa using final)]
        by_cases almost : line.map Char.toUpper = endOfCode
        · rw [if_pos almost, firstFault_cons_of_fault, Except.error.injEq]
          intro other
          rw [markerFault_iff, and_iff_right final]
          exact and_iff_right almost
        · rw [if_neg almost, map_eq_error_iff, firstFault_cons_of_right]
          · exact inductionHypothesis (number + 1)
          · intro fault
            rw [markerFault_iff]
            exact fun isWrong => almost isWrong.2.1

/-- Reading stops at the first line that is refused. -/
theorem readLines_eq_error_iff {α : Type} {read : Text → Except AssemblyFault α}
    {wrong : Text → AssemblyFault → Prop} {content : List Text}
    (agree : ∀ line ∈ content, ∀ fault, read line = .error fault ↔ wrong line fault)
    (number : Nat) (error : AssemblyError) :
    readLines read number content = .error error ↔
      FirstFault (fun _ => wrong) number content error := by
  induction content generalizing number with
  | nil => exact iff_of_false (by simp [readLines]) (not_firstFault_nil _ _ _)
  | cons line rest inductionHypothesis =>
      rw [List.forall_mem_cons] at agree
      obtain ⟨first, others⟩ := agree
      rw [readLines]
      cases result : read line with
      | error fault =>
          rw [firstFault_cons_of_fault, Except.error.injEq]
          intro other
          rw [← first other, result, Except.error.injEq]
          exact eq_comm
      | ok value =>
          rw [firstFault_cons_of_right]
          · exact map_eq_error_iff.trans (inductionHypothesis others (number + 1))
          · intro fault isWrong
            rw [← first fault, result] at isWrong
            cases isWrong

/-- Reading succeeds when no line is refused. -/
theorem exists_readLines_iff {α : Type} {read : Text → Except AssemblyFault α}
    {wrong : Text → AssemblyFault → Prop} {content : List Text}
    (agree : ∀ line ∈ content, ∀ fault, read line = .error fault ↔ wrong line fault)
    (number : Nat) :
    (∃ values, readLines read number content = .ok values) ↔
      Faultless (fun _ => wrong) content := by
  simp only [exists_eq_ok_iff, ne_eq, readLines_eq_error_iff agree, ← faultless_iff]

/-! ## Source texts -/

/-- The error that a source text is rejected with.  Each pass reports its first
fault, and only if the passes before it found none. -/
inductive Reports (source : Text) : AssemblyError → Prop
  | layout {error : AssemblyError} :
      FirstFault LayoutFault 1 (Text.lines source) error →
        Reports source error
  | marker {error : AssemblyError} :
      Faultless LayoutFault (Text.lines source) →
        FirstFault (fun _ => MarkerFault) 1 (codeLines source) error →
        Reports source error
  | statement {error : AssemblyError} :
      Faultless LayoutFault (Text.lines source) →
        Faultless (fun _ => MarkerFault) (codeLines source) →
        FirstFault (fun _ => StatementFault) 1 ((codeLines source).take codeMax) error →
        Reports source error
  | codeTooLong :
      Faultless LayoutFault (Text.lines source) →
        Faultless (fun _ => MarkerFault) (codeLines source) →
        Faultless (fun _ => StatementFault) ((codeLines source).take codeMax) →
        codeMax < (codeLines source).length →
        Reports source ⟨codeMax + 1, .codeTooLong⟩
  | datum {error : AssemblyError} :
      Faultless LayoutFault (Text.lines source) →
        Faultless (fun _ => MarkerFault) (codeLines source) →
        Faultless (fun _ => StatementFault) (codeLines source) →
        (codeLines source).length ≤ codeMax →
        FirstFault (fun _ => DatumFault) ((codeLines source).length + 2)
          (dataLines source) error →
        Reports source error

/-- A line that is kept has a word. -/
theorem words_ne_nil_of_mem_keptLines {source line : Text}
    (member : line ∈ keptLines source) : Text.words line ≠ [] := by
  obtain ⟨inLines, nonempty⟩ := List.mem_filter.mp member
  obtain ⟨whole, -, rfl⟩ := List.mem_map.mp inLines
  rw [Text.words_trim, ne_eq, Text.words_eq_nil_iff, ← Text.trim_eq_nil_iff]
  simpa using nonempty

theorem words_ne_nil_of_mem_codeLines {source line : Text}
    (member : line ∈ codeLines source) : Text.words line ≠ [] :=
  words_ne_nil_of_mem_keptLines ((List.takeWhile_prefix _).subset member)

theorem significantLines_lines_eq_error_iff (source : Text) (error : AssemblyError) :
    significantLines false 1 (Text.lines source) = .error error ↔
      FirstFault LayoutFault 1 (Text.lines source) error :=
  significantLines_eq_error_iff [] 1 (Text.lines source) error

theorem significantLines_lines_eq_ok_iff (source : Text) (kept : List Text) :
    significantLines false 1 (Text.lines source) = .ok kept ↔
      Faultless LayoutFault (Text.lines source) ∧ kept = keptLines source := by
  rw [eq_ok_iff_of_forall_eq (fun _ => significantLines_eq_ok), faultless_iff LayoutFault 1]
  simp only [ne_eq, significantLines_lines_eq_error_iff]
  rfl

theorem splitSections_keptLines_eq_ok_iff (source : Text) (split : Sections) :
    splitSections 1 (keptLines source) = .ok split ↔
      Faultless (fun _ => MarkerFault) (codeLines source) ∧
        split = ⟨codeLines source, dataLines source⟩ := by
  have determined (found : Sections)
      (succeeds : splitSections 1 (keptLines source) = .ok found) :
      found = ⟨codeLines source, dataLines source⟩ := by
    obtain ⟨code, data⟩ := splitSections_eq_ok succeeds
    exact congrArg₂ Sections.mk code data
  rw [eq_ok_iff_of_forall_eq determined, faultless_iff _ 1]
  simp only [ne_eq, splitSections_eq_error_iff]
  rfl

theorem sections_eq_error_iff (source : Text) (error : AssemblyError) :
    sections source = .error error ↔
      FirstFault LayoutFault 1 (Text.lines source) error ∨
        (Faultless LayoutFault (Text.lines source) ∧
          FirstFault (fun _ => MarkerFault) 1 (codeLines source) error) := by
  rw [sections, bind_eq_error_iff, significantLines_lines_eq_error_iff]
  simp only [significantLines_lines_eq_ok_iff, splitSections_eq_error_iff]
  refine or_congr_right ⟨?_, fun ⟨layout, marker⟩ => ⟨keptLines source, ⟨layout, rfl⟩, marker⟩⟩
  rintro ⟨_, ⟨layout, rfl⟩, marker⟩
  exact ⟨layout, marker⟩

theorem sections_eq_ok_iff (source : Text) (split : Sections) :
    sections source = .ok split ↔
      Faultless LayoutFault (Text.lines source) ∧
        Faultless (fun _ => MarkerFault) (codeLines source) ∧
        split = ⟨codeLines source, dataLines source⟩ := by
  rw [sections, bind_eq_ok_iff]
  simp only [significantLines_lines_eq_ok_iff]
  constructor
  · rintro ⟨_, ⟨layout, rfl⟩, rest⟩
    exact ⟨layout, (splitSections_keptLines_eq_ok_iff source split).mp rest⟩
  · rintro ⟨layout, rest⟩
    exact ⟨_, ⟨layout, rfl⟩, (splitSections_keptLines_eq_ok_iff source split).mpr rest⟩

theorem program_eq_error_iff_of_long {split : Sections}
    (haveWords : ∀ line ∈ split.code, Text.words line ≠ [])
    (long : codeMax < split.code.length) (error : AssemblyError) :
    split.program = .error error ↔
      FirstFault (fun _ => StatementFault) 1 (split.code.take codeMax) error ∨
      (Faultless (fun _ => StatementFault) (split.code.take codeMax) ∧
        error = ⟨codeMax + 1, .codeTooLong⟩) := by
  have agree (line : Text) (member : line ∈ split.code.take codeMax) (fault : AssemblyFault) :
      readStatement line = .error fault ↔ StatementFault line fault :=
    readStatement_eq_error_iff (haveWords line (List.mem_of_mem_take member)) fault
  rw [Sections.program, bind_eq_error_iff, readLines_eq_error_iff agree,
    ← exists_readLines_iff agree 1]
  refine or_congr_right ⟨?_, ?_⟩
  · rintro ⟨code, succeeds, refused⟩
    rw [if_pos long] at refused
    cases refused
    exact ⟨⟨code, succeeds⟩, rfl⟩
  · rintro ⟨⟨code, succeeds⟩, rfl⟩
    refine ⟨code, succeeds, ?_⟩
    rw [if_pos long]
    rfl

theorem program_eq_error_iff_of_fits {split : Sections}
    (haveWords : ∀ line ∈ split.code, Text.words line ≠ [])
    (fits : split.code.length ≤ codeMax) (error : AssemblyError) :
    split.program = .error error ↔
      FirstFault (fun _ => StatementFault) 1 split.code error ∨
      (Faultless (fun _ => StatementFault) split.code ∧
        FirstFault (fun _ => DatumFault) (split.code.length + 2) split.data error) := by
  have agree (line : Text) (member : line ∈ split.code) (fault : AssemblyFault) :
      readStatement line = .error fault ↔ StatementFault line fault :=
    readStatement_eq_error_iff (haveWords line member) fault
  have sameLength {code : List Statement}
      (succeeds : readLines readStatement 1 split.code = .ok code) :
      code.length = split.code.length :=
    ((readLines_eq_ok_iff _ _ _ _).mp succeeds).length_eq.symm
  have data (code : List Statement) (number : Nat) :
      (readLines readDatum number split.data >>= fun data => pure (Program.mk code data)) =
          .error error ↔
        FirstFault (fun _ => DatumFault) number split.data error := by
    rw [bind_eq_error_iff, readLines_eq_error_iff fun line _ => readDatum_eq_error_iff line]
    refine or_iff_left ?_
    rintro ⟨_, -, impossible⟩
    cases impossible
  rw [Sections.program, List.take_of_length_le fits, bind_eq_error_iff,
    readLines_eq_error_iff agree, ← exists_readLines_iff agree 1]
  refine or_congr_right ⟨?_, ?_⟩
  · rintro ⟨code, succeeds, refused⟩
    rw [if_neg (Nat.not_lt.mpr fits), sameLength succeeds] at refused
    exact ⟨⟨code, succeeds⟩, (data code _).mp refused⟩
  · rintro ⟨⟨code, succeeds⟩, inData⟩
    refine ⟨code, succeeds, ?_⟩
    rw [if_neg (Nat.not_lt.mpr fits), sameLength succeeds]
    exact (data code _).mpr inData

/-- Sections are rejected for their first wrong statement, for one statement too
many, or for their first wrong datum. -/
theorem program_eq_error_iff {split : Sections}
    (haveWords : ∀ line ∈ split.code, Text.words line ≠ []) (error : AssemblyError) :
    split.program = .error error ↔
      FirstFault (fun _ => StatementFault) 1 (split.code.take codeMax) error ∨
      (Faultless (fun _ => StatementFault) (split.code.take codeMax) ∧
        codeMax < split.code.length ∧ error = ⟨codeMax + 1, .codeTooLong⟩) ∨
      (Faultless (fun _ => StatementFault) split.code ∧ split.code.length ≤ codeMax ∧
        FirstFault (fun _ => DatumFault) (split.code.length + 2) split.data error) := by
  rcases Nat.lt_or_ge codeMax split.code.length with long | fits
  · rw [program_eq_error_iff_of_long haveWords long]
    refine or_congr_right ?_
    rw [and_iff_right long, or_iff_left]
    exact fun ⟨_, fits, _⟩ => absurd long (Nat.not_lt.mpr fits)
  · rw [program_eq_error_iff_of_fits haveWords fits, List.take_of_length_le fits]
    refine or_congr_right ?_
    rw [and_iff_right fits, or_iff_right]
    exact fun ⟨_, long, _⟩ => absurd long (Nat.not_lt.mpr fits)

/-- Exactly the error that a source text deserves is the one it is rejected
with. -/
theorem assemble_eq_error_iff_reports (source : Text) (error : AssemblyError) :
    assemble source = .error error ↔ Reports source error := by
  have sections : Sections.program ⟨codeLines source, dataLines source⟩ = .error error ↔ _ :=
    program_eq_error_iff (fun _ member => words_ne_nil_of_mem_codeLines member) error
  rw [assemble, bind_eq_error_iff, sections_eq_error_iff]
  simp only [sections_eq_ok_iff]
  constructor
  · rintro ((layout | ⟨layout, marker⟩) | ⟨_, ⟨layout, marker, rfl⟩, refused⟩)
    · exact .layout layout
    · exact .marker layout marker
    · rcases sections.mp refused with statement | ⟨statements, long, rfl⟩ |
        ⟨statements, short, datum⟩
      · exact .statement layout marker statement
      · exact .codeTooLong layout marker statements long
      · exact .datum layout marker statements short datum
  · rintro (layout | ⟨layout, marker⟩ | ⟨layout, marker, statement⟩ |
      ⟨layout, marker, statements, long⟩ | ⟨layout, marker, statements, short, datum⟩)
    · exact Or.inl (Or.inl layout)
    · exact Or.inl (Or.inr ⟨layout, marker⟩)
    · exact Or.inr ⟨_, ⟨layout, marker, rfl⟩, sections.mpr (Or.inl statement)⟩
    · exact Or.inr ⟨_, ⟨layout, marker, rfl⟩,
        sections.mpr (Or.inr (Or.inl ⟨statements, long, rfl⟩))⟩
    · exact Or.inr ⟨_, ⟨layout, marker, rfl⟩,
        sections.mpr (Or.inr (Or.inr ⟨statements, short, datum⟩))⟩

/-- No fault that is reported names an empty mnemonic. -/
theorem Reports.fault_ne_illegalMnemonic_nil {source : Text} {error : AssemblyError}
    (reports : Reports source error) : error.fault ≠ .illegalMnemonic [] := by
  obtain ⟨number, fault⟩ := error
  rintro rfl
  cases reports with
  | layout first =>
      obtain ⟨before, line, after, -, -, isWrong, -⟩ := first
      cases isWrong
  | marker _ first =>
      obtain ⟨before, line, after, -, -, isWrong, -⟩ := first
      cases isWrong
  | statement _ _ first =>
      obtain ⟨before, line, after, -, -, isWrong, -⟩ := first
      cases isWrong with
      | illegalMnemonic split _ =>
          have member : [] ∈ Text.words line := split ▸ List.mem_cons_self
          exact Text.ne_nil_of_mem_words member rfl
  | datum _ _ _ _ first =>
      obtain ⟨before, line, after, -, -, isWrong, -⟩ := first
      cases isWrong

theorem readStatement_eq_mnemonicCase_iff (line : Text) (opcode : Opcode) :
    readStatement line = .error (.mnemonicCase opcode) ↔
      ∃ token arguments, Text.words line = token :: arguments ∧
        Text.upperCase token = opcode.mnemonic.toList ∧
        token ≠ opcode.mnemonic.toList := by
  constructor
  · intro refused
    by_cases hasWord : Text.words line = []
    · rw [readStatement, hasWord] at refused
      cases refused
    · cases (readStatement_eq_error_iff hasWord _).mp refused with
      | mnemonicCase split named different => exact ⟨_, _, split, named, different⟩
  · rintro ⟨token, arguments, split, named, different⟩
    exact readStatement_of_case split named different

/-- A source text is rejected with exactly the error it deserves, and never for
an empty mnemonic.  A line is refused for the case of its mnemonic exactly if
that is a mnemonic when all of it is put in capitals, and not as it is. -/
theorem rejected_as_deserved :
    (∀ source error, assemble source = .error error ↔ Reports source error) ∧
    (∀ source number, assemble source ≠ .error ⟨number, .illegalMnemonic []⟩) ∧
    ∀ line opcode, readStatement line = .error (.mnemonicCase opcode) ↔
      ∃ token arguments, Text.words line = token :: arguments ∧
        Text.upperCase token = opcode.mnemonic.toList ∧
        token ≠ opcode.mnemonic.toList := by
  refine ⟨assemble_eq_error_iff_reports, fun source number rejected => ?_,
    readStatement_eq_mnemonicCase_iff⟩
  exact ((assemble_eq_error_iff_reports _ _).mp rejected).fault_ne_illegalMnemonic_nil rfl

example : assemble "LOAD 1\nHALT 1\nEndCode\n".toList = .error ⟨3, .endOfCodeCase⟩ := by
  rfl

end Source
end AccumulatorMachine
