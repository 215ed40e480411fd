import AccumulatorMachine.CommandLine.Files
import AccumulatorMachine.Proofs.FilePaths

/-!
# Files that are written and read

A file that is written holds the text, and all other files stay as they are.
No directory is lost by that, so the paths of other files lead to them as before.
-/

namespace AccumulatorMachine
namespace CommandLine
namespace Files

variable {files : Files}

/-! ## One file among others -/

theorem names_of_find? {names : List Text} {entry : FileEntry}
    (found : files.find? names = some entry) : entry.names = names := by
  simpa using List.find?_some found

/-- What is found after a text has been put in a file. -/
theorem find?_put (files : Files) (names : List Text) (text : Text) (other : List Text) :
    (files.put names text).find? other =
      if other = names then some ⟨names, (String.ofList text).toUTF8⟩
      else files.find? other := by
  cases found : files.find? names with
  | none =>
      rw [put, found, find?, List.find?_append]
      change (files.find? other).or _ = _
      by_cases same : other = names
      · rw [if_pos same, same, found]
        simp
      · rw [if_neg same]
        simp [Ne.symm same]
  | some replaced =>
      have sameNames : ∀ entry : FileEntry, (if entry.names == names then
          ⟨names, (String.ofList text).toUTF8⟩ else entry).names = entry.names := by
        intro entry
        split
        · rename_i same
          exact (eq_of_beq same).symm
        · rfl
      rw [put, found, find?, List.find?_map]
      simp only [Function.comp_def, sameNames]
      change (files.find? other).map _ = _
      by_cases same : other = names
      · rw [if_pos same, same, found, Option.map_some, if_pos]
        exact beq_iff_eq.mpr (names_of_find? found)
      · rw [if_neg same]
        cases foundOther : files.find? other with
        | none => rfl
        | some entry =>
            rw [Option.map_some, if_neg]
            rw [names_of_find? foundOther, beq_iff_eq]
            exact same

theorem isDirectory_put {directory : List Text} (isDirectory : files.isDirectory directory = true)
    (names : List Text) (text : Text) :
    (files.put names text).isDirectory directory = true := by
  obtain ⟨entry, member, below⟩ := List.any_eq_true.mp isDirectory
  rw [put]
  cases files.find? names with
  | none => exact List.any_eq_true.mpr ⟨entry, List.mem_append_left _ member, below⟩
  | some _ =>
      refine List.any_eq_true.mpr ⟨_, List.mem_map_of_mem member, ?_⟩
      split
      · rename_i same
        rw [← eq_of_beq same]
        exact below
      · exact below

/-! ## Directories -/

/-- The name of a file, not too long to be looked up. -/
structure IsStorable (segment : Text) : Prop where
  isName : Path.IsName segment
  fits : Text.byteLength segment ≤ nameLimit

/-- What stands at some names. -/
def placeAt (files : Files) (names : List Text) : Place :=
  match files.find? names with
  | some entry => .file entry
  | none => if files.isDirectory names then .directory else .vacant names

/-- The directory above a directory. -/
def ascend : Option (List Text) → Option (List Text)
  | some (name :: names) => some (name :: names).dropLast
  | _ => none

theorem follow_idle (directory : Option (List Text)) {segment : Text} (rest : List Text)
    (idle : Path.isIdle segment = true) :
    files.follow directory (segment :: rest) = files.follow directory rest := by
  rw [follow.eq_def]
  simp only [idle, if_true]

theorem follow_parent (directory : Option (List Text)) (rest : List Text) :
    files.follow directory (Path.parent :: rest) = files.follow (ascend directory) rest := by
  rw [follow.eq_def]
  simp only [show Path.isIdle Path.parent = false by decide, beq_self_eq_true, if_true,
    Bool.false_eq_true, if_false]
  rcases directory with _ | _ | ⟨_, _⟩ <;> rfl

theorem follow_long (directory : Option (List Text)) {segment : Text} (rest : List Text)
    (isName : Path.IsName segment) (long : nameLimit < Text.byteLength segment) :
    files.follow directory (segment :: rest) = .error .nameTooLong := by
  rw [follow.eq_def]
  simp [isName.notIdle, isName.notParent, long]

theorem follow_outside {segment : Text} (rest : List Text) (storable : IsStorable segment) :
    files.follow none (segment :: rest) = .error .notFound := by
  rw [follow.eq_def]
  simp [storable.isName.notIdle, storable.isName.notParent, Nat.not_lt.mpr storable.fits]

theorem follow_file {directory rest : List Text} {segment : Text} {entry : FileEntry}
    (storable : IsStorable segment)
    (found : files.find? (directory ++ [segment]) = some entry) :
    files.follow (some directory) (segment :: rest) =
      if rest.isEmpty then .ok (.file entry)
      else if rest.all List.isEmpty then .ok (.slashed .notADirectory)
      else .error .notADirectory := by
  have notParent := beq_eq_false_iff_ne.mpr storable.isName.notParent
  rw [follow.eq_def]
  simp only [storable.isName.notIdle, notParent, Nat.not_lt.mpr storable.fits, found,
    Bool.false_eq_true, if_false]

theorem follow_fileless {directory rest : List Text} {segment : Text}
    (storable : IsStorable segment)
    (vacant : files.find? (directory ++ [segment]) = none) :
    files.follow (some directory) (segment :: rest) =
      if files.isDirectory (directory ++ [segment]) then
        files.follow (some (directory ++ [segment])) rest
      else if rest.isEmpty then .ok (.vacant (directory ++ [segment]))
      else if rest.all List.isEmpty then .ok (.slashed .notFound)
      else .error .notFound := by
  have notParent := beq_eq_false_iff_ne.mpr storable.isName.notParent
  rw [follow.eq_def]
  simp only [storable.isName.notIdle, notParent, Nat.not_lt.mpr storable.fits, vacant,
    Bool.false_eq_true, if_false]

/-- A storable name at the end leads to whatever stands there. -/
theorem follow_last (directory : List Text) {segment : Text} (storable : IsStorable segment) :
    files.follow (some directory) [segment] =
      .ok (files.placeAt (directory ++ [segment])) := by
  rw [placeAt]
  cases found : files.find? (directory ++ [segment]) with
  | some _ =>
      rw [follow_file storable found]
      rfl
  | none =>
      rw [follow_fileless storable found]
      cases files.isDirectory (directory ++ [segment]) <;> rfl

/-- What a segment can be. -/
theorem segment_cases (segment : Text) :
    Path.isIdle segment = true ∨ segment = Path.parent ∨
      Path.IsName segment ∧ nameLimit < Text.byteLength segment ∨ IsStorable segment := by
  cases idle : Path.isIdle segment with
  | true => exact .inl rfl
  | false =>
      by_cases isParent : segment = Path.parent
      · exact .inr (.inl isParent)
      · rcases Nat.lt_or_ge nameLimit (Text.byteLength segment) with long | fits
        · exact .inr (.inr (.inl ⟨⟨idle, isParent⟩, long⟩))
        · exact .inr (.inr (.inr ⟨⟨idle, isParent⟩, fits⟩))

/-- Segments lead from one directory to another, through directories only. -/
inductive Enters (files : Files) : List Text → List Text → List Text → Prop
  | arrived (directory : List Text) : Enters files directory [] directory
  | stay {start rest finish : List Text} {segment : Text} :
      Path.isIdle segment = true →
        Enters files start rest finish →
        Enters files start (segment :: rest) finish
  | leave {start above rest finish : List Text} :
      ascend (some start) = some above →
        Enters files above rest finish →
        Enters files start (Path.parent :: rest) finish
  | enter {start rest finish : List Text} {segment : Text} :
      IsStorable segment →
        files.find? (start ++ [segment]) = none →
        files.isDirectory (start ++ [segment]) = true →
        Enters files (start ++ [segment]) rest finish →
        Enters files start (segment :: rest) finish

/-- Segments that lead to a directory can be followed by any others. -/
theorem Enters.follow_append {start before finish : List Text}
    (enters : Enters files start before finish) (rest : List Text) :
    files.follow (some start) (before ++ rest) = files.follow (some finish) rest := by
  induction enters with
  | arrived directory => rfl
  | stay idle _ inductionHypothesis =>
      rw [List.cons_append, follow_idle _ _ idle, inductionHypothesis]
  | leave ascends _ inductionHypothesis =>
      rw [List.cons_append, follow_parent, ascends, inductionHypothesis]
  | enter storable vacant isDirectory _ inductionHypothesis =>
      rw [List.cons_append, follow_fileless storable vacant, if_pos isDirectory]
      exact inductionHypothesis

/-- How the first segment leads on towards a file. -/
theorem follow_cons_eq_file {start : Option (List Text)} {segment : Text} {rest : List Text}
    {entry : FileEntry} (found : files.follow start (segment :: rest) = .ok (.file entry)) :
    Path.isIdle segment = true ∧ files.follow start rest = .ok (.file entry) ∨
    segment = Path.parent ∧ files.follow (ascend start) rest = .ok (.file entry) ∨
    ∃ directory, start = some directory ∧ IsStorable segment ∧
      (rest = [] ∧ files.find? (directory ++ [segment]) = some entry ∨
        files.find? (directory ++ [segment]) = none ∧
          files.isDirectory (directory ++ [segment]) = true ∧
          files.follow (some (directory ++ [segment])) rest = .ok (.file entry)) := by
  rcases segment_cases segment with idle | rfl | ⟨isName, long⟩ | storable
  · rw [follow_idle _ _ idle] at found
    exact .inl ⟨idle, found⟩
  · rw [follow_parent] at found
    exact .inr (.inl ⟨rfl, found⟩)
  · rw [follow_long _ _ isName long] at found
    cases found
  · refine .inr (.inr ?_)
    cases start with
    | none =>
        rw [follow_outside _ storable] at found
        cases found
    | some directory =>
        refine ⟨directory, rfl, storable, ?_⟩
        cases stored : files.find? (directory ++ [segment]) with
        | some other =>
            rw [follow_file storable stored] at found
            split at found
            · rename_i atEnd
              cases found
              exact .inl ⟨List.isEmpty_iff.mp atEnd, rfl⟩
            · split at found <;> cases found
        | none =>
            rw [follow_fileless storable stored] at found
            split at found
            · rename_i isDirectory
              exact .inr ⟨rfl, isDirectory, found⟩
            · split at found
              · cases found
              · split at found <;> cases found

/-- A file is found behind segments that lead to a directory. -/
theorem exists_enters_of_follow {start : Option (List Text)} {before : List Text}
    {last : Text} {entry : FileEntry}
    (found : files.follow start (before ++ [last]) = .ok (.file entry)) :
    ∃ directory finish, start = some directory ∧ Enters files directory before finish ∧
      IsStorable last ∧ files.find? (finish ++ [last]) = some entry := by
  induction before generalizing start with
  | nil =>
      rcases follow_cons_eq_file found with ⟨-, ended⟩ | ⟨-, ended⟩ |
        ⟨directory, isStart, storable, ⟨-, stored⟩ | ⟨-, -, ended⟩⟩
      · cases ended
      · cases ended
      · exact ⟨directory, directory, isStart, .arrived directory, storable, stored⟩
      · cases ended
  | cons segment rest inductionHypothesis =>
      rcases follow_cons_eq_file found with ⟨idle, further⟩ | ⟨rfl, further⟩ |
        ⟨directory, rfl, storable, ⟨ended, -⟩ | ⟨vacant, isDirectory, further⟩⟩
      · obtain ⟨directory, finish, isStart, enters, stored⟩ := inductionHypothesis further
        exact ⟨directory, finish, isStart, .stay idle enters, stored⟩
      · obtain ⟨above, finish, ascends, enters, stored⟩ := inductionHypothesis further
        cases start with
        | none => cases ascends
        | some directory => exact ⟨directory, finish, rfl, .leave ascends enters, stored⟩
      · exact absurd ended (List.append_ne_nil_of_right_ne_nil rest (List.cons_ne_nil last []))
      · obtain ⟨_, finish, isStart, enters, stored⟩ := inductionHypothesis further
        cases isStart
        exact ⟨directory, finish, rfl, .enter storable vacant isDirectory enters, stored⟩

/-! ## Reading and writing -/

/-- A file can be written at some names if no directory is there. -/
def IsWritable (files : Files) (names : List Text) : Prop :=
  files.find? names = none → files.isDirectory names = false

theorem isWritable_of_placeAt {names : List Text}
    (noDirectory : files.placeAt names ≠ .directory) : files.IsWritable names := by
  intro vacant
  rw [Bool.eq_false_iff]
  intro isDirectory
  apply noDirectory
  rw [placeAt, vacant]
  exact if_pos isDirectory

/-- Writing a file leaves the ways between directories. -/
theorem Enters.put {start before finish names : List Text}
    (enters : Enters files start before finish) (writable : files.IsWritable names)
    (text : Text) : Enters (files.put names text) start before finish := by
  induction enters with
  | arrived directory => exact .arrived directory
  | stay idle _ inductionHypothesis => exact .stay idle inductionHypothesis
  | leave ascends _ inductionHypothesis => exact .leave ascends inductionHypothesis
  | @enter start _ _ segment storable vacant isDirectory _ inductionHypothesis =>
      have other : start ++ [segment] ≠ names := by
        rintro rfl
        rw [writable vacant] at isDirectory
        cases isDirectory
      refine .enter storable ?_ (isDirectory_put isDirectory names text) inductionHypothesis
      rw [find?_put, if_neg other, vacant]

/-- A path leads through a directory to a place for a file in it. -/
structure Reaches (files : Files) (path : Path) (before : List Text) (last : Text)
    (directory : List Text) : Prop where
  endsIn : path.EndsIn before last
  relative : path.isAbsolute = false
  short : Text.byteLength path.text ≤ pathLimit
  enters : Enters files [] before directory
  storable : IsStorable last

/-- A path that leads to a file reaches it in a directory. -/
theorem exists_reaches_of_locate {path : Path} {entry : FileEntry}
    (located : files.locate path = .ok (.file entry)) :
    ∃ before last directory, Reaches files path before last directory ∧
      files.find? (directory ++ [last]) = some entry := by
  rw [locate] at located
  split at located
  · cases located
  split at located
  · cases located
  rename_i short
  obtain ⟨before, last, segments⟩ : ∃ before last, path.segments = before ++ [last] :=
    ⟨_, _, (List.dropLast_concat_getLast (List.splitOn_ne_nil '/' path.text)).symm⟩
  rw [segments] at located
  obtain ⟨directory, finish, isStart, enters, storable, found⟩ :=
    exists_enters_of_follow located
  split at isStart
  · cases isStart
  · rename_i relative
    cases isStart
    exact ⟨before, last, finish, ⟨Path.endsIn_of_segments segments,
      Bool.eq_false_iff.mpr relative, Nat.not_lt.mp short, enters, storable⟩, found⟩

namespace Reaches

variable {path : Path} {before : List Text} {last : Text} {directory : List Text}

/-- Other segments can stand in place of the last one. -/
theorem locate_eq_follow (reaches : Reaches files path before last directory) {other : Path}
    {segment : Text} (endsIn : other.EndsIn before segment) (named : segment ≠ [])
    (noLonger : Text.byteLength segment ≤ Text.byteLength last) :
    files.locate other = files.follow (some directory) [segment] := by
  have notEmpty : other.text.isEmpty = false := by
    rw [endsIn.text]
    simp [named]
  have relative : other.isAbsolute = false := by
    rw [endsIn.isAbsolute_eq, ← reaches.endsIn.isAbsolute_eq, reaches.relative]
  have short : Text.byteLength other.text ≤ pathLimit := by
    have whole := reaches.short
    rw [reaches.endsIn.text, Text.byteLength_append] at whole
    rw [endsIn.text, Text.byteLength_append]
    omega
  rw [Files.locate, notEmpty, relative, endsIn.segments]
  simp only [Nat.not_lt.mpr short, Bool.false_eq_true, if_false]
  exact reaches.enters.follow_append [segment]

theorem locate (reaches : Reaches files path before last directory) :
    files.locate path = .ok (files.placeAt (directory ++ [last])) := by
  rw [reaches.locate_eq_follow reaches.endsIn reaches.storable.isName.ne_nil le_rfl,
    follow_last _ reaches.storable]

/-- Another name of the same length is reached in the same way. -/
theorem sibling (reaches : Reaches files path before last directory) {other : Path}
    {name : Text} (endsIn : other.EndsIn before name) (isName : Path.IsName name)
    (sameLength : Text.byteLength name = Text.byteLength last) :
    Reaches files other before name directory where
  endsIn := endsIn
  relative := by
    rw [endsIn.isAbsolute_eq, ← reaches.endsIn.isAbsolute_eq, reaches.relative]
  short := by
    rw [endsIn.text, Text.byteLength_append, sameLength, ← Text.byteLength_append,
      ← reaches.endsIn.text]
    exact reaches.short
  enters := reaches.enters
  storable := ⟨isName, sameLength ▸ reaches.storable.fits⟩

/-- The parent of the directory is a directory. -/
theorem locate_parent (reaches : Reaches files path before last directory) {other : Path}
    (endsIn : other.EndsIn before Path.parent)
    (noLonger : Text.byteLength Path.parent ≤ Text.byteLength last) :
    files.locate other = .ok .directory := by
  rw [reaches.locate_eq_follow endsIn (by decide) noLonger, follow_parent]
  rfl

theorem put (reaches : Reaches files path before last directory) {names : List Text}
    (writable : files.IsWritable names) (text : Text) :
    Reaches (files.put names text) path before last directory :=
  { reaches with enters := reaches.enters.put writable text }

theorem locate_of_find? (reaches : Reaches files path before last directory)
    {entry : FileEntry} (found : files.find? (directory ++ [last]) = some entry) :
    files.locate path = .ok (.file entry) := by
  rw [reaches.locate, placeAt, found]

/-- Where no directory is, a text is written. -/
theorem write (reaches : Reaches files path before last directory)
    (writable : files.IsWritable (directory ++ [last])) (text : Text) :
    files.write path text = .ok (files.put (directory ++ [last]) text) := by
  rw [Files.write, reaches.locate, placeAt]
  cases found : files.find? (directory ++ [last]) with
  | some entry =>
      change Except.ok (files.put entry.names text) = _
      rw [names_of_find? found]
  | none =>
      rw [writable found]
      rfl

end Reaches

/-- What is encoded is read again. -/
theorem decode_toUTF8 (text : Text) : decode (String.ofList text).toUTF8 = .ok text := by
  have decoded : String.fromUTF8? (String.ofList text).toUTF8 = some (String.ofList text) :=
    dif_pos (String.ofList text).isValidUTF8
  rw [decode, decoded]
  exact congrArg Except.ok String.toList_ofList

theorem read_of_locate {path : Path} {entry : FileEntry}
    (located : files.locate path = .ok (.file entry)) :
    files.read path = decode entry.content := by
  rw [read, located]

/-- What can be read is in a file. -/
theorem exists_locate_of_read {path : Path} {text : Text} (isRead : files.read path = .ok text) :
    ∃ entry, files.locate path = .ok (.file entry) ∧ decode entry.content = .ok text := by
  rw [read] at isRead
  split at isRead
  · rename_i entry located
    exact ⟨entry, located, isRead⟩
  all_goals cases isRead

end Files
end CommandLine
end AccumulatorMachine
