import AccumulatorMachine.CommandLine.Path
import Mathlib.Data.List.TakeWhile

/-!
# Paths of files

A path whose last segment names a file is what leads to the file, followed by
the name.  Another extension replaces the end of the name and nothing before it.
The one exception is a name that starts with two dots, the second of which starts
the extension: without its extension it leads to the parent directory.
-/

namespace AccumulatorMachine
namespace CommandLine
namespace Path

/-! ## Segments -/

/-- No segment has a slash. -/
theorem slash_notMem_of_mem_splitOn {text piece : Text} (member : piece ∈ text.splitOn '/') :
    '/' ∉ piece := by
  induction text generalizing piece with
  | nil =>
      rw [List.splitOn_nil, List.mem_singleton] at member
      rw [member]
      exact List.not_mem_nil
  | cons character rest inductionHypothesis =>
      rw [List.splitOn_cons_eq_if_modifyHead] at member
      split at member
      · rcases List.mem_cons.mp member with rfl | inRest
        · exact List.not_mem_nil
        · exact inductionHypothesis inRest
      · rename_i isOther
        obtain ⟨first, others, split⟩ :=
          List.exists_cons_of_ne_nil (List.splitOn_ne_nil '/' rest)
        rw [split] at member inductionHypothesis
        rcases List.mem_cons.mp member with rfl | inOthers
        · rw [List.mem_cons, not_or]
          exact ⟨fun same => isOther (by rw [← same]; rfl),
            inductionHypothesis List.mem_cons_self⟩
        · exact inductionHypothesis (List.mem_cons_of_mem first inOthers)

/-- The text before the last segment. -/
def lead (before : List Text) : Text :=
  before.flatMap (· ++ ['/'])

theorem intercalate_append_singleton (before : List Text) (last : Text) :
    List.intercalate ['/'] (before ++ [last]) = lead before ++ last := by
  induction before with
  | nil => exact List.intercalate_singleton
  | cons first rest inductionHypothesis =>
      rw [List.cons_append, List.intercalate_cons_of_ne_nil (by simp),
        inductionHypothesis]
      simp [lead]

/-- A path ends in a segment behind others. -/
structure EndsIn (path : Path) (before : List Text) (last : Text) : Prop where
  segments : path.segments = before ++ [last]
  text : path.text = lead before ++ last
  noSlash : '/' ∉ last

theorem endsIn_of_segments {path : Path} {before : List Text} {last : Text}
    (segments : path.segments = before ++ [last]) : path.EndsIn before last where
  segments := segments
  text := by
    rw [← intercalate_append_singleton, ← segments]
    exact (List.intercalate_splitOn '/').symm
  noSlash := by
    have member : last ∈ path.segments := by
      rw [segments]
      exact List.mem_append_right _ List.mem_cons_self
    exact slash_notMem_of_mem_splitOn member

/-- The last segment can be replaced. -/
theorem EndsIn.replace {path : Path} {before : List Text} {last other : Text}
    (endsIn : path.EndsIn before last) (noSlash : '/' ∉ other) :
    EndsIn ⟨lead before ++ other⟩ before other where
  segments := by
    have pieces : ∀ piece ∈ before ++ [other], '/' ∉ piece := by
      rw [List.forall_mem_append, List.forall_mem_singleton]
      refine ⟨fun piece member => ?_, noSlash⟩
      have inPath : piece ∈ path.segments := by
        rw [endsIn.segments]
        exact List.mem_append_left _ member
      exact slash_notMem_of_mem_splitOn inPath
    change (lead before ++ other).splitOn '/' = before ++ [other]
    rw [← intercalate_append_singleton]
    exact List.splitOn_intercalate '/' pieces (by simp)
  text := rfl
  noSlash := noSlash

/-- The start of a path decides whether it starts at the root. -/
theorem EndsIn.isAbsolute_eq {path : Path} {before : List Text} {last : Text}
    (endsIn : path.EndsIn before last) :
    path.isAbsolute = ((lead before).head? == some '/') := by
  rw [isAbsolute, endsIn.text]
  cases lead before with
  | cons first rest => rfl
  | nil =>
      rw [List.nil_append]
      cases last with
      | nil => rfl
      | cons first rest =>
          have notSlash : first ≠ '/' := fun same => endsIn.noSlash (by simp [same])
          simp [notSlash]

/-! ## Names -/

theorem ne_dot_of_mem_reverse {name : Text} (noDot : '.' ∉ name) :
    ∀ character ∈ name.reverse, (character != '.') = true := by
  intro character member
  rw [bne_iff_ne]
  rintro rfl
  exact noDot (List.mem_reverse.mp member)

/-- A name with a character before the last dot splits at that dot. -/
theorem splitName_dot {stem extension : Text} (named : stem ≠ [])
    (noDot : '.' ∉ extension) :
    splitName (stem ++ '.' :: extension) = (stem, some extension) := by
  have others := ne_dot_of_mem_reverse noDot
  have backwards : (stem ++ '.' :: extension).reverse =
      extension.reverse ++ '.' :: stem.reverse := by simp
  have cut : (stem ++ ['.']).dropLast = stem := List.dropLast_concat
  rw [splitName, backwards, List.takeWhile_append_of_pos others,
    List.dropWhile_append_of_pos others, List.takeWhile_cons_of_neg (by decide),
    List.dropWhile_cons_of_neg (by decide), List.append_nil, List.reverse_reverse,
    List.reverse_cons, List.reverse_reverse, cut]
  cases stem with
  | nil => exact absurd rfl named
  | cons _ _ => rfl

theorem splitName_of_noDot {name : Text} (noDot : '.' ∉ name) :
    splitName name = (name, none) := by
  have others := ne_dot_of_mem_reverse noDot
  rw [splitName, List.dropWhile_eq_nil_iff.mpr others]
  rfl

/-- A dot at the start of a name is no mark of an extension. -/
theorem splitName_hidden {name : Text} (noDot : '.' ∉ name) :
    splitName ('.' :: name) = ('.' :: name, none) := by
  have others := ne_dot_of_mem_reverse noDot
  rw [splitName, List.reverse_cons, List.dropWhile_append_of_pos others]
  rfl

/-- What has an extension has something before the dot. -/
theorem exists_stem_of_splitName {name extension : Text}
    (split : (splitName name).2 = some extension) :
    ∃ stem, stem ≠ [] ∧ name = stem ++ '.' :: extension ∧ '.' ∉ extension := by
  by_cases dotted : '.' ∈ name
  · obtain ⟨after, before, backwards, noDot⟩ :=
      List.eq_append_cons_of_mem (List.mem_reverse.mpr dotted)
    have forwards : name = before.reverse ++ '.' :: after.reverse := by
      rw [← List.reverse_reverse name, backwards]
      simp
    have noDotAfter : '.' ∉ after.reverse := fun member => noDot (List.mem_reverse.mp member)
    rw [forwards] at split ⊢
    cases stem : before.reverse with
    | nil =>
        rw [stem, List.nil_append, splitName_hidden noDotAfter] at split
        cases split
    | cons first rest =>
        rw [splitName_dot (by rw [stem]; simp) noDotAfter] at split
        cases split
        exact ⟨first :: rest, by simp, rfl, noDotAfter⟩
  · rw [splitName_of_noDot dotted] at split
    cases split

/-! ## Extensions -/

/-- A segment that can be the name of a file. -/
structure IsName (segment : Text) : Prop where
  notIdle : isIdle segment = false
  notParent : segment ≠ parent

theorem IsName.ne_nil {segment : Text} (isName : IsName segment) : segment ≠ [] := by
  rintro rfl
  exact absurd isName.notIdle (by decide)

/-- Of the names with an extension only one leads to the parent directory. -/
theorem isName_dotted {stem extension : Text} (named : stem ≠ [])
    (notDots : stem = ['.'] → extension ≠ []) : IsName (stem ++ '.' :: extension) := by
  obtain ⟨first, rest, rfl⟩ := List.exists_cons_of_ne_nil named
  cases rest with
  | nil =>
      refine ⟨by simp [isIdle], fun same => ?_⟩
      rw [parent, List.singleton_append, List.cons.injEq, List.cons.injEq] at same
      exact notDots (by rw [same.1]) same.2.2
  | cons _ _ => exact ⟨by simp [isIdle], by simp [parent]⟩

namespace EndsIn

variable {path : Path} {before : List Text} {last stem extension : Text}

theorem names_getLast? (endsIn : path.EndsIn before last) (notIdle : isIdle last = false) :
    path.names.getLast? = some last := by
  have kept : [last].filter (fun segment => !isIdle segment) = [last] := by simp [notIdle]
  rw [Path.names, endsIn.segments, List.filter_append, kept]
  exact List.getLast?_concat

theorem fileName?_eq (endsIn : path.EndsIn before last) (isName : IsName last) :
    path.fileName? = some last := by
  rw [fileName?, endsIn.names_getLast? isName.notIdle, Option.filter_some_pos]
  simpa using isName.notParent

theorem fileName?_parent (endsIn : path.EndsIn before parent) : path.fileName? = none := by
  rw [fileName?, endsIn.names_getLast? (by decide), Option.filter_some_neg]
  decide

theorem extension?_eq (endsIn : path.EndsIn before (stem ++ '.' :: extension))
    (named : stem ≠ []) (notDots : stem = ['.'] → extension ≠ [])
    (noDot : '.' ∉ extension) : path.extension? = some extension := by
  rw [extension?, endsIn.fileName?_eq (isName_dotted named notDots), Option.bind_some,
    splitName_dot named noDot]

theorem noSlash_stem (endsIn : path.EndsIn before (stem ++ '.' :: extension)) :
    '/' ∉ stem := fun member => endsIn.noSlash (List.mem_append_left _ member)

/-- Without its extension a name still ends in the dot. -/
theorem withoutExtension (endsIn : path.EndsIn before (stem ++ '.' :: extension))
    (named : stem ≠ []) (notDots : stem = ['.'] → extension ≠ [])
    (noDot : '.' ∉ extension) : path.withoutExtension.EndsIn before (stem ++ ['.']) := by
  have whole : path.text = lead before ++ (stem ++ ['.']) ++ extension := by
    rw [endsIn.text]
    simp
  have length : path.text.length - extension.length =
      (lead before ++ (stem ++ ['.'])).length := by
    rw [whole, List.length_append, Nat.add_sub_cancel]
  have cut : path.withoutExtension = ⟨lead before ++ (stem ++ ['.'])⟩ := by
    rw [Path.withoutExtension, endsIn.extension?_eq named notDots noDot]
    simp only [length]
    rw [whole, List.take_left]
  rw [cut]
  apply endsIn.replace
  simpa using endsIn.noSlash_stem

/-- An extension goes behind the stem of a name. -/
theorem extend (endsIn : path.EndsIn before (stem ++ ['.'])) (named : stem ≠ [])
    (notDots : stem ≠ ['.']) {other : Text} (noSlash : '/' ∉ other) :
    (path.extend other).EndsIn before (stem ++ '.' :: other) := by
  have isName : IsName (stem ++ ['.']) :=
    isName_dotted named fun dots => absurd dots notDots
  have front : (path.segments.reverse.dropWhile isIdle).reverse.dropLast = before := by
    rw [endsIn.segments, List.reverse_concat,
      List.dropWhile_cons_of_neg (by rw [isName.notIdle]; decide), List.reverse_cons,
      List.reverse_reverse]
    exact List.dropLast_concat
  have extended : path.extend other = ⟨lead before ++ (stem ++ '.' :: other)⟩ := by
    rw [Path.extend, endsIn.fileName?_eq isName]
    simp only [front, splitName_dot named List.not_mem_nil, intercalate_append_singleton]
  rw [extended]
  apply endsIn.replace
  simpa [noSlash] using endsIn.noSlash_stem

/-- Another extension takes the place of the one that a path has. -/
theorem withExtension (endsIn : path.EndsIn before (stem ++ '.' :: extension))
    (named : stem ≠ []) (notDots : stem ≠ ['.']) (noDot : '.' ∉ extension) {other : Text}
    (noSlash : '/' ∉ other) :
    (path.withExtension other).EndsIn before (stem ++ '.' :: other) :=
  (endsIn.withoutExtension named (fun dots => absurd dots notDots) noDot).extend named
    notDots noSlash

/-- Two dots without an extension lead to the parent directory and take no other
extension. -/
theorem withExtension_dots (endsIn : path.EndsIn before (['.'] ++ '.' :: extension))
    (extended : extension ≠ []) (noDot : '.' ∉ extension) (other : Text) :
    (path.withExtension other).EndsIn before parent := by
  have bare : path.withoutExtension.EndsIn before parent :=
    endsIn.withoutExtension (by decide) (fun _ => extended) noDot
  rw [Path.withExtension, Path.extend, bare.fileName?_parent]
  exact bare

end EndsIn
end Path
end CommandLine
end AccumulatorMachine
