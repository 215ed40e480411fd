import AccumulatorMachine.Proofs.CharacterBoundaries
import AccumulatorMachine.Proofs.ShellReading
import AccumulatorMachine.Session.Completion

/-!
# Completed words

A candidate is inserted as many bytes before the cursor as the last word has.
The word is what the reader of command lines makes of the line, and its written
form may be longer, or may be followed by a comment.  Inserting a candidate gives
the words that are meant exactly when the last word is written as it is, right
before the cursor, where a word of its own begins; and the offset cuts a
character only if the character stands in a comment.
-/

namespace AccumulatorMachine
namespace Session

/-! ## Names -/

/-- A name is made of lower-case letters. -/
structure IsName (name : Text) : Prop where
  ne_nil : name ≠ []
  isLower : ∀ c ∈ name, c.isLower = true

theorem isName_iff (name : Text) : IsName name ↔ (!name.isEmpty && name.all Char.isLower) = true := by
  rw [Bool.and_eq_true, Bool.not_eq_true', List.isEmpty_eq_false_iff, List.all_eq_true]
  exact ⟨fun isName => ⟨isName.ne_nil, isName.isLower⟩, fun ⟨nonempty, lower⟩ => ⟨nonempty, lower⟩⟩

instance (name : Text) : Decidable (IsName name) :=
  decidable_of_iff _ (isName_iff name).symm

theorem utf8Size_of_isLower {c : Char} (lower : c.isLower = true) : c.utf8Size = 1 := by
  rw [Char.utf8Size_eq_one_iff]
  unfold Char.isLower at lower
  simp only [Bool.and_eq_true, decide_eq_true_eq] at lower
  exact UInt32.le_trans lower.2 (by decide)

/-- Names are plain text. -/
theorem IsName.isPlain {name : Text} (isName : IsName name) : Text.IsPlain name := by
  intro c member special
  have noneLower : Text.specials.all (fun special => !special.isLower) = true := by decide
  have notLower := List.all_eq_true.mp noneLower c special
  rw [isName.isLower c member] at notLower
  cases notLower

/-- The special characters take one byte each. -/
theorem utf8Size_of_mem_specials {c : Char} (special : c ∈ Text.specials) : c.utf8Size = 1 := by
  have allSmall : Text.specials.all (fun special => special.utf8Size == 1) = true := by decide
  exact beq_iff_eq.mp (List.all_eq_true.mp allSmall c special)

/-- The topics of a verb, and theirs in turn, go by names. -/
inductive Verb.HasNames : Verb → Prop
  | topics {verb : Verb} :
      (∀ topic ∈ verb.topics, IsName topic.name.toList) →
        (∀ topic ∈ verb.topics, topic.HasNames) →
        verb.HasNames

theorem Verb.hasNames_of_topics_eq_nil {verb : Verb} (none : verb.topics = []) :
    verb.HasNames := by
  constructor <;>
    rw [none] <;>
    exact List.forall_mem_nil _

/-- Of the verbs of the command language only `info` has topics. -/
theorem topics_of_mem_language :
    ∀ verb ∈ language.topics, verb.topics = [] ∨ verb.topics = infoVerb.topics := by
  unfold language
  simp [stepVerb, plainVerb, memoryVerb, setVerb, listVerb, addressVerb, infoVerb]

theorem hasNames_language : language.HasNames := by
  refine .topics (by decide +kernel) fun verb member => ?_
  rcases topics_of_mem_language verb member with none | same
  · exact Verb.hasNames_of_topics_eq_nil none
  · refine .topics (by rw [same]; decide +kernel) ?_
    rw [same]
    exact List.forall_mem_singleton.mpr (Verb.hasNames_of_topics_eq_nil rfl)

/-! ## Suggestions -/

/-- The last of some words, empty if there is none. -/
def lastWord (words : List Text) : Text :=
  words.getLastD []

@[simp] theorem lastWord_append_singleton (words : List Text) (word : Text) :
    lastWord (words ++ [word]) = word :=
  List.getLastD_concat

theorem dropLast_append_lastWord {words : List Text} (nonempty : words ≠ []) :
    words.dropLast ++ [lastWord words] = words := by
  obtain ⟨start, last, rfl⟩ := (List.eq_nil_or_concat' words).resolve_left nonempty
  rw [List.dropLast_concat, lastWord_append_singleton]

/-- The names that can follow a verb are those of its topics, and `help` if there
are any. -/
theorem Verb.mem_nextNames_iff (verb : Verb) (name : String) :
    name ∈ verb.nextNames ↔ verb.topics ≠ [] ∧ name ∈ "help" :: verb.topics.map Verb.name := by
  rw [nextNames, List.mem_mergeSort, List.isEmpty_map]
  cases verb.topics with
  | nil => exact iff_of_false List.not_mem_nil fun both => both.1 rfl
  | cons topic others => exact (and_iff_right (List.cons_ne_nil topic others)).symm

theorem Verb.HasNames.isName_of_mem_nextNames {verb : Verb} {candidate : String}
    (named : verb.HasNames) (offered : candidate ∈ verb.nextNames) :
    IsName candidate.toList := by
  obtain ⟨topics, -⟩ := named
  rcases List.mem_cons.mp ((verb.mem_nextNames_iff candidate).mp offered).2 with rfl | isTopic
  · decide
  · obtain ⟨topic, member, rfl⟩ := List.mem_map.mp isTopic
    exact topics topic member

/-- A candidate is a name that begins with the last word. -/
theorem Verb.HasNames.of_suggest {verb : Verb} {words : List Text} {candidate : String}
    (named : verb.HasNames) (offered : candidate ∈ (verb.suggest words).candidates) :
    IsName candidate.toList ∧ (verb.suggest words).word = lastWord words ∧
      lastWord words <+: candidate.toList := by
  fun_induction Verb.suggest verb words with
  | case1 verb => exact ⟨named.isName_of_mem_nextNames offered, rfl, List.nil_prefix⟩
  | case2 verb word =>
      obtain ⟨isNext, begins⟩ := List.mem_filter.mp offered
      exact ⟨named.isName_of_mem_nextNames isNext, rfl, List.isPrefixOf_iff_prefix.mp begins⟩
  | case3 verb word next rest topic found inductionHypothesis =>
      obtain ⟨-, topics⟩ := named
      exact inductionHypothesis (topics topic (List.mem_of_find?_eq_some found)) offered
  | case4 => cases offered

section Offered

variable {line before : Text} {cursor : Nat} {words : List Text} {candidate : String}

theorem exists_split_of_wordsBefore? (found : wordsBefore? line cursor = some words) :
    ∃ before split, Text.takeBytes? cursor line = some before ∧
      Text.shellWords? before = some split ∧ (words = split ∨ words = split ++ [[]]) := by
  obtain ⟨before, taken, found⟩ := Option.bind_eq_some_iff.mp found
  obtain ⟨split, isSplit, found⟩ := Option.bind_eq_some_iff.mp found
  refine ⟨before, split, taken, isSplit, ?_⟩
  split at found <;> cases found
  · exact Or.inr rfl
  · exact Or.inr rfl
  · exact Or.inl rfl

theorem exists_words_of_offered (offered : candidate ∈ (complete line cursor).candidates) :
    ∃ words, wordsBefore? line cursor = some words ∧ IsName candidate.toList ∧
      lastWord words <+: candidate.toList ∧
      (complete line cursor).start = cursor - Text.byteLength (lastWord words) := by
  unfold complete at offered ⊢
  cases found : wordsBefore? line cursor with
  | none =>
      rw [found] at offered
      cases offered
  | some words =>
      rw [found] at offered
      obtain ⟨isName, word, begins⟩ := hasNames_language.of_suggest offered
      refine ⟨words, rfl, isName, begins, ?_⟩
      rw [← word]
      rfl

end Offered

/-! ## Where candidates start -/

/-- A plain character outside of comments is in the last word of a line, or the
last word is made of what comes after it. -/
theorem mem_lastWord_or_sublist {kept rest : Text} {c : Char} {words : List Text}
    (split : Text.shellWords? (kept ++ c :: rest) = some words)
    (plain : c ∉ Text.specials) (notComment : ¬Text.EndsInComment kept) :
    c ∈ lastWord words ∨ (lastWord words).Sublist rest := by
  rw [Text.endsInComment_iff] at notComment
  rw [Text.ShellReader.shellWords?_eq, Text.ShellReader.readAll_append,
    Text.ShellReader.readAll_cons] at split
  obtain ⟨begun, noBackslash, inWord⟩ :=
    Text.ShellReader.read_holdsWord plain notComment
  obtain ⟨added, others, rfl⟩ := Text.ShellReader.exists_word_of_finish begun split
  rcases others.eq_nil_or_concat' with rfl | ⟨between, last, rfl⟩
  · left
    rw [lastWord_append_singleton]
    exact List.mem_append_left _ inWord
  · right
    have inRest := Text.ShellReader.flatten_sublist_of_later split
    rw [noBackslash, List.append_nil, List.flatten_cons, List.append_assoc,
      List.append_sublist_append_left, List.flatten_append, List.flatten_singleton] at inRest
    rw [← List.cons_append, ← List.append_assoc, lastWord_append_singleton]
    exact ((List.sublist_append_right _ _).trans (List.sublist_append_right _ _)).trans inRest

/-- A candidate is never inserted behind the cursor, and the offset that it is inserted
at lies on the boundary of a character, except when it cuts a character of a comment
behind the last word. -/
theorem start_cuts_only_comments {line before : Text} {cursor : Nat}
    (boundary : Text.takeBytes? cursor line = some before)
    (offered : (complete line cursor).candidates ≠ []) :
    (complete line cursor).start ≤ cursor ∧
    ((Text.takeBytes? (complete line cursor).start line).isSome = true ↔
      ¬∃ kept c rest, before = kept ++ c :: rest ∧ Text.EndsInComment kept ∧
        Text.CutsCharacter kept c (complete line cursor).start) := by
  obtain ⟨candidate, isCandidate⟩ := List.exists_mem_of_ne_nil _ offered
  obtain ⟨words, found, isName, begins, start⟩ := exists_words_of_offered isCandidate
  obtain ⟨_, split, taken, isSplit, sameWords⟩ := exists_split_of_wordsBefore? found
  cases boundary.symm.trans taken
  obtain ⟨after, rfl, size⟩ := Text.takeBytes?_eq_some_iff.mp boundary
  have atMost : (complete (before ++ after) cursor).start ≤ Text.byteLength before := by omega
  refine ⟨by omega, ?_⟩
  rw [Text.takeBytes?_append atMost, ← not_iff_not, not_not, Option.not_isSome_iff_eq_none,
    Text.takeBytes?_eq_none_iff atMost]
  refine ⟨fun ⟨kept, c, rest, whole, cuts⟩ => ⟨kept, c, rest, whole, ?_, cuts⟩,
    fun ⟨kept, c, rest, whole, _, cuts⟩ => ⟨kept, c, rest, whole, cuts⟩⟩
  by_contra notComment
  have above := cuts.above
  have below := cuts.below
  have plain : c ∉ Text.specials := fun special => by
    have small := utf8Size_of_mem_specials special
    omega
  rw [whole, Text.byteLength_append, Text.byteLength_cons] at size
  rcases sameWords with rfl | rfl
  · rw [whole] at isSplit
    -- The last word would hold a character that no name has, or it would be too short
    -- for the offset to fall into the character before it.
    rcases mem_lastWord_or_sublist isSplit plain notComment with inWord | inRest
    · have small := utf8Size_of_isLower (isName.isLower c (begins.subset inWord))
      omega
    · have short := Text.byteLength_le_of_sublist inRest
      omega
  · rw [lastWord_append_singleton, Text.byteLength_nil] at start
    omega

/-- In `info b # é` the word `b` is completed, but one byte before the cursor is the
middle of the last character. -/
theorem start_cuts_only_comments_accent :
    let line := "info b # ".toList ++ ['é']
    Text.takeBytes? 11 line = some line ∧ "breakpoints" ∈ (complete line 11).candidates ∧
      (complete line 11).start ≤ 11 ∧
      (Text.takeBytes? (complete line 11).start line).isSome = false := by
  intro line
  have boundary : Text.takeBytes? 11 line = some line := by decide
  have isNext : "breakpoints" ∈ infoVerb.nextNames :=
    (infoVerb.mem_nextNames_iff _).mpr (by decide)
  have offered : "breakpoints" ∈ (complete line 11).candidates :=
    List.mem_filter.mpr ⟨isNext, rfl⟩
  obtain ⟨atMost, cutsOnly⟩ := start_cuts_only_comments boundary (List.ne_nil_of_mem offered)
  refine ⟨boundary, offered, atMost, ?_⟩
  rw [Bool.eq_false_iff, ne_eq, cutsOnly, not_not]
  refine ⟨"info b # ".toList, 'é', [], rfl, ?_, by decide, by decide⟩
  exact ⟨"info b ".toList, " ".toList, rfl, rfl, by decide⟩

/-- Completing `s` in `s #é` would replace the text from the middle of a character on. -/
theorem completion_starts_inside_character :
    let line := ['s', ' ', '#', 'é']
    Text.takeBytes? 5 line = some line ∧ "set" ∈ (complete line 5).candidates ∧
      (complete line 5).start = 4 ∧ Text.takeBytes? 4 line = none := by
  intro line
  have isNext : "set" ∈ language.nextNames := (language.mem_nextNames_iff _).mpr (by decide)
  exact ⟨by decide, List.mem_filter.mpr ⟨isNext, rfl⟩, rfl, by decide⟩

/-! ## What the completed line reads as -/

section Replaced

variable {kept rest : Text} {words split : List Text}

theorem lastWord_sublist {line : Text} (isSplit : Text.shellWords? line = some split)
    (sameWords : words = split ∨ words = split ++ [[]]) :
    (lastWord words).Sublist line := by
  rcases sameWords with rfl | rfl
  · rcases words.eq_nil_or_concat' with rfl | ⟨start, last, rfl⟩
    · exact List.nil_sublist line
    · rw [lastWord_append_singleton]
      rw [Text.ShellReader.shellWords?_eq] at isSplit
      have inLine := Text.ShellReader.flatten_sublist_of_later isSplit
      exact (List.sublist_flatten_of_mem List.mem_concat_self).trans inLine
  · rw [lastWord_append_singleton]
    exact List.nil_sublist line

/-- What has as many bytes as the last word and reads as it is the last word itself. -/
theorem eq_lastWord_of_awaitsWord (awaits : Text.AwaitsWord kept words.dropLast)
    (isSplit : Text.shellWords? (kept ++ rest) = some split)
    (sameWords : words = split ∨ words = split ++ [[]])
    (size : Text.byteLength rest = Text.byteLength (lastWord words))
    (noBackslash : '\\' ∉ lastWord words) :
    rest = lastWord words := by
  have ofNothing (nothing : lastWord words = []) : rest = lastWord words := by
    rw [nothing] at size ⊢
    exact Text.byteLength_eq_zero_iff.mp size
  rcases sameWords with rfl | rfl
  · by_cases nonempty : words = []
    · exact ofNothing (by rw [nonempty]; rfl)
    · rw [← dropLast_append_lastWord nonempty, Text.ShellReader.shellWords?_eq,
        Text.ShellReader.readAll_append, ← awaits.words_eq] at isSplit
      have inRest := Text.ShellReader.flatten_sublist_of_later isSplit
      rw [awaits.word_eq, List.nil_append, List.flatten_singleton] at inRest
      -- A backslash that was read before would have to be the first character.
      have plainly : (lastWord words).Sublist rest := by
        rcases Text.ShellMode.backslash_eq (Text.ShellReader.start.readAll kept).mode with
          none | one
        · rwa [none] at inRest
        · rw [one, List.singleton_append, List.sublist_cons_iff] at inRest
          rcases inRest with plainly | ⟨others, begins, -⟩
          · exact plainly
          · exact absurd (begins ▸ List.mem_cons_self) noBackslash
      exact (Text.eq_of_sublist_of_byteLength_le plainly size.le).symm
  · exact ofNothing (lastWord_append_singleton split [])

/-- Behind an open comment nothing as short as the last word can complete a word. -/
theorem eq_known_of_endsInComment {known : List Text} (comment : Text.EndsInComment kept)
    (before : Text.shellWords? kept = some known)
    (isSplit : Text.shellWords? (kept ++ rest) = some words)
    (size : Text.byteLength rest = Text.byteLength (lastWord words))
    (nonempty : lastWord words ≠ []) :
    known = words := by
  obtain ⟨later, rfl, inRest⟩ := Text.exists_later_of_endsInComment comment before isSplit
  rcases later.eq_nil_or_concat' with rfl | ⟨between, last, rfl⟩
  · exact (List.append_nil known).symm
  · rw [← List.append_assoc, lastWord_append_singleton] at size nonempty
    cases rest with
    | nil => exact absurd (Text.byteLength_eq_zero_iff.mp size.symm) nonempty
    | cons c rest =>
        have short := Text.byteLength_le_of_sublist
          ((List.sublist_flatten_of_mem List.mem_concat_self).trans inRest)
        have positive := c.utf8Size_pos
        rw [List.tail_cons] at short
        rw [Text.byteLength_cons] at size
        omega

/-- In a comment the words are not changed, so a name is the last of them only if it
was that before. -/
theorem shellWords?_comment_eq_iff {name : Text} (comment : Text.EndsInComment kept)
    (isSplit : Text.shellWords? (kept ++ rest) = some split)
    (sameWords : words = split ∨ words = split ++ [[]])
    (size : Text.byteLength rest = Text.byteLength (lastWord words))
    (nonempty : name ≠ []) :
    Text.shellWords? kept = some (words.dropLast ++ [name]) ↔ name = lastWord words := by
  constructor
  · intro known
    -- The words before the comment are as many as all words, so they are all.
    obtain ⟨later, whole, -⟩ := Text.exists_later_of_endsInComment comment known isSplit
    have all : words.dropLast ++ [name] <+: words := by
      rcases sameWords with same | pushed
      · exact ⟨later, by rw [← whole, same]⟩
      · exact ⟨later ++ [[]], by rw [← List.append_assoc, ← whole, pushed]⟩
    have some : words ≠ [] := fun none =>
      List.append_ne_nil_of_right_ne_nil _ (List.cons_ne_nil _ _)
        (List.prefix_nil.mp (none ▸ all))
    have length : (words.dropLast ++ [name]).length = words.length := by
      rw [← congrArg List.length (dropLast_append_lastWord some), List.length_append,
        List.length_append]
      rfl
    rw [← lastWord_append_singleton words.dropLast name, all.eq_of_length length]
  · rintro rfl
    have same : words = split := by
      rcases sameWords with same | pushed
      · exact same
      · exact absurd (by rw [pushed, lastWord_append_singleton]) nonempty
    have some : words ≠ [] := by
      rintro rfl
      exact nonempty rfl
    obtain ⟨known, before⟩ := Text.exists_known_of_endsInComment comment
    rw [← same] at isSplit
    rw [before, eq_known_of_endsInComment comment before isSplit size nonempty,
      dropLast_append_lastWord some]

/-- A name in the place of as many bytes as the last word has. -/
theorem shellWords?_replaced_eq_iff {name : Text}
    (isSplit : Text.shellWords? (kept ++ rest) = some split)
    (sameWords : words = split ∨ words = split ++ [[]])
    (size : Text.byteLength rest = Text.byteLength (lastWord words))
    (isName : IsName name) (begins : lastWord words <+: name) :
    Text.shellWords? (kept ++ name) = some (words.dropLast ++ [name]) ↔
      rest = lastWord words ∧ Text.AwaitsWord kept words.dropLast ∨
        name = lastWord words ∧ Text.EndsInComment kept := by
  have noBackslash : '\\' ∉ lastWord words := fun member =>
    isName.isPlain '\\' (begins.subset member) (by decide)
  rw [Text.shellWords?_append_eq_iff isName.ne_nil isName.isPlain]
  apply or_congr
  · exact ⟨fun awaits =>
      ⟨eq_lastWord_of_awaitsWord awaits isSplit sameWords size noBackslash, awaits⟩, And.right⟩
  · rw [and_comm]
    exact and_congr_left fun comment =>
      shellWords?_comment_eq_iff comment isSplit sameWords size isName.ne_nil

end Replaced

/-- A candidate replaces as many bytes before the cursor as the last word has.  The
line that results says the words before the last one and then the candidate, exactly
when what is replaced is the last word as it is, at a place where a word of its own
begins; or when it stands in a comment and the candidate is the last word itself, so
that nothing is changed by it. -/
theorem completed_line_reads_as_meant_iff {line before : Text} {cursor : Nat}
    {words : List Text} {candidate : String}
    (boundary : Text.takeBytes? cursor line = some before)
    (found : wordsBefore? line cursor = some words)
    (offered : candidate ∈ (complete line cursor).candidates) :
    (∃ kept, Text.takeBytes? (complete line cursor).start line = some kept ∧
      Text.shellWords? (kept ++ candidate.toList) =
        some (words.dropLast ++ [candidate.toList])) ↔
    ∃ kept rest, before = kept ++ rest ∧
      Text.byteLength rest = Text.byteLength (lastWord words) ∧
      (rest = lastWord words ∧ Text.AwaitsWord kept words.dropLast ∨
        candidate.toList = lastWord words ∧ Text.EndsInComment kept) := by
  obtain ⟨_, sameFound, isName, begins, start⟩ := exists_words_of_offered offered
  cases found.symm.trans sameFound
  obtain ⟨_, split, taken, isSplit, sameWords⟩ := exists_split_of_wordsBefore? found
  cases boundary.symm.trans taken
  obtain ⟨after, rfl, size⟩ := Text.takeBytes?_eq_some_iff.mp boundary
  have short := Text.byteLength_le_of_sublist (lastWord_sublist isSplit sameWords)
  rw [Text.takeBytes?_append (by omega)]
  constructor
  · rintro ⟨kept, taken, completed⟩
    obtain ⟨rest, rfl, sizeKept⟩ := Text.takeBytes?_eq_some_iff.mp taken
    rw [Text.byteLength_append] at size short
    have sizeRest : Text.byteLength rest = Text.byteLength (lastWord words) := by omega
    exact ⟨kept, rest, rfl, sizeRest,
      (shellWords?_replaced_eq_iff isSplit sameWords sizeRest isName begins).mp completed⟩
  · rintro ⟨kept, rest, rfl, sizeRest, plainly⟩
    rw [Text.byteLength_append] at size short
    exact ⟨kept, Text.takeBytes?_eq_some_iff.mpr ⟨rest, rfl, by omega⟩,
      (shellWords?_replaced_eq_iff isSplit sameWords sizeRest isName begins).mpr plainly⟩

/-- The line `info br` is completed to `info breakpoints`. -/
theorem completed_line_reads_as_meant_iff_topic :
    let line := "info br".toList
    Text.takeBytes? 7 line = some line ∧
    wordsBefore? line 7 = some ["info".toList, "br".toList] ∧
    "breakpoints" ∈ (complete line 7).candidates ∧
    ∃ kept, Text.takeBytes? (complete line 7).start line = some kept ∧
      Text.shellWords? (kept ++ "breakpoints".toList) =
        some ["info".toList, "breakpoints".toList] := by
  intro line
  have boundary : Text.takeBytes? 7 line = some line := by decide
  have found : wordsBefore? line 7 = some ["info".toList, "br".toList] := by decide
  have isNext : "breakpoints" ∈ infoVerb.nextNames :=
    (infoVerb.mem_nextNames_iff _).mpr (by decide)
  have offered : "breakpoints" ∈ (complete line 7).candidates :=
    List.mem_filter.mpr ⟨isNext, rfl⟩
  refine ⟨boundary, found, offered,
    (completed_line_reads_as_meant_iff boundary found offered).mpr ?_⟩
  exact ⟨"info ".toList, "br".toList, rfl, rfl, Or.inl ⟨rfl, rfl, rfl, rfl⟩⟩

/-- Completing the quoted word `"s"` leaves its quote open, so that the line has no
words at all. -/
theorem quoted_word_is_completed_in_quotes :
    let line := ['"', 's', '"']
    Text.takeBytes? 3 line = some line ∧ wordsBefore? line 3 = some [['s']] ∧
      "set" ∈ (complete line 3).candidates ∧ (complete line 3).start = 2 ∧
      Text.takeBytes? 2 line = some ['"', 's'] ∧
      Text.shellWords? (['"', 's'] ++ "set".toList) = none := by
  intro line
  have isNext : "set" ∈ language.nextNames := (language.mem_nextNames_iff _).mpr (by decide)
  exact ⟨by decide, by decide, List.mem_filter.mpr ⟨isNext, rfl⟩, rfl, by decide, by decide⟩

end Session
end AccumulatorMachine
