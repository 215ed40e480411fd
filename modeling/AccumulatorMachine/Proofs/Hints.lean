import AccumulatorMachine.Proofs.CompletedWords
import Mathlib.Data.String.Basic

/-!
# Hints

A hint shows what a single candidate would add to the word before the cursor.  It
skips as many bytes of the candidate as the word has, and as candidates begin with
the word, these bytes are the word.  So there is a hint exactly when there is one
candidate.  Candidates come in increasing order and none of them twice, because the
names that can follow a verb are distinct.
-/

namespace AccumulatorMachine
namespace Session

/-! ## The order of candidates -/

/-- The names that can follow a verb are distinct, and those that can follow its
topics in turn. -/
inductive Verb.HasDistinctNames : Verb → Prop
  | topics {verb : Verb} :
      ("help" :: verb.topics.map Verb.name).Nodup →
        (∀ topic ∈ verb.topics, topic.HasDistinctNames) →
        verb.HasDistinctNames

theorem Verb.hasDistinctNames_of_topics_eq_nil {verb : Verb} (none : verb.topics = []) :
    verb.HasDistinctNames := by
  constructor
  · rw [none]
    exact List.pairwise_singleton _ _
  · rw [none]
    exact List.forall_mem_nil _

theorem hasDistinctNames_language : language.HasDistinctNames := by
  refine .topics (by decide +kernel) fun verb member => ?_
  rcases topics_of_mem_language verb member with none | same
  · exact Verb.hasDistinctNames_of_topics_eq_nil none
  · refine .topics (by rw [same]; decide +kernel) ?_
    rw [same]
    exact List.forall_mem_singleton.mpr (Verb.hasDistinctNames_of_topics_eq_nil rfl)

theorem pairwise_mergeSort_of_nodup {names : List String} (distinct : names.Nodup) :
    names.mergeSort.Pairwise (· < ·) := by
  have transitive (first second third : String) (before : decide (first ≤ second) = true)
      (after : decide (second ≤ third) = true) : decide (first ≤ third) = true :=
    decide_eq_true (le_trans (of_decide_eq_true before) (of_decide_eq_true after))
  have total (first second : String) :
      (decide (first ≤ second) || decide (second ≤ first)) = true := by
    rw [Bool.or_eq_true, decide_eq_true_iff, decide_eq_true_iff]
    exact le_total first second
  have different : names.mergeSort.Pairwise (· ≠ ·) :=
    (List.mergeSort_perm names _).nodup_iff.mpr distinct
  exact (List.pairwise_mergeSort transitive total names).imp₂
    (fun _ _ before => lt_of_le_of_ne (of_decide_eq_true before)) different

theorem Verb.HasDistinctNames.pairwise_nextNames {verb : Verb}
    (distinct : verb.HasDistinctNames) :
    verb.nextNames.Pairwise (· < ·) := by
  obtain ⟨names, -⟩ := distinct
  apply pairwise_mergeSort_of_nodup
  split
  · exact List.nodup_nil
  · exact names

theorem Verb.HasDistinctNames.pairwise_suggest {verb : Verb} (distinct : verb.HasDistinctNames)
    (words : List Text) :
    (verb.suggest words).candidates.Pairwise (· < ·) := by
  fun_induction Verb.suggest verb words with
  | case1 verb => exact distinct.pairwise_nextNames
  | case2 verb word => exact distinct.pairwise_nextNames.filter _
  | case3 verb word next rest topic found inductionHypothesis =>
      obtain ⟨-, topics⟩ := distinct
      exact inductionHypothesis (topics topic (List.mem_of_find?_eq_some found))
  | case4 => exact .nil

/-! ## The word before the cursor -/

/-- The last word before the cursor, empty where there is none. -/
def wordBefore (line : Text) (cursor : Nat) : Text :=
  lastWord ((wordsBefore? line cursor).getD [])

section Cursor

variable {line : Text} {cursor : Nat} {words : List Text}

theorem wordBefore_eq (found : wordsBefore? line cursor = some words) :
    wordBefore line cursor = lastWord words := by
  rw [wordBefore, found, Option.getD_some]

theorem candidates_complete (found : wordsBefore? line cursor = some words) :
    (complete line cursor).candidates = (language.suggest words).candidates := by
  rw [complete, found]

/-- There are no words before a cursor inside a character, or in an open quote. -/
theorem wordsBefore?_eq_none_iff :
    wordsBefore? line cursor = none ↔
      (Text.takeBytes? cursor line).bind Text.shellWords? = none := by
  unfold wordsBefore?
  cases Text.takeBytes? cursor line with
  | none => exact Iff.rfl
  | some before =>
      cases split : Text.shellWords? before with
      | none => simp [split]
      | some words =>
          simp only [Option.bind_eq_bind, Option.bind_some, split]
          split <;> simp

/-- The word before the cursor has at most as many bytes as there are before it. -/
theorem byteLength_lastWord_le (found : wordsBefore? line cursor = some words) :
    Text.byteLength (lastWord words) ≤ cursor := by
  obtain ⟨before, split, taken, isSplit, sameWords⟩ := exists_split_of_wordsBefore? found
  obtain ⟨after, -, size⟩ := Text.takeBytes?_eq_some_iff.mp taken
  rw [← size]
  exact Text.byteLength_le_of_sublist (lastWord_sublist isSplit sameWords)

/-- Candidates begin with the word before the cursor, and they are inserted as many
bytes before it as the word has. -/
theorem of_mem_candidates {candidate : String}
    (offered : candidate ∈ (complete line cursor).candidates) :
    wordBefore line cursor <+: candidate.toList ∧
      (complete line cursor).start + Text.byteLength (wordBefore line cursor) = cursor := by
  obtain ⟨words, found, -, begins, start⟩ := exists_words_of_offered offered
  rw [wordBefore_eq found, start]
  exact ⟨begins, Nat.sub_add_cancel (byteLength_lastWord_le found)⟩

theorem mem_candidates_of_single {candidate : String}
    (single : (complete line cursor).candidates = [candidate]) :
    candidate ∈ (complete line cursor).candidates := by
  rw [single]
  exact List.mem_cons_self

theorem pairwise_candidates (line : Text) (cursor : Nat) :
    (complete line cursor).candidates.Pairwise (· < ·) := by
  unfold complete
  split
  · exact hasDistinctNames_language.pairwise_suggest _
  · exact .nil

/-! ## Hints and candidates -/

theorem exists_single_of_hint? {rest : Text} (hinted : hint? line cursor = some rest) :
    ∃ candidate, (complete line cursor).candidates = [candidate] := by
  obtain ⟨words, found, hinted⟩ := Option.bind_eq_some_iff.mp hinted
  simp only [] at hinted
  rw [candidates_complete found]
  split at hinted
  next candidate single => exact ⟨candidate, single⟩
  next => cases hinted

/-- Behind the word before the cursor the only candidate has the hint. -/
theorem hint?_of_single {candidate : String} {rest : Text}
    (single : (complete line cursor).candidates = [candidate])
    (whole : candidate.toList = wordBefore line cursor ++ rest) :
    hint? line cursor = some rest := by
  have offered := mem_candidates_of_single single
  obtain ⟨words, found, -⟩ := exists_words_of_offered offered
  rw [candidates_complete found] at single offered
  obtain ⟨-, word, -⟩ := hasNames_language.of_suggest offered
  rw [wordBefore_eq found] at whole
  have dropped : Text.dropBytes? (language.suggest words).size candidate.toList = some rest := by
    rw [Suggestion.size, word, Text.dropBytes?_eq_some_iff]
    exact ⟨lastWord words, whole, rfl⟩
  refine Option.bind_eq_some_iff.mpr ⟨words, found, ?_⟩
  simp only [single, dropped]

/-- The hint is what the only candidate has behind the word before the cursor. -/
theorem hint?_eq_some_iff {rest : Text} :
    hint? line cursor = some rest ↔
      ∃ candidate, (complete line cursor).candidates = [candidate] ∧
        candidate.toList = wordBefore line cursor ++ rest := by
  constructor
  · intro hinted
    obtain ⟨candidate, single⟩ := exists_single_of_hint? hinted
    obtain ⟨⟨added, whole⟩, -⟩ := of_mem_candidates (mem_candidates_of_single single)
    have same := (hint?_of_single single whole.symm).symm.trans hinted
    cases same
    exact ⟨candidate, single, whole.symm⟩
  · rintro ⟨candidate, single, whole⟩
    exact hint?_of_single single whole

end Cursor

/-- There is a hint exactly when there is a single candidate, which is then the word
before the cursor followed by the hint and is inserted where as many bytes as the word
has begin.  Where the text before the cursor ends inside a character or does not split
in words, there is neither a hint nor a candidate.  All candidates begin with the word
before the cursor, and they increase. -/
theorem hint_completes_single_candidate (line : Text) (cursor : Nat) :
    let completion := complete line cursor
    let word := wordBefore line cursor
    ((∃ rest, hint? line cursor = some rest) ↔
      ∃ candidate, completion.candidates = [candidate]) ∧
    (∀ rest candidate, hint? line cursor = some rest →
      completion.candidates = [candidate] →
      candidate.toList = word ++ rest ∧
        completion.start + Text.byteLength word = cursor) ∧
    ((Text.takeBytes? cursor line).bind Text.shellWords? = none →
      hint? line cursor = none ∧ completion.candidates = []) ∧
    (∀ candidate ∈ completion.candidates, word <+: candidate.toList) ∧
    completion.candidates.Pairwise (· < ·) := by
  intro completion word
  refine ⟨⟨?_, ?_⟩, ?_, ?_, fun candidate offered => (of_mem_candidates offered).1,
    pairwise_candidates line cursor⟩
  · rintro ⟨rest, hinted⟩
    exact exists_single_of_hint? hinted
  · rintro ⟨candidate, single⟩
    obtain ⟨⟨added, whole⟩, -⟩ := of_mem_candidates (mem_candidates_of_single single)
    exact ⟨added, hint?_of_single single whole.symm⟩
  · intro rest candidate hinted single
    obtain ⟨same, sameSingle, whole⟩ := hint?_eq_some_iff.mp hinted
    obtain rfl : candidate = same := List.singleton_inj.mp (single.symm.trans sameSingle)
    exact ⟨whole, (of_mem_candidates (mem_candidates_of_single single)).2⟩
  · intro wordless
    rw [← wordsBefore?_eq_none_iff] at wordless
    constructor
    · rw [hint?, wordless]
      rfl
    · change (complete line cursor).candidates = []
      rw [complete, wordless]

/-- In `info b` the topic `breakpoints` is the single candidate, and the hint is the rest
of its name. -/
theorem hint_completes_single_candidate_topic :
    let line := "info b".toList
    (complete line 6).candidates = ["breakpoints"] ∧ (complete line 6).start = 5 ∧
      hint? line 6 = some "reakpoints".toList := by
  intro line
  have names : (infoVerb.nextNames.filter fun name => ['b'].isPrefixOf name.toList).Perm
      ["breakpoints"] :=
    (List.mergeSort_perm ["help", "breakpoints"] _).filter _
  have single : (complete line 6).candidates = ["breakpoints"] := List.perm_singleton.mp names
  obtain ⟨exactly, completes, -⟩ := hint_completes_single_candidate line 6
  obtain ⟨rest, hinted⟩ := exactly.mpr ⟨"breakpoints", single⟩
  obtain ⟨whole, start⟩ := completes rest "breakpoints" hinted single
  have word : wordBefore line 6 = ['b'] := by decide
  have name : "breakpoints".toList = ['b'] ++ "reakpoints".toList := by decide
  rw [word] at whole start
  refine ⟨single, Nat.succ.inj start, ?_⟩
  rw [hinted, List.append_cancel_left (whole.symm.trans name)]

end Session
end AccumulatorMachine
