import AccumulatorMachine.Text.ShellWords
import Mathlib.Data.List.Infix
import Mathlib.Data.List.Flatten

/-!
# Reading a command line

The words of a command line come from reading it character by character, so the
reader has a state after any part of a line: the words it has completed, the word
it is at, and how the next character is to be taken.  What was read stays, and
all characters of the words are characters of the line, in their order.
-/

namespace AccumulatorMachine
namespace Text

namespace ShellMode

/-- Whether a word has begun and is not complete. -/
def holdsWord : ShellMode → Bool
  | .inWord | .inWordAfterBackslash | .inSingleQuotes | .inDoubleQuotes
  | .inDoubleQuotesAfterBackslash => true
  | .between | .afterBackslash | .inComment => false

/-- Whether a character that is not special begins a word or goes on with one,
outside of quotes. -/
def takesWord : ShellMode → Bool
  | .between | .afterBackslash | .inWord | .inWordAfterBackslash => true
  | .inSingleQuotes | .inDoubleQuotes | .inDoubleQuotesAfterBackslash | .inComment => false

/-- Whether a quote is open. -/
def isQuoted : ShellMode → Bool
  | .inSingleQuotes | .inDoubleQuotes | .inDoubleQuotesAfterBackslash => true
  | .between | .afterBackslash | .inWord | .inWordAfterBackslash | .inComment => false

/-- Where a word can neither begin nor go on, a comment or a quote is open. -/
theorem eq_inComment_or_isQuoted {mode : ShellMode} (takes : mode.takesWord = false) :
    mode = .inComment ∨ mode.isQuoted = true := by
  cases mode with
  | between | afterBackslash | inWord | inWordAfterBackslash => cases takes
  | inSingleQuotes | inDoubleQuotes | inDoubleQuotesAfterBackslash => exact Or.inr rfl
  | inComment => exact Or.inl rfl

/-- The backslash that was read last, which belongs to a word if nothing follows. -/
def backslash : ShellMode → Text
  | .afterBackslash | .inWordAfterBackslash | .inDoubleQuotesAfterBackslash => ['\\']
  | .between | .inWord | .inSingleQuotes | .inDoubleQuotes | .inComment => []

theorem backslash_eq (mode : ShellMode) : mode.backslash = [] ∨ mode.backslash = ['\\'] := by
  cases mode with
  | afterBackslash | inWordAfterBackslash | inDoubleQuotesAfterBackslash => exact Or.inr rfl
  | between | inWord | inSingleQuotes | inDoubleQuotes | inComment => exact Or.inl rfl

end ShellMode

/-- The state of reading a command line. -/
structure ShellReader where
  /-- The words that are complete. -/
  words : List Text
  mode : ShellMode
  /-- The word that is being read. -/
  word : Text
  deriving DecidableEq, Repr

namespace ShellReader

/-- Nothing read yet. -/
def start : ShellReader :=
  ⟨[], .between, []⟩

/-- Go on in another way, without keeping anything. -/
def enter (reader : ShellReader) (mode : ShellMode) : ShellReader :=
  { reader with mode }

@[simp] theorem mode_enter (reader : ShellReader) (mode : ShellMode) :
    (reader.enter mode).mode = mode := rfl

@[simp] theorem word_enter (reader : ShellReader) (mode : ShellMode) :
    (reader.enter mode).word = reader.word := rfl

/-- Keep characters for the word that is being read. -/
def keep (reader : ShellReader) (mode : ShellMode) (added : Text) : ShellReader :=
  { reader with mode, word := reader.word ++ added }

@[simp] theorem mode_keep (reader : ShellReader) (mode : ShellMode) (added : Text) :
    (reader.keep mode added).mode = mode := rfl

/-- Complete the word that is being read. -/
def close (reader : ShellReader) : ShellReader :=
  ⟨reader.words ++ [reader.word], .between, []⟩

@[simp] theorem mode_close (reader : ShellReader) : reader.close.mode = .between := rfl

/-- Read one character. -/
def read (reader : ShellReader) (c : Char) : ShellReader :=
  match reader.mode with
  | .between =>
      if c = '\'' then reader.enter .inSingleQuotes
      else if c = '"' then reader.enter .inDoubleQuotes
      else if c = '\\' then reader.enter .afterBackslash
      else if isSeparator c then reader.enter .between
      else if c = '#' then reader.enter .inComment
      else reader.keep .inWord [c]
  | .afterBackslash =>
      if c = '\n' then reader.enter .between else reader.keep .inWord [c]
  | .inWord =>
      if c = '\'' then reader.enter .inSingleQuotes
      else if c = '"' then reader.enter .inDoubleQuotes
      else if c = '\\' then reader.enter .inWordAfterBackslash
      else if isSeparator c then reader.close
      else reader.keep .inWord [c]
  | .inWordAfterBackslash =>
      if c = '\n' then reader.enter .inWord else reader.keep .inWord [c]
  | .inSingleQuotes =>
      if c = '\'' then reader.enter .inWord else reader.keep .inSingleQuotes [c]
  | .inDoubleQuotes =>
      if c = '"' then reader.enter .inWord
      else if c = '\\' then reader.enter .inDoubleQuotesAfterBackslash
      else reader.keep .inDoubleQuotes [c]
  | .inDoubleQuotesAfterBackslash =>
      if c = '\n' then reader.enter .inDoubleQuotes
      else if isEscapable c then reader.keep .inDoubleQuotes [c]
      else reader.keep .inDoubleQuotes ['\\', c]
  | .inComment =>
      if c = '\n' then reader.enter .between else reader.enter .inComment

/-- Read a text. -/
def readAll (reader : ShellReader) (text : Text) : ShellReader :=
  text.foldl read reader

/-- The words at the end of a line, unless a quote is open. -/
def finish (reader : ShellReader) : Option (List Text) :=
  match reader.mode with
  | .between | .inComment => some reader.words
  | .inWord | .afterBackslash | .inWordAfterBackslash =>
      some (reader.words ++ [reader.word ++ reader.mode.backslash])
  | .inSingleQuotes | .inDoubleQuotes | .inDoubleQuotesAfterBackslash => none

@[simp] theorem readAll_nil (reader : ShellReader) : reader.readAll [] = reader := rfl

@[simp] theorem readAll_cons (reader : ShellReader) (c : Char) (rest : Text) :
    reader.readAll (c :: rest) = (reader.read c).readAll rest := rfl

theorem readAll_append (reader : ShellReader) (first second : Text) :
    reader.readAll (first ++ second) = (reader.readAll first).readAll second :=
  List.foldl_append

/-! ## The words of a line -/

theorem finish_eq (reader : ShellReader) :
    reader.finish =
      (shellWordsFrom reader.mode reader.word.reverse []).map (reader.words ++ ·) := by
  rcases reader with ⟨words, mode, word⟩
  cases mode <;> simp [finish, shellWordsFrom, ShellMode.backslash]

theorem shellWordsFrom_cons (reader : ShellReader) (c : Char) (rest : Text) :
    (shellWordsFrom reader.mode reader.word.reverse (c :: rest)).map (reader.words ++ ·) =
      (shellWordsFrom (reader.read c).mode (reader.read c).word.reverse rest).map
        ((reader.read c).words ++ ·) := by
  rcases reader with ⟨words, mode, word⟩
  cases mode <;>
    simp only [shellWordsFrom, read, enter, keep, close] <;>
    split_ifs <;>
    simp [Function.comp_def]

/-- The words of a line are those at the end of reading it. -/
theorem finish_readAll (reader : ShellReader) (text : Text) :
    (reader.readAll text).finish =
      (shellWordsFrom reader.mode reader.word.reverse text).map (reader.words ++ ·) := by
  induction text generalizing reader with
  | nil => exact reader.finish_eq
  | cons c rest inductionHypothesis =>
      rw [readAll_cons, inductionHypothesis, shellWordsFrom_cons]

theorem shellWords?_eq (text : Text) : shellWords? text = (start.readAll text).finish := by
  rw [finish_readAll]
  exact Option.map_id'.symm

/-! ## Steps -/

/-- What reading a character can do. -/
inductive Step (reader : ShellReader) (c : Char) : ShellReader → Prop
  /-- The character is dropped, and with it a backslash before it. -/
  | drop {mode : ShellMode} :
      mode.backslash = [] →
        (reader.mode.holdsWord = true → mode.holdsWord = true) →
        Step reader c (reader.enter mode)
  /-- The character is a backslash, and what follows it decides. -/
  | wait {mode : ShellMode} :
      c = '\\' → reader.mode.backslash = [] → mode.backslash = ['\\'] →
        (reader.mode.holdsWord = true → mode.holdsWord = true) →
        Step reader c (reader.enter mode)
  /-- The character is kept, and a backslash before it is dropped. -/
  | keep {mode : ShellMode} :
      mode.backslash = [] → mode.holdsWord = true → Step reader c (reader.keep mode [c])
  /-- The character is kept together with the backslash before it. -/
  | keepBoth {mode : ShellMode} :
      reader.mode.backslash = ['\\'] → mode.backslash = [] → mode.holdsWord = true →
        Step reader c (reader.keep mode ['\\', c])
  /-- The character ends a word. -/
  | close : Step reader c reader.close

theorem step_read (reader : ShellReader) (c : Char) : Step reader c (reader.read c) := by
  rcases reader with ⟨words, mode, word⟩
  cases mode with
  | between =>
      simp only [read]
      split_ifs
      exacts [.drop rfl fun _ => rfl, .drop rfl fun _ => rfl, .wait ‹_› rfl rfl id,
        .drop rfl id, .drop rfl id, .keep rfl rfl]
  | afterBackslash =>
      simp only [read]
      split_ifs
      exacts [.drop rfl id, .keep rfl rfl]
  | inWord =>
      simp only [read]
      split_ifs
      exacts [.drop rfl id, .drop rfl id, .wait ‹_› rfl rfl id, .close, .keep rfl rfl]
  | inWordAfterBackslash =>
      simp only [read]
      split_ifs
      exacts [.drop rfl id, .keep rfl rfl]
  | inSingleQuotes =>
      simp only [read]
      split_ifs
      exacts [.drop rfl id, .keep rfl rfl]
  | inDoubleQuotes =>
      simp only [read]
      split_ifs
      exacts [.drop rfl id, .wait ‹_› rfl rfl id, .keep rfl rfl]
  | inDoubleQuotesAfterBackslash =>
      simp only [read]
      split_ifs
      exacts [.drop rfl id, .keep rfl rfl, .keepBoth rfl rfl rfl]
  | inComment =>
      simp only [read]
      split_ifs
      exacts [.drop rfl id, .drop rfl id]

/-! ## What is kept of a line -/

/-- The characters kept so far. -/
def kept (reader : ShellReader) : Text :=
  reader.words.flatten ++ reader.word

@[simp] theorem kept_enter (reader : ShellReader) (mode : ShellMode) :
    (reader.enter mode).kept = reader.kept := rfl

@[simp] theorem kept_keep (reader : ShellReader) (mode : ShellMode) (added : Text) :
    (reader.keep mode added).kept = reader.kept ++ added :=
  (List.append_assoc _ _ _).symm

@[simp] theorem kept_close (reader : ShellReader) : reader.close.kept = reader.kept := by
  simp [kept, close]

section Step

variable {reader next : ShellReader} {c : Char}

/-- A step keeps no more than the character, and the backslash before it. -/
theorem Step.kept_sublist (step : Step reader c next) :
    (next.kept ++ next.mode.backslash).Sublist (reader.kept ++ reader.mode.backslash ++ [c]) := by
  cases step with
  | drop none _ => simp [none]
  | wait isBackslash none one _ => simp [isBackslash, none, one]
  | keep none _ => simp [none]
  | keepBoth one none _ => simp [one, none]
  | close => simp [ShellMode.backslash]

/-- Words that are complete stay. -/
theorem Step.words_prefix (step : Step reader c next) : reader.words <+: next.words := by
  cases step with
  | drop | wait | keep | keepBoth => exact List.prefix_rfl
  | close => exact List.prefix_append _ _

/-- A word that has begun goes on or is completed as it is. -/
theorem Step.of_holdsWord (step : Step reader c next) (begun : reader.mode.holdsWord = true) :
    (next.mode.holdsWord = true ∧ next.words = reader.words ∧
      ∃ added, next.word = reader.word ++ added) ∨ next = reader.close := by
  cases step with
  | drop _ goesOn | wait _ _ _ goesOn =>
      exact Or.inl ⟨goesOn begun, rfl, [], (List.append_nil _).symm⟩
  | keep _ holds | keepBoth _ _ holds => exact Or.inl ⟨holds, rfl, _, rfl⟩
  | close => exact Or.inr rfl

/-- Nothing is kept for a word before it begins. -/
theorem Step.word_eq_nil (step : Step reader c next)
    (idle : reader.mode.holdsWord = false → reader.word = [])
    (still : next.mode.holdsWord = false) :
    next.word = [] := by
  cases step with
  | drop _ goesOn | wait _ _ _ goesOn =>
      apply idle
      rw [← Bool.not_eq_true]
      intro begun
      rw [mode_enter, goesOn begun] at still
      cases still
  | keep _ holds | keepBoth _ _ holds => exact absurd still (ne_of_eq_of_ne holds (by decide))
  | close => rfl

end Step

theorem kept_readAll_sublist (reader : ShellReader) (text : Text) :
    ((reader.readAll text).kept ++ (reader.readAll text).mode.backslash).Sublist
      (reader.kept ++ reader.mode.backslash ++ text) := by
  induction text generalizing reader with
  | nil => rw [readAll_nil, List.append_nil]
  | cons c rest inductionHypothesis =>
      rw [readAll_cons, List.append_cons]
      exact (inductionHypothesis _).trans ((reader.step_read c).kept_sublist.append_right rest)

/-- All characters of the words are characters of the line, in their order. -/
theorem flatten_sublist_of_finish {reader : ShellReader} {words : List Text}
    (finished : reader.finish = some words) :
    words.flatten.Sublist (reader.kept ++ reader.mode.backslash) := by
  unfold finish at finished
  split at finished <;> cases finished
  · rw [kept, List.append_assoc]
    exact List.sublist_append_left _ _
  · rw [kept, List.append_assoc]
    exact List.sublist_append_left _ _
  all_goals simp [kept]

/-- The words completed from some point on are made of what comes after it, and of
the word that was being read there. -/
theorem flatten_sublist_of_later {reader : ShellReader} {text : Text} {later : List Text}
    (finished : (reader.readAll text).finish = some (reader.words ++ later)) :
    later.flatten.Sublist (reader.word ++ reader.mode.backslash ++ text) := by
  have inText := (flatten_sublist_of_finish finished).trans (reader.kept_readAll_sublist text)
  rw [kept, List.flatten_append, List.append_assoc, List.append_assoc,
    List.append_sublist_append_left, ← List.append_assoc] at inText
  exact inText

/-! ## What was read stays -/

theorem words_prefix_of_finish {reader : ShellReader} {text : Text} {words : List Text}
    (finished : (reader.readAll text).finish = some words) :
    reader.words <+: words := by
  induction text generalizing reader with
  | nil =>
      rw [readAll_nil, finish] at finished
      split at finished <;> cases finished
      · exact List.prefix_rfl
      · exact List.prefix_rfl
      all_goals exact List.prefix_append _ _
  | cons c rest inductionHypothesis =>
      have stay : reader.words <+: (reader.read c).words := Step.words_prefix (step_read reader c)
      exact stay.trans (inductionHypothesis finished)

/-- A word that has begun is the beginning of the word that comes next. -/
theorem exists_word_of_finish {reader : ShellReader} {text : Text} {words : List Text}
    (begun : reader.mode.holdsWord = true)
    (finished : (reader.readAll text).finish = some words) :
    ∃ added others, words = reader.words ++ (reader.word ++ added) :: others := by
  induction text generalizing reader with
  | nil =>
      rw [readAll_nil, finish] at finished
      cases mode : reader.mode <;> rw [mode] at begun finished <;> cases begun <;> cases finished
      · exact ⟨_, [], rfl⟩
      · exact ⟨_, [], rfl⟩
  | cons c rest inductionHypothesis =>
      rw [readAll_cons] at finished
      rcases (reader.step_read c).of_holdsWord begun with ⟨goesOn, sameWords, added, word⟩ | closed
      · obtain ⟨later, others, rfl⟩ := inductionHypothesis goesOn finished
        exact ⟨added ++ later, others, by rw [sameWords, word, List.append_assoc]⟩
      · rw [closed] at finished
        obtain ⟨others, rfl⟩ := words_prefix_of_finish finished
        exact ⟨[], others, by simp [close]⟩

theorem word_readAll_start_eq_nil {text : Text}
    (idle : (start.readAll text).mode.holdsWord = false) :
    (start.readAll text).word = [] := by
  induction text using List.reverseRecOn with
  | nil => rfl
  | append_singleton text last inductionHypothesis =>
      rw [readAll_append] at idle ⊢
      exact (step_read _ last).word_eq_nil inductionHypothesis idle

end ShellReader

/-! ## Plain text -/

/-- The characters with a meaning of their own in a command line. -/
def specials : List Char :=
  [' ', '\t', '\n', '$', '\x60', '"', '\\', '\'', '#']

/-- No character of the text has a meaning of its own. -/
def IsPlain (text : Text) : Prop :=
  ∀ c ∈ text, c ∉ specials

instance : DecidablePred IsPlain :=
  fun text => List.decidableBAll (· ∉ specials) text

namespace ShellReader

variable {reader : ShellReader} {c : Char} {text name : Text}

theorem read_of_notMem_specials (plain : c ∉ specials) :
    reader.read c =
      match reader.mode with
      | .between | .afterBackslash | .inWord | .inWordAfterBackslash => reader.keep .inWord [c]
      | .inSingleQuotes => reader.keep .inSingleQuotes [c]
      | .inDoubleQuotes => reader.keep .inDoubleQuotes [c]
      | .inDoubleQuotesAfterBackslash => reader.keep .inDoubleQuotes ['\\', c]
      | .inComment => reader.enter .inComment := by
  simp only [specials, List.mem_cons, List.not_mem_nil, or_false, not_or] at plain
  unfold read
  cases mode : reader.mode <;> simp [plain, isSeparator, isEscapable]

/-- Where a word can begin or go on, a plain character does so. -/
theorem read_of_takesWord (takes : reader.mode.takesWord = true) (plain : c ∉ specials) :
    reader.read c = reader.keep .inWord [c] := by
  rw [read_of_notMem_specials plain]
  cases mode : reader.mode with
  | between | afterBackslash | inWord | inWordAfterBackslash => rfl
  | inSingleQuotes | inDoubleQuotes | inDoubleQuotesAfterBackslash | inComment =>
      rw [mode] at takes
      cases takes

theorem readAll_of_takesWord (takes : reader.mode.takesWord = true) (nonempty : name ≠ [])
    (plain : IsPlain name) :
    reader.readAll name = reader.keep .inWord name := by
  induction name generalizing reader with
  | nil => exact absurd rfl nonempty
  | cons c rest inductionHypothesis =>
      rw [IsPlain, List.forall_mem_cons] at plain
      rw [readAll_cons, read_of_takesWord takes plain.1]
      cases rest with
      | nil => rfl
      | cons next others =>
          rw [inductionHypothesis rfl (List.cons_ne_nil _ _) plain.2]
          simp [keep]

theorem finish_readAll_of_takesWord (takes : reader.mode.takesWord = true)
    (nonempty : name ≠ []) (plain : IsPlain name) :
    (reader.readAll name).finish = some (reader.words ++ [reader.word ++ name]) := by
  rw [readAll_of_takesWord takes nonempty plain]
  simp [finish, keep, ShellMode.backslash]

/-- Plain text does not end a quote. -/
theorem finish_readAll_of_isQuoted (quoted : reader.mode.isQuoted = true) (plain : IsPlain name) :
    (reader.readAll name).finish = none := by
  induction name generalizing reader with
  | nil =>
      rw [readAll_nil, finish]
      cases mode : reader.mode with
      | inSingleQuotes | inDoubleQuotes | inDoubleQuotesAfterBackslash => rfl
      | between | afterBackslash | inWord | inWordAfterBackslash | inComment =>
          rw [mode] at quoted
          cases quoted
  | cons c rest inductionHypothesis =>
      rw [IsPlain, List.forall_mem_cons] at plain
      rw [readAll_cons]
      apply inductionHypothesis _ plain.2
      rw [read_of_notMem_specials plain.1]
      cases mode : reader.mode with
      | inSingleQuotes | inDoubleQuotes | inDoubleQuotesAfterBackslash => rfl
      | between | afterBackslash | inWord | inWordAfterBackslash | inComment =>
          rw [mode] at quoted
          cases quoted

/-- A character that is not special and not in a comment begins a word or goes on
with one. -/
theorem read_holdsWord (plain : c ∉ specials) (notComment : reader.mode ≠ .inComment) :
    (reader.read c).mode.holdsWord = true ∧ (reader.read c).mode.backslash = [] ∧
      c ∈ (reader.read c).word := by
  rw [read_of_notMem_specials plain]
  cases mode : reader.mode with
  | inComment => exact absurd mode notComment
  | inDoubleQuotesAfterBackslash =>
      exact ⟨rfl, rfl, List.mem_append_right _ (List.mem_cons_of_mem _ List.mem_cons_self)⟩
  | between | afterBackslash | inWord | inWordAfterBackslash | inSingleQuotes | inDoubleQuotes =>
      exact ⟨rfl, rfl, List.mem_append_right _ List.mem_cons_self⟩

/-! ## Comments -/

theorem mode_read_eq_inComment_iff :
    (reader.read c).mode = .inComment ↔
      (reader.mode = .inComment ∧ c ≠ '\n') ∨ (reader.mode = .between ∧ c = '#') := by
  have notSeparator : isSeparator c = true → c ≠ '#' := by
    rintro separates rfl
    cases separates
  unfold read
  cases mode : reader.mode <;>
    simp only [] <;>
    split_ifs <;>
    simp_all [enter, keep, close]

theorem read_of_inComment (comment : reader.mode = .inComment) (c : Char) :
    ∃ mode, mode.backslash = [] ∧ reader.read c = reader.enter mode := by
  rw [read, comment]
  simp only []
  split_ifs
  · exact ⟨.between, rfl, rfl⟩
  · exact ⟨.inComment, rfl, rfl⟩

/-- A comment goes on to the end of the line. -/
theorem readAll_of_inComment (comment : reader.mode = .inComment) (inLine : '\n' ∉ text) :
    reader.readAll text = reader := by
  induction text with
  | nil => rfl
  | cons c rest inductionHypothesis =>
      rw [List.mem_cons, not_or] at inLine
      have step : reader.read c = reader := by
        rw [read, comment]
        simp only [Ne.symm inLine.1, if_false, enter, ← comment]
      rw [readAll_cons, step, inductionHypothesis inLine.2]

end ShellReader

/-- A text ends inside a comment: where a word could begin there was a number sign,
and no line feed since. -/
def EndsInComment (text : Text) : Prop :=
  ∃ before content, text = before ++ '#' :: content ∧
    (ShellReader.start.readAll before).mode = .between ∧ '\n' ∉ content

/-- The reader knows whether it is in a comment. -/
theorem endsInComment_iff (text : Text) :
    EndsInComment text ↔ (ShellReader.start.readAll text).mode = .inComment := by
  constructor
  · rintro ⟨before, content, rfl, between, inLine⟩
    have opened : ((ShellReader.start.readAll before).read '#').mode = .inComment :=
      ShellReader.mode_read_eq_inComment_iff.mpr (Or.inr ⟨between, rfl⟩)
    rw [ShellReader.readAll_append, ShellReader.readAll_cons,
      ShellReader.readAll_of_inComment opened inLine, opened]
  · intro comment
    induction text using List.reverseRecOn with
    | nil => cases comment
    | append_singleton text last inductionHypothesis =>
        rw [ShellReader.readAll_append, ShellReader.readAll_cons,
          ShellReader.readAll_nil, ShellReader.mode_read_eq_inComment_iff] at comment
        rcases comment with ⟨goesOn, notEnd⟩ | ⟨between, rfl⟩
        · obtain ⟨before, content, rfl, between, inLine⟩ := inductionHypothesis goesOn
          refine ⟨before, content ++ [last], List.append_assoc _ _ _, between, ?_⟩
          rw [List.mem_append, List.mem_singleton]
          exact not_or.mpr ⟨inLine, Ne.symm notEnd⟩
        · exact ⟨text, [], rfl, between, List.not_mem_nil⟩

theorem exists_known_of_endsInComment {kept : Text} (comment : EndsInComment kept) :
    ∃ known, shellWords? kept = some known := by
  rw [endsInComment_iff] at comment
  rw [ShellReader.shellWords?_eq, ShellReader.finish, comment]
  exact ⟨_, rfl⟩

/-- The words before an open comment are followed by those of what comes after it,
and its first character is in none of them. -/
theorem exists_later_of_endsInComment {kept rest : Text} {known words : List Text}
    (comment : EndsInComment kept) (before : shellWords? kept = some known)
    (split : shellWords? (kept ++ rest) = some words) :
    ∃ later, words = known ++ later ∧ later.flatten.Sublist rest.tail := by
  cases rest with
  | nil =>
      rw [List.append_nil, before] at split
      cases split
      exact ⟨[], (List.append_nil known).symm, List.Sublist.slnil⟩
  | cons c rest =>
      rw [endsInComment_iff] at comment
      rw [ShellReader.shellWords?_eq, ShellReader.finish, comment] at before
      cases before
      rw [ShellReader.shellWords?_eq, ShellReader.readAll_append, ShellReader.readAll_cons]
        at split
      obtain ⟨mode, noBackslash, step⟩ := ShellReader.read_of_inComment comment c
      rw [step] at split
      obtain ⟨later, rfl⟩ := ShellReader.words_prefix_of_finish split
      have nothing : (ShellReader.start.readAll kept).word = [] :=
        ShellReader.word_readAll_start_eq_nil (by rw [comment]; rfl)
      have inRest := ShellReader.flatten_sublist_of_later split
      rw [ShellReader.word_enter, ShellReader.mode_enter, nothing, noBackslash] at inRest
      exact ⟨later, rfl, inRest⟩

/-! ## Where a word begins -/

/-- After the text the words are complete, and plain text begins a word of its own. -/
structure AwaitsWord (text : Text) (words : List Text) : Prop where
  words_eq : (ShellReader.start.readAll text).words = words
  word_eq : (ShellReader.start.readAll text).word = []
  takesWord : (ShellReader.start.readAll text).mode.takesWord = true

/-- A name put behind a text is a further word of its own exactly where one is
awaited, or else it changes nothing because the text ends in a comment. -/
theorem shellWords?_append_eq_iff {kept name : Text} {words : List Text} (nonempty : name ≠ [])
    (plain : IsPlain name) :
    shellWords? (kept ++ name) = some (words ++ [name]) ↔
      AwaitsWord kept words ∨
        EndsInComment kept ∧ shellWords? kept = some (words ++ [name]) := by
  rw [endsInComment_iff, ShellReader.shellWords?_eq, ShellReader.shellWords?_eq,
    ShellReader.readAll_append]
  cases takes : (ShellReader.start.readAll kept).mode.takesWord with
  | true =>
      have notComment : (ShellReader.start.readAll kept).mode ≠ .inComment := by
        intro comment
        rw [comment] at takes
        cases takes
      rw [ShellReader.finish_readAll_of_takesWord takes nonempty plain, Option.some.injEq,
        or_iff_left fun both => notComment both.1]
      constructor
      · intro same
        obtain ⟨sameWords, sameWord⟩ := List.append_inj' same rfl
        rw [List.cons.injEq, List.append_left_eq_self] at sameWord
        exact ⟨sameWords, sameWord.1, takes⟩
      · rintro ⟨rfl, word, -⟩
        rw [word, List.nil_append]
  | false =>
      have notAwaited : ¬AwaitsWord kept words := by
        intro awaits
        rw [awaits.takesWord] at takes
        cases takes
      rw [or_iff_right notAwaited]
      rcases ShellMode.eq_inComment_or_isQuoted takes with comment | quoted
      · have inLine : '\n' ∉ name := fun member => plain '\n' member (by decide)
        rw [ShellReader.readAll_of_inComment comment inLine]
        exact (and_iff_right comment).symm
      · rw [ShellReader.finish_readAll_of_isQuoted quoted plain]
        refine iff_of_false (Option.some_ne_none _).symm fun both => ?_
        rw [both.1] at quoted
        cases quoted

end Text
end AccumulatorMachine
