import AccumulatorMachine.Proofs.CompletedWords
import AccumulatorMachine.Proofs.TextLayout
import AccumulatorMachine.Session.Dialogue

/-!
# Written commands

A command is written as the name of its verb and its parameters, with spaces between
them.  Such a line splits in these words again, and a verb without topics reads one
parameter after the other, as long as no word begins with a hyphen or a word `--` came
before.
-/

namespace AccumulatorMachine

/-! ## Plain words -/

namespace Text

/-- Words with characters that have no meaning of their own. -/
def ArePlainWords (words : List Text) : Prop :=
  ∀ word ∈ words, word ≠ [] ∧ IsPlain word

theorem isBlank_of_isLower {c : Char} (lower : c.isLower = true) : isBlank c = false := by
  unfold Char.isLower at lower
  simp only [Bool.and_eq_true, decide_eq_true_eq] at lower
  have fromA : 97 ≤ c.toNat := lower.1
  have toZ : c.toNat ≤ 122 := lower.2
  unfold isBlank
  simp
  omega

namespace ShellReader

variable {reader : ShellReader}

theorem read_space_of_inWord (inWord : reader.mode = .inWord) :
    reader.read ' ' = reader.close := by
  rw [read, inWord]
  rfl

theorem finish_readAll_spaced {words : List Text} (plain : ArePlainWords words)
    (between : reader.mode = .between) (empty : reader.word = []) :
    (reader.readAll (spaced words)).finish = some (reader.words ++ words) := by
  induction words generalizing reader with
  | nil =>
      rw [spaced, List.intercalate_nil, readAll_nil, finish, between, List.append_nil]
  | cons word others inductionHypothesis =>
      obtain ⟨⟨nonempty, plainWord⟩, plainOthers⟩ := List.forall_mem_cons.mp plain
      have takes : reader.mode.takesWord = true := by
        rw [between]
        rfl
      cases others with
      | nil =>
          rw [spaced_singleton, finish_readAll_of_takesWord takes nonempty plainWord, empty]
          rfl
      | cons next rest =>
          have closed : (reader.keep .inWord word).close =
              ⟨reader.words ++ [word], .between, []⟩ := by
            rw [close, keep, empty]
            rfl
          rw [spaced_cons_cons, readAll_append, readAll_cons,
            readAll_of_takesWord takes nonempty plainWord,
            read_space_of_inWord (mode_keep _ _ _), closed,
            inductionHypothesis plainOthers rfl rfl]
          exact congrArg some (List.append_assoc _ _ _)

end ShellReader

/-- Plain words with spaces between them are the words of the line. -/
theorem shellWords?_spaced {words : List Text} (plain : ArePlainWords words) :
    shellWords? (spaced words) = some words := by
  rw [ShellReader.shellWords?_eq]
  exact ShellReader.finish_readAll_spaced plain rfl rfl

end Text

namespace Session

/-! ## Parameters -/

/-- The words of some parameters with the values that they are read as.  A word that
begins with a hyphen needs a word `--` before it. -/
inductive Reads (escaped : Bool) : List Parameter → List Text → List Value → Prop
  | nil {parameters : List Parameter} : Reads escaped parameters [] []
  | cons {parameter : Parameter} {parameters : List Parameter} {token : Text}
      {tokens : List Text} {value : Value} {values : List Value} :
      parameter.form.read token = .ok value →
        (escaped = false → token.head? ≠ some '-') →
        Reads escaped parameters tokens values →
        Reads escaped (parameter :: parameters) (token :: tokens) (value :: values)

theorem Verb.choice?_of_topics_eq_nil {verb : Verb} (noTopics : verb.topics = [])
    (token : Text) :
    verb.choice? token = none := by
  simp [choice?, exactChoice?, topic?, noTopics]

namespace Reading

/-- What was read after a verb is right and gives some values. -/
structure Holds (reading : Reading) (values : List Value) : Prop where
  settle_eq : reading.settle = .ok { reading with values, pending := none }
  count_eq : reading.count = values.length

theorem holds_start (verb : Verb) : (start verb).Holds [] :=
  ⟨rfl, rfl⟩

theorem holds_escaped (verb : Verb) : { start verb with escaped := true }.Holds [] :=
  ⟨rfl, rfl⟩

section Words

variable {reading : Reading} {values : List Value} {token : Text}

/-- The name of a topic begins the reading of the topic. -/
theorem readWords_cons_of_topic {topic : Verb} (unescaped : reading.escaped = false)
    (chosen : reading.verb.choice? token = some (.topic topic)) (rest : List Text) :
    reading.readWords (token :: rest) = (start topic).readWords rest := by
  have isTopic : (if reading.escaped then none else reading.verb.choice? token) =
      some (.topic topic) := by
    rw [unescaped, if_neg Bool.false_ne_true, chosen]
  simp only [readWords, isTopic]

/-- A verb without topics takes each word as a parameter, or refuses it. -/
theorem readWords_cons_of_topics_eq_nil (noTopics : reading.verb.topics = [])
    (rest : List Text) :
    reading.readWords (token :: rest) =
      match reading.takeWord token with
      | .ok next => next.readWords rest
      | .error rejection => .error rejection := by
  have noChoice : (if reading.escaped then none else reading.verb.choice? token) = none := by
    rw [Verb.choice?_of_topics_eq_nil noTopics, ite_self]
  cases taken : reading.takeWord token with
  | ok next => simp only [readWords, noChoice, taken]
  | error rejection => simp only [readWords, noChoice, taken]

/-- A word is a parameter unless it begins with a hyphen. -/
theorem takeWord_eq_takeParameter (plain : reading.escaped = false → token.head? ≠ some '-') :
    reading.takeWord token = reading.takeParameter token := by
  unfold takeWord
  cases escaped : reading.escaped with
  | true => rfl
  | false =>
      have noHyphen := plain escaped
      rw [if_neg Bool.false_ne_true]
      split <;> simp_all

/-- A word with one hyphen before it is refused, or asks for help. -/
theorem takeWord_hyphen (plain : reading.escaped = false) {letter : Char} (rest : Text)
    (single : letter ≠ '-') :
    reading.takeWord ('-' :: letter :: rest) = .error (reading.refuseShort letter) := by
  unfold takeWord
  rw [plain, if_neg Bool.false_ne_true]
  split <;> simp_all

theorem Holds.takeParameter (holds : reading.Holds values) {parameter : Parameter}
    {value : Value}
    (expected : reading.verb.parameters[values.length]? = some parameter)
    (read : parameter.form.read token = .ok value) :
    ∃ next, reading.takeParameter token = .ok next ∧ next.Holds (values ++ [value]) ∧
      next.verb = reading.verb ∧ next.escaped = reading.escaped := by
  refine ⟨{ reading with values, pending := some (parameter, token) }, ?_, ?_, rfl, rfl⟩
  · rw [Reading.takeParameter, holds.count_eq, expected, holds.settle_eq]
    rfl
  · constructor
    · rw [settle]
      simp only [read]
    · rw [List.length_append]
      rfl

theorem Holds.finish {command : Command} (holds : reading.Holds values)
    (denotes : reading.verb.command? values = some command) :
    reading.finish = .ok command := by
  rw [Reading.finish, holds.settle_eq]
  simp only [denotes]

/-- Words that are read as the parameters of a verb make up its command. -/
theorem readWords_of_reads {escaped : Bool} {parameters : List Parameter} {tokens : List Text}
    {others : List Value} {command : Command}
    (reads : Reads escaped parameters tokens others)
    (noTopics : reading.verb.topics = []) (sameEscaped : reading.escaped = escaped)
    (holds : reading.Holds values)
    (expected : reading.verb.parameters.drop values.length = parameters)
    (denotes : reading.verb.command? (values ++ others) = some command) :
    reading.readWords tokens = .ok command := by
  induction reads generalizing reading values with
  | nil =>
      rw [List.append_nil] at denotes
      rw [readWords, holds.finish denotes]
  | @cons parameter parameters token tokens value others read plain _ inductionHypothesis =>
      have isNext : reading.verb.parameters[values.length]? = some parameter := by
        rw [← List.head?_drop, expected, List.head?_cons]
      obtain ⟨next, taken, holdsNext, sameVerb, stillEscaped⟩ :=
        holds.takeParameter isNext read
      rw [readWords_cons_of_topics_eq_nil noTopics,
        takeWord_eq_takeParameter fun unescaped => plain (sameEscaped.symm.trans unescaped), taken]
      apply inductionHypothesis
      · rw [sameVerb, noTopics]
      · rw [stillEscaped, sameEscaped]
      · exact holdsNext
      · rw [sameVerb, List.length_append, List.length_singleton, ← List.tail_drop, expected,
          List.tail_cons]
      · rw [sameVerb, List.append_assoc]
        exact denotes

end Words

end Reading

/-! ## Lines -/

theorem IsName.isBlankText_spaced {name : Text} (isName : IsName name) (tokens : List Text) :
    Text.isBlankText (Text.spaced (name :: tokens)) = false := by
  obtain ⟨first, rest, rfl⟩ := List.exists_cons_of_ne_nil isName.ne_nil
  have firstVisible := Text.isBlank_of_isLower (isName.isLower first List.mem_cons_self)
  cases tokens with
  | nil =>
      rw [Text.spaced_singleton, Text.isBlankText, List.all_cons, firstVisible, Bool.false_and]
  | cons token others =>
      rw [Text.spaced_cons_cons, Text.isBlankText, List.cons_append, List.all_cons, firstVisible,
        Bool.false_and]

/-- The name of a verb and plain words after it are read by the verb. -/
theorem readInput_spaced {name : Text} {verb : Verb} (isName : IsName name)
    (chosen : language.choice? name = some (.topic verb)) {tokens : List Text}
    (plain : Text.ArePlainWords tokens) :
    readInput (Text.spaced (name :: tokens)) =
      match (Reading.start verb).readWords tokens with
      | .ok command => .command command
      | .error rejection => .rejected rejection := by
  have areWords : Text.ArePlainWords (name :: tokens) :=
    List.forall_mem_cons.mpr ⟨⟨isName.ne_nil, isName.isPlain⟩, plain⟩
  have begun : readCommand (name :: tokens) = (Reading.start verb).readWords tokens :=
    Reading.readWords_cons_of_topic rfl chosen tokens
  rw [readInput, isName.isBlankText_spaced, if_neg Bool.false_ne_true,
    Text.shellWords?_spaced areWords]
  cases read : (Reading.start verb).readWords tokens with
  | ok command => simp only [begun, read]
  | error rejection => simp only [begun, read]

end Session
end AccumulatorMachine
