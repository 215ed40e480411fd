import AccumulatorMachine.Proofs.SessionFrames
import Mathlib.Tactic.SplitIfs

/-!
# Repeated inputs

A session remembers the command of the last input that was understood as one: no other
input and no command changes what it remembers.  So a blank input can be replaced by
that input, and the session answers the same at every input and ends the same way.
-/

namespace AccumulatorMachine
namespace Session

/-- The command that an input is understood as, unless it is blank or refused. -/
def understood? (input : Text) : Option Command :=
  match readInput input with
  | .command command => some command
  | .again | .unfinished | .rejected _ => none

/-- Whether an input is understood as a command. -/
def isUnderstood (input : Text) : Bool :=
  (understood? input).isSome

/-- The last of some inputs that is understood as a command. -/
def lastUnderstood? (inputs : List Text) : Option Text :=
  (inputs.filter isUnderstood).getLast?

/-- An input that comes after others, with the one that it repeats in its place if it is
blank. -/
def spelledOut (before : List Text) (input : Text) : Text :=
  if Text.isBlankText input then (lastUnderstood? before).getD input else input

/-- Inputs that come after others, with those that they repeat in the place of the blank
ones. -/
def spellOut (before : List Text) : List Text → List Text
  | [] => []
  | input :: rest => spelledOut before input :: spellOut (before ++ [input]) rest

/-! ## The last input that was understood -/

section Inputs

variable {input : Text} {before : List Text} {command : Command}

theorem understood?_eq_some_iff :
    understood? input = some command ↔ readInput input = .command command := by
  unfold understood?
  cases readInput input <;> simp

theorem lastUnderstood?_concat (before : List Text) (input : Text) :
    lastUnderstood? (before ++ [input]) =
      if isUnderstood input then some input else lastUnderstood? before := by
  rw [lastUnderstood?, List.filter_append]
  split_ifs with understood
  · rw [List.filter_cons_of_pos understood, List.filter_nil, List.getLast?_concat]
  · rw [List.filter_cons_of_neg understood, List.filter_nil, List.append_nil, lastUnderstood?]

theorem exists_understood?_of_last (last : lastUnderstood? before = some input) :
    ∃ command, understood? input = some command :=
  Option.isSome_iff_exists.mp (List.mem_filter.mp (List.mem_of_getLast? last)).2

end Inputs

/-! ## What a session remembers -/

/-- A session remembers the command of the last of some inputs that was understood. -/
def Remembers (session : Session) (before : List Text) : Prop :=
  session.lastCommand = (lastUnderstood? before).bind understood?

section Remembering

variable {conditions : Conditions} {session : Session} {before : List Text} {input : Text}
  {turn : Turn}

theorem remembers_start (machine : Machine) : (start machine).Remembers [] :=
  rfl

theorem lastCommand_of_perform {command : Command}
    (performed : session.perform conditions command = some turn) :
    turn.session.lastCommand = session.lastCommand := by
  obtain ⟨executed, carriedOut, rfl⟩ := Option.map_eq_some_iff.mp performed
  have kept := (kept_of_execute carriedOut).1
  exact kept

/-- An input that is not understood leaves what is remembered as it was. -/
theorem lastCommand_of_understood?_eq_none (notUnderstood : understood? input = none)
    (entered : session.enter conditions input = some turn) :
    turn.session.lastCommand = session.lastCommand := by
  rw [understood?] at notUnderstood
  rw [enter] at entered
  cases request : readInput input with
  | again =>
      rw [request, answer] at entered
      split at entered
      · exact lastCommand_of_perform entered
      · cases entered
        rfl
  | unfinished | rejected rejection =>
      rw [request, answer] at entered
      cases entered
      rfl
  | command command =>
      rw [request] at notUnderstood
      cases notUnderstood

/-- After an input the session remembers the command of the last understood one. -/
theorem Remembers.concat (remembers : session.Remembers before)
    (entered : session.enter conditions input = some turn) :
    turn.session.Remembers (before ++ [input]) := by
  rw [Remembers, lastUnderstood?_concat]
  cases understood : understood? input with
  | none =>
      rw [isUnderstood, understood, Option.isSome_none, if_neg Bool.false_ne_true]
      exact (lastCommand_of_understood?_eq_none understood entered).trans remembers
  | some command =>
      rw [isUnderstood, understood, Option.isSome_some, if_pos rfl]
      rw [enter_of_readInput conditions session (understood?_eq_some_iff.mp understood)] at entered
      exact (lastCommand_of_perform entered).trans understood.symm

/-- A session answers a blank input as it answers the one that it repeats. -/
theorem Remembers.enter_spelledOut (remembers : session.Remembers before)
    (conditions : Conditions) (input : Text) :
    session.enter conditions (spelledOut before input) = session.enter conditions input := by
  unfold spelledOut
  split_ifs with blank
  · cases last : lastUnderstood? before with
    | none => rfl
    | some repeated =>
        obtain ⟨command, understood⟩ := exists_understood?_of_last last
        have remembered : session.lastCommand = some command := by
          rw [remembers, last]
          exact understood
        rw [Option.getD_some, enter_of_asks conditions (.again blank remembered),
          enter_of_readInput conditions session (understood?_eq_some_iff.mp understood)]
  · rfl

theorem Remembers.turns_spellOut (remembers : session.Remembers before)
    (conditions : Conditions) (inputs : List Text) :
    session.turns conditions (spellOut before inputs) = session.turns conditions inputs := by
  induction inputs generalizing session before with
  | nil => rfl
  | cons input rest inductionHypothesis =>
      rw [spellOut, turns, turns, remembers.enter_spelledOut]
      cases entered : session.enter conditions input with
      | none => rfl
      | some turn =>
          have goesOn := inductionHypothesis (remembers.concat entered)
          simp only [goesOn]

end Remembering

/-- A blank input repeats the last input that was understood as a command.  When this one
stands in its place, all inputs of a session are answered the same and leave the same
session, and the session ends the same way; inputs that do not split in words or that are
refused do not count. -/
theorem blank_inputs_repeat (conditions : Conditions) (machine : Machine)
    (inputs : List Text) (interruption : Interruption) :
    (start machine).turns conditions (spellOut [] inputs) =
        (start machine).turns conditions inputs ∧
      converse conditions (start machine) ⟨spellOut [] inputs, interruption⟩ =
        converse conditions (start machine) ⟨inputs, interruption⟩ := by
  have same := (remembers_start machine).turns_spellOut conditions inputs
  refine ⟨same, ?_⟩
  rw [converse, same, converse]

/-- A blank input before the first command stands for itself, and a refused input and a
request for help are not repeated. -/
example :
    spellOut [] ["".toList, "reg".toList, "lost".toList, " ".toList, "help".toList,
      "\t".toList, "s 2".toList, "".toList] =
    ["".toList, "reg".toList, "lost".toList, "reg".toList, "help".toList,
      "reg".toList, "s 2".toList, "s 2".toList] := by
  decide +kernel

end Session
end AccumulatorMachine
