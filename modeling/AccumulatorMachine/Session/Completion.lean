import AccumulatorMachine.Session.Grammar
import AccumulatorMachine.Text.Backspace
import AccumulatorMachine.Text.ShellWords

/-!
# Completion of session commands

Completion looks at the words up to the cursor.  All words but the last lead
to a verb by its full name, and the last one is completed to the names of its
topics.  A single candidate is also hinted at.
-/

namespace AccumulatorMachine
namespace Session

/-- The words of a line up to a byte offset.  After a space or a tab a new,
still empty word begins. -/
def wordsBefore? (line : Text) (cursor : Nat) : Option (List Text) := do
  let before ← Text.takeBytes? cursor line
  let words ← Text.shellWords? before
  match before.getLast? with
  | some ' ' | some '\t' => return words ++ [[]]
  | _ => return words

/-- The names that can follow a verb, sorted. -/
def Verb.nextNames (verb : Verb) : List String :=
  let names := verb.topics.map Verb.name
  (if names.isEmpty then [] else "help" :: names).mergeSort

/-- A word and the names that begin with it. -/
structure Suggestion where
  word : Text
  candidates : List String
  deriving DecidableEq, Repr

namespace Suggestion

/-- Nothing to complete. -/
def none : Suggestion :=
  ⟨[], []⟩

/-- The bytes of the word. -/
def size (suggestion : Suggestion) : Nat :=
  Text.byteLength suggestion.word

end Suggestion

/-- What can be suggested for the words after a verb. -/
def Verb.suggest (verb : Verb) : List Text → Suggestion
  | [] => ⟨[], verb.nextNames⟩
  | [word] => ⟨word, verb.nextNames.filter fun name => word.isPrefixOf name.toList⟩
  | word :: next :: rest =>
      match verb.topic? word with
      | some topic => topic.suggest (next :: rest)
      | none => .none

/-- Candidates, and the byte offset that they are to be inserted at. -/
structure Completion where
  start : Nat
  candidates : List String
  deriving DecidableEq, Repr

/-- Complete the word before a byte offset. -/
def complete (line : Text) (cursor : Nat) : Completion :=
  match wordsBefore? line cursor with
  | some words =>
      let suggestion := language.suggest words
      ⟨cursor - suggestion.size, suggestion.candidates⟩
  | none => ⟨0, []⟩

/-- What the only candidate has behind as many bytes as the word before a byte offset
has. -/
def hint? (line : Text) (cursor : Nat) : Option Text := do
  let words ← wordsBefore? line cursor
  let suggestion := language.suggest words
  match suggestion.candidates with
  | [candidate] => Text.dropBytes? suggestion.size candidate.toList
  | _ => failure

end Session
end AccumulatorMachine
