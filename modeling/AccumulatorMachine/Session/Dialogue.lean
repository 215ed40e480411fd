import AccumulatorMachine.Session.Execution
import AccumulatorMachine.Text.Backspace
import AccumulatorMachine.Text.Line
import AccumulatorMachine.Text.ShellWords

/-!
# Dialogues

A session answers one input after the other until the user leaves or the inputs
end.  A blank input repeats the last command that was understood.  Inputs come from
typed lines, in which backspaces take back what stands before them.  A line in
which that leaves a part of a character breaks the session off.
-/

namespace AccumulatorMachine
namespace Session

/-- What an input asks for. -/
inductive Request
  | again
  | unfinished
  | rejected (rejection : Rejection)
  | command (command : Command)
  deriving DecidableEq, Repr

/-- Read an input. -/
def readInput (input : Text) : Request :=
  if Text.isBlankText input then
    .again
  else
    match Text.shellWords? input with
    | none => .unfinished
    | some words =>
        match readCommand words with
        | .ok command => .command command
        | .error rejection => .rejected rejection

/-- Announce a command and carry it out. -/
def perform (conditions : Conditions) (session : Session) (command : Command) :
    Option Turn :=
  (session.execute conditions command).map fun turn => turn.after [.executing command]

/-- Answer what an input asks for. -/
def answer (conditions : Conditions) (session : Session) : Request → Option Turn
  | .again =>
      match session.lastCommand with
      | some command => session.perform conditions command
      | none => some (session.tell [.helpOffered])
  | .unfinished => some (session.tell [.unfinishedInput])
  | .rejected rejection => some (session.tell [.rejected rejection])
  | .command command =>
      { session with lastCommand := some command }.perform conditions command

/-- Answer an input. -/
def enter (conditions : Conditions) (session : Session) (input : Text) : Option Turn :=
  session.answer conditions (readInput input)

/-- The answers to inputs, up to the one that ends the session. -/
def turns (conditions : Conditions) : Session → List Text → Option (List Turn)
  | _, [] => some []
  | session, input :: rest =>
      match session.enter conditions input with
      | none => none
      | some turn =>
          if turn.isOver then some [turn]
          else (turns conditions turn.session rest).map (turn :: ·)

/-! ### Inputs -/

/-- What typed lines amount to. -/
inductive Typed
  /-- An input. -/
  | complete (input : Text)
  /-- The start of an input in which a quote is open.  The next line is added to
  it. -/
  | quoteOpen (start : Text)
  /-- No text, as a backspace leaves a part of a character. -/
  | torn
  deriving DecidableEq, Repr

/-- Read typed lines.  The last line ending is no part of an input, but of the
start of one: the next line can be used to edit both. -/
def readTyped (typed : Text) : Typed :=
  match Text.applyBackspaces? (Text.withoutEnding typed) with
  | none => .torn
  | some edited =>
      if (Text.shellWords? edited).isSome then .complete edited
      else .quoteOpen (edited ++ Text.ending typed)

/-- Why there are no more inputs. -/
inductive Interruption
  /-- Nothing more is typed. -/
  | endOfText
  /-- A backspace leaves a part of a character. -/
  | tornLine
  deriving DecidableEq, Repr

/-- All inputs of a text, and why there are no more. -/
structure Script where
  inputs : List Text
  interruption : Interruption
  deriving DecidableEq, Repr

namespace Script

/-- One more input before the others. -/
def cons (input : Text) (script : Script) : Script :=
  { script with inputs := input :: script.inputs }

/-- The inputs on some lines, given the start of an input that is still open.  A
line with an open quote goes on with the next line, and an input that is open at
the end is lost. -/
def ofLines (start : Text) : List Text → Script
  | [] => ⟨[], .endOfText⟩
  | line :: rest =>
      match readTyped (start ++ line) with
      | .complete input => (ofLines [] rest).cons input
      | .quoteOpen longer => ofLines longer rest
      | .torn => ⟨[], .tornLine⟩

/-- The inputs in a text. -/
def ofText (typed : Text) : Script :=
  ofLines [] (Text.pieces typed)

end Script

/-! ### Conversations -/

/-- How a session ends. -/
inductive Ending
  /-- The user leaves. -/
  | left
  /-- There are no more inputs. -/
  | interrupted (interruption : Interruption)
  deriving DecidableEq, Repr

/-- What is told at the end of a session. -/
def Ending.events : Ending → List Event
  | .interrupted .endOfText => [.inputEnded]
  | .left | .interrupted .tornLine => []

/-- All that is told in a session, and how it ends. -/
structure Conversation where
  events : List Event
  ending : Ending
  deriving DecidableEq, Repr

/-- A conversation about a program with some answers. -/
def Conversation.ofTurns (path : String) (interruption : Interruption)
    (turns : List Turn) : Conversation :=
  let ending := if turns.any Turn.isOver then .left else .interrupted interruption
  ⟨.opened path :: turns.flatMap Turn.events ++ ending.events, ending⟩

/-- The conversation in a session with given inputs. -/
def converse (conditions : Conditions) (session : Session) (script : Script) :
    Option Conversation :=
  (session.turns conditions script.inputs).map
    (.ofTurns conditions.file.path script.interruption)

end Session
end AccumulatorMachine
