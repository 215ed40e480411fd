import AccumulatorMachine.Numeral.Decimal

/-!
# Log records

A record has a level, the spans it was made in, a message that may be empty, and
fields.  How verbose a log is decides which records and which spans it shows.  In
messages the characters that a terminal could take for commands are escaped.
-/

namespace AccumulatorMachine
namespace Log

/-- How detailed a record is. -/
inductive Level
  | error
  | warning
  | information
  | debugging
  | tracing
  deriving DecidableEq, Repr

/-- The most detailed records that a log shows. -/
inductive Verbosity
  | normal
  | detailed
  | full
  deriving DecidableEq, Repr

namespace Level

/-- The level in five columns. -/
def label : Level → String
  | error => "ERROR"
  | warning => " WARN"
  | information => " INFO"
  | debugging => "DEBUG"
  | tracing => "TRACE"

/-- Whether a log of some verbosity shows the level. -/
def isShown (verbosity : Verbosity) : Level → Bool
  | error | warning | information => true
  | debugging => verbosity != .normal
  | tracing => verbosity == .full

end Level

/-- An activity that records are made in. -/
inductive Span
  | assemble
  | load
  | run
  | runFor (steps : Nat)
  | step
  | copy (descriptor : Word)
  deriving DecidableEq, Repr

namespace Span

/-- The level at which a span is shown. -/
def level : Span → Level
  | step | copy _ => .debugging
  | _ => .information

/-- The name of a span and its parameter. -/
def text : Span → String
  | assemble => "assemble"
  | load => "load"
  | run => "run"
  | runFor steps => "run_for\x7bmax_steps=" ++ Nat.repr steps ++ "\x7d"
  | step => "step"
  | copy descriptor => "copy\x7bdescriptor=" ++ Decimal.ofWord descriptor ++ "\x7d"

end Span

/-- The ASCII control characters that start a command to a terminal or act on its
cursor: bell, backspace, form feed, escape and delete. -/
def isTerminalControl (c : Char) : Bool :=
  c == '\x07' || c == '\x08' || c == '\x0c' || c == '\x1b' || c == '\x7f'

/-- A character as it stands in a message. -/
def escapedChar (c : Char) : List Char :=
  let digits := Nat.toDigits 16 c.toNat
  if isTerminalControl c then
    ['\\', 'x'] ++ List.replicate (2 - digits.length) '0' ++ digits
  else if 0x80 ≤ c.toNat ∧ c.toNat ≤ 0x9F then
    ['\\', 'u', '\x7b'] ++ digits ++ ['\x7d']
  else
    [c]

/-- A message in which nothing acts on a terminal. -/
def escaped (message : String) : String :=
  String.ofList (message.toList.flatMap escapedChar)

/-- One entry of a log. -/
structure Record where
  level : Level
  spans : List Span
  message : String
  fields : List (String × String)
  deriving DecidableEq, Repr

namespace Record

/-- The names of the shown spans, each but the last followed by a colon. -/
def spanText (record : Record) (verbosity : Verbosity) : String :=
  let shown := record.spans.filter fun span => span.level.isShown verbosity
  if shown.isEmpty then "" else String.intercalate ":" (shown.map Span.text) ++ ": "

/-- The message and then the fields, with spaces between them. -/
def body (record : Record) : String :=
  let fields := record.fields.map fun field => field.1 ++ "=" ++ field.2
  String.intercalate " "
    (if record.message.isEmpty then fields else escaped record.message :: fields)

/-- The line of a record, if a log of some verbosity shows it. -/
def line? (record : Record) (verbosity : Verbosity) : Option String :=
  if record.level.isShown verbosity then
    some (record.level.label ++ " " ++ record.spanText verbosity ++ record.body)
  else
    none

end Record

/-- A truth value in a field. -/
def ofBool (truth : Bool) : String :=
  if truth then "true" else "false"

end Log
end AccumulatorMachine
