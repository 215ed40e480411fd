import AccumulatorMachine.Text.Blank

/-!
# What a terminal shows of a text

A terminal acts on control characters and on escape sequences instead of
showing them.  Among the ASCII control characters only white space counts as
shown, and it is shown inside a sequence too, where it breaks the sequence off.
Characters outside ASCII are not shown inside a sequence.
-/

namespace AccumulatorMachine
namespace Text

/-- What a terminal is reading. -/
inductive TerminalMode
  /-- Text to be shown. -/
  | plain
  /-- The characters right after an escape character. -/
  | escape
  /-- What follows an intermediate character after an escape character. -/
  | intermediate
  /-- The parameters of a control sequence, up to a letter. -/
  | control
  /-- The start of a device control string. -/
  | deviceEntry
  /-- The parameters of a device control string. -/
  | deviceParameters
  /-- What follows an intermediate character of a device control string. -/
  | deviceIntermediate
  /-- A string for the terminal itself, up to a terminator. -/
  | string
  /-- A command to the operating system, up to a bell. -/
  | command
  deriving DecidableEq, Repr

/-- Intermediate characters of a sequence, from the space to the slash. -/
def isIntermediate (c : Char) : Bool :=
  ' ' ≤ c && c ≤ '/'

/-- Parameter characters of a sequence: digits, colons, semicolons and the marks
of private parameters. -/
def isParameter (c : Char) : Bool :=
  '0' ≤ c && c ≤ '?'

/-- The private marks among the parameter characters. -/
def isPrivate (c : Char) : Bool :=
  '<' ≤ c && c ≤ '?'

/-- Characters that end a control sequence. -/
def isFinal (c : Char) : Bool :=
  '@' ≤ c && c ≤ '~'

/-- Whether one of the bytes of a character after the first, in UTF-8, is the
string terminator `9C`. -/
def holdsTerminator (c : Char) : Bool :=
  decide (0x80 ≤ c.toNat) && c.toNat % 64 == 0x1C ||
    decide (0x800 ≤ c.toNat) && c.toNat / 64 % 64 == 0x1C ||
    decide (0x10000 ≤ c.toNat) && c.toNat / 4096 % 64 == 0x1C

/-- The mode after an escape character and a character. -/
def afterEscape (c : Char) : TerminalMode :=
  if c = '[' then .control
  else if c = ']' then .command
  else if c = 'P' then .deviceEntry
  else if c = 'X' || c = '^' || c = '_' then .string
  else if isIntermediate c then .intermediate
  else if isParameter c || isFinal c then .plain
  else .escape

namespace TerminalMode

/-- The mode after a character that is not shown. -/
def next (mode : TerminalMode) (c : Char) : TerminalMode :=
  match mode with
  | plain => plain
  | escape => afterEscape c
  | intermediate => if isParameter c || isFinal c then plain else intermediate
  | control => if isFinal c then plain else control
  | deviceEntry =>
      if isIntermediate c then deviceIntermediate
      else if isParameter c then deviceParameters
      else if isFinal c then string
      else deviceEntry
  | deviceParameters =>
      if isIntermediate c then deviceIntermediate
      else if isPrivate c || isFinal c then string
      else deviceParameters
  | deviceIntermediate =>
      if isParameter c || isFinal c then string else deviceIntermediate
  | string => if holdsTerminator c then plain else string
  | command => if c = '\x07' then plain else command

/-- Whether white space is shown and breaks the mode off. -/
def isBrokenOff : TerminalMode → Bool
  | plain | escape | intermediate | control => true
  | deviceEntry | deviceParameters | deviceIntermediate | string | command => false

end TerminalMode

/-- An ASCII control character. -/
def isControl (c : Char) : Bool :=
  decide (c.toNat < 0x20) || c.toNat == 0x7F

/-- The ASCII control characters that are white space to a terminal. -/
def isSpacing (c : Char) : Bool :=
  c == '\t' || c == '\n' || c == '\x0c' || c == '\r'

/-- Whether a character is shown in some mode. -/
def isShown (mode : TerminalMode) (c : Char) : Bool :=
  if isControl c then isSpacing c && mode.isBrokenOff else mode == .plain

/-- The characters of a text that are shown in some mode. -/
def visibleFrom (mode : TerminalMode) : Text → Text
  | [] => []
  | c :: rest =>
      if c = '\x1b' then visibleFrom .escape rest
      else if c = '\x18' || c = '\x1a' then visibleFrom .plain rest
      else if isShown mode c then c :: visibleFrom .plain rest
      else visibleFrom (mode.next c) rest

/-- The characters of a text that a terminal shows. -/
def visible (text : Text) : Text :=
  visibleFrom .plain text

end Text
end AccumulatorMachine
