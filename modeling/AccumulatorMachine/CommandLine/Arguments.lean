import AccumulatorMachine.CommandLine.Path
import AccumulatorMachine.Log.Record
import AccumulatorMachine.Numeral.Decimal

/-!
# Arguments

The arguments of the command line name a task and the file it works on.
Options may stand anywhere after the task, those that hold for all tasks also
before it.  One letter options can be written together behind one hyphen, and
after a word `--` no word is an option.
-/

namespace AccumulatorMachine
namespace CommandLine

/-- What the command line can be asked to do. -/
inductive Task
  | assemble (input : Path) (output : Option Path)
  | run (input : Path) (limit : Option Nat)
  | examine (input : Path)
  | dump (input : Path)
  deriving DecidableEq, Repr

/-- A task and how much of its log is shown. -/
structure Invocation where
  verbosity : Log.Verbosity
  task : Task
  deriving DecidableEq, Repr

/-- The meaning of an option. -/
inductive Flag
  | verbose
  | colorless
  | interactive
  | output
  | limit
  deriving DecidableEq, Repr

namespace Flag

/-- The letter of an option. -/
def letter : Flag → Char
  | verbose => 'v'
  | colorless => 'C'
  | interactive => 'i'
  | output => 'o'
  | limit => 'm'

/-- The name of an option. -/
def name : Flag → String
  | verbose => "verbose"
  | colorless => "no-color"
  | interactive => "interactive"
  | output => "output"
  | limit => "max-steps"

/-- Whether a value belongs to an option. -/
def takesValue : Flag → Bool
  | output | limit => true
  | _ => false

/-- Whether an option may be repeated. -/
def mayRepeat : Flag → Bool
  | verbose => true
  | _ => false

/-- The options of every task. -/
def common : List Flag := [verbose, colorless]

end Flag

/-- One part of a command line. -/
inductive Part
  | flag (option : Flag)
  | valued (option : Flag) (value : Text)
  | operand (token : Text)
  deriving DecidableEq, Repr

namespace Part

/-- The option of a part. -/
def flag? : Part → Option Flag
  | flag option | valued option _ => some option
  | operand _ => none

/-- The operand that a part is. -/
def operand? : Part → Option Text
  | operand token => some token
  | _ => none

end Part

/-- Parts, and perhaps an option whose value is the next word. -/
abbrev Reading := List Part × Option Flag

/-- Read letters behind one hyphen.  What follows the letter of an option that
takes a value is the value, without an equals sign. -/
def readLetters (flags : List Flag) : Text → Option Reading
  | [] => some ([], none)
  | letter :: rest =>
      match flags.find? fun flag => flag.letter == letter with
      | none => none
      | some flag =>
          if flag.takesValue then
            match rest with
            | [] => some ([], some flag)
            | '=' :: value => some ([.valued flag value], none)
            | value => some ([.valued flag value], none)
          else
            (readLetters flags rest).map fun reading => (.flag flag :: reading.1, reading.2)

/-- Read what stands behind two hyphens. -/
def readName (flags : List Flag) (content : Text) : Option Reading :=
  let name := content.takeWhile (· != '=')
  match flags.find? fun flag => flag.name.toList == name with
  | none => none
  | some flag =>
      match flag.takesValue, content.drop name.length with
      | true, [] => some ([], some flag)
      | true, _ :: value => some ([.valued flag value], none)
      | false, [] => some ([.flag flag], none)
      | false, _ => none

/-- Read one word. -/
def readToken (flags : List Flag) : Text → Option Reading
  | '-' :: '-' :: content => readName flags content
  | ['-'] => some ([.operand ['-']], none)
  | '-' :: letters => readLetters flags letters
  | token => some ([.operand token], none)

/-- Whether a word can be the value of the option before it. -/
def isValue (token : Text) : Bool :=
  token == ['-'] || token.head? != some '-'

/-- Read words, given the option whose value is the next one. -/
def readTokens (flags : List Flag) : Option Flag → List Text → Option (List Part)
  | none, [] => some []
  | some _, [] => none
  | some flag, token :: rest =>
      if isValue token then
        (readTokens flags none rest).map (.valued flag token :: ·)
      else
        none
  | none, token :: rest =>
      if token = ['-', '-'] then
        some (rest.map .operand)
      else
        match readToken flags token with
        | none => none
        | some (parts, waiting) => (readTokens flags waiting rest).map (parts ++ ·)

/-- Whether no option is repeated that may not be. -/
def respectsRepetition (parts : List Part) : Bool :=
  let flags := (parts.filterMap Part.flag?).filter fun flag => !flag.mayRepeat
  flags.all fun flag => flags.count flag == 1

/-- How often an option occurs. -/
def occurrences (flag : Flag) (parts : List Part) : Nat :=
  (parts.filterMap Part.flag?).count flag

/-- The value of an option. -/
def valueOf? (flag : Flag) (parts : List Part) : Option Text :=
  parts.findSome? fun
    | .valued other value => if other = flag then some value else none
    | _ => none

/-- How detailed the log is for a number of requests. -/
def verbosityOf : Nat → Log.Verbosity
  | 0 => .normal
  | 1 => .detailed
  | _ => .full

/-- The task that a word names: the options that it adds to the common ones, and
the task for the parts after the word. -/
def taskOf? (name : Text) : Option (List Flag × (Path → List Part → Option Task)) :=
  if name = "assemble".toList then
    some ([.output], fun input parts =>
      some (.assemble input ((valueOf? .output parts).map Path.mk)))
  else if name = "run".toList then
    some ([.interactive, .limit], fun input parts =>
      match (valueOf? .limit parts).map Decimal.readCount with
      | some (.error _) => none
      | limit =>
          if occurrences .interactive parts = 0 then
            some (.run input (limit.bind Except.toOption))
          else
            some (.examine input))
  else if name = "dump".toList then
    some ([], fun input _ => some (.dump input))
  else
    none

/-- Read the words after the name of a task, given how often more detail was
asked for before it. -/
def readTask (requests : Nat) (name : Text) (tokens : List Text) : Option Invocation :=
  match taskOf? name with
  | none => none
  | some (flags, task) =>
      match readTokens (Flag.common ++ flags) none tokens with
      | none => none
      | some parts =>
          let own := occurrences .verbose parts
          match parts.filterMap Part.operand?, respectsRepetition parts with
          | [input], true =>
              (task ⟨input⟩ parts).map fun task =>
                ⟨verbosityOf (if own = 0 then requests else own), task⟩
          | _, _ => none

/-- Read words up to the name of a task, after some common options. -/
def readFrom (before : List Part) : List Text → Option Invocation
  | [] => none
  | token :: rest =>
      if token = ['-', '-'] then
        none
      else
        match readToken Flag.common token with
        | none => none
        | some ([.operand name], _) =>
            if respectsRepetition before then
              readTask (occurrences .verbose before) name rest
            else
              none
        | some (parts, _) => readFrom (before ++ parts) rest

/-- Read the arguments of the command line. -/
def readArguments (arguments : List Text) : Option Invocation :=
  readFrom [] arguments

end CommandLine
end AccumulatorMachine
