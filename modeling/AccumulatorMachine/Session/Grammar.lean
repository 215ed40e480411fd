import AccumulatorMachine.Numeral.Hexadecimal
import AccumulatorMachine.Session.Command
import AccumulatorMachine.Text.Visible

/-!
# The grammar of session commands

A verb has a name, perhaps other names, parameters, and verbs of its own, its
topics.  A verb with topics also understands `help`.  A topic may be named by
any beginning of its name that begins no other name.  A word that starts with a
hyphen asks for help or is refused, unless a word `--` comes before it.

A parameter is only checked once the word after it turns out to be acceptable
as another parameter or as a request for help, so of two wrong words it is not
always the first one that is reported.
-/

namespace AccumulatorMachine
namespace Session

/-- How the word of a parameter is read. -/
inductive NumberForm
  | hexadecimal
  | decimal
  | count
  deriving DecidableEq, Repr

/-- The value of a parameter. -/
inductive Value
  | word (value : Word)
  | count (value : Nat)
  deriving DecidableEq, Repr

/-- Read the word of a parameter, or say why it is wrong. -/
def NumberForm.read (form : NumberForm) (token : Text) : Except String Value :=
  match form with
  | .hexadecimal =>
      match Hexadecimal.read token with
      | .ok value => .ok (.word value)
      | .error error => .error error.message
  | .decimal =>
      match Decimal.readWord token with
      | .ok value => .ok (.word value)
      | .error reason => .error reason.message
  | .count =>
      match Decimal.readCount token with
      | .ok value => .ok (.count value)
      | .error reason => .error reason.message

/-- A parameter of a verb. -/
structure Parameter where
  /-- The parameter in messages: in angle brackets when it is required, else in
  square brackets. -/
  label : String
  form : NumberForm
  deriving DecidableEq, Repr

/-- A verb of the command language. -/
structure Verb where
  name : String
  otherNames : List String
  about : String
  parameters : List Parameter
  topics : List Verb
  /-- The command that the verb and its parameters denote, unless a parameter is
  missing. -/
  command? : List Value → Option Command

/-- Why a line is no command.  A request for help is one of the reasons. -/
inductive Rejection
  | unrecognizedVerb (token : Text)
  | unexpectedArgument (shown : Text)
  | unexpectedValue (value : Text)
  | invalidValue (token : Text) (label reason : String)
  | missingArguments
  | help (about : String)
  deriving DecidableEq, Repr

/-- A word of the user between single quotes, as far as a terminal shows it. -/
def cited (token : Text) : String :=
  "'" ++ String.ofList (Text.visible token) ++ "'"

/-- The first line of what is said about a rejection. -/
def Rejection.message : Rejection → String
  | .unrecognizedVerb token => "error: unrecognized subcommand " ++ cited token
  | .unexpectedArgument shown => "error: unexpected argument " ++ cited shown ++ " found"
  | .unexpectedValue value =>
      "error: unexpected value " ++ cited value ++
        " for '--help' found; no more were expected"
  | .invalidValue token label reason =>
      "error: invalid value " ++ cited token ++ " for '" ++ label ++ "': " ++ reason
  | .missingArguments => "error: the following required arguments were not provided:"
  | .help about => about

/-- What `help` is about. -/
def aboutHelp : String :=
  "Print this message or the help of the given subcommand(s)"

/-- What the first word of a line can choose: one of the topics, or help. -/
inductive Choice
  | topic (verb : Verb)
  | help

namespace Verb

/-- Whether a verb goes by a name. -/
def isCalled (verb : Verb) (token : Text) : Bool :=
  verb.name.toList == token || verb.otherNames.any fun name => name.toList == token

/-- Whether a name of the verb begins with a text. -/
def startsWith (verb : Verb) (token : Text) : Bool :=
  token.isPrefixOf verb.name.toList ||
    verb.otherNames.any fun name => token.isPrefixOf name.toList

/-- The topic with a given name. -/
def topic? (verb : Verb) (token : Text) : Option Verb :=
  verb.topics.find? fun topic => topic.isCalled token

/-- What a full name chooses. -/
def exactChoice? (verb : Verb) (token : Text) : Option Choice :=
  match verb.topic? token with
  | some topic => some (.topic topic)
  | none =>
      if !verb.topics.isEmpty && token == "help".toList then some .help else none

/-- What a word chooses: the only name that begins with it, else the name that
it is. -/
def choice? (verb : Verb) (token : Text) : Option Choice :=
  let help := !verb.topics.isEmpty && token.isPrefixOf "help".toList
  match verb.topics.filter (fun topic => topic.startsWith token), help with
  | [topic], false => some (.topic topic)
  | [], true => some .help
  | _, _ => verb.exactChoice? token

/-- The answer to `help` followed by some names, which are not shortened. -/
def helpOn (verb : Verb) : List Text → Rejection
  | [] => .help verb.about
  | token :: rest =>
      match verb.exactChoice? token with
      | some (.topic topic) => topic.helpOn rest
      | some .help =>
          match rest with
          | [] => .help aboutHelp
          | next :: _ => .unrecognizedVerb next
      | none => .unrecognizedVerb token

end Verb

/-- A verb and what was read after it so far. -/
structure Reading where
  verb : Verb
  /-- The parameters that were checked. -/
  values : List Value
  /-- The parameter that is still to be checked. -/
  pending : Option (Parameter × Text)
  /-- Whether a word `--` was read. -/
  escaped : Bool

namespace Reading

/-- Nothing read after a verb. -/
def start (verb : Verb) : Reading :=
  ⟨verb, [], none, false⟩

/-- Check the pending parameter. -/
def settle (reading : Reading) : Except Rejection Reading :=
  match reading.pending with
  | none => .ok reading
  | some (parameter, token) =>
      match parameter.form.read token with
      | .ok value => .ok { reading with values := reading.values ++ [value], pending := none }
      | .error reason => .error (.invalidValue token parameter.label reason)

/-- The number of parameters read. -/
def count (reading : Reading) : Nat :=
  reading.values.length + reading.pending.toList.length

/-- A request for help, once the pending parameter is right. -/
def askHelp (reading : Reading) : Rejection :=
  match reading.settle with
  | .ok settled => .help settled.verb.about
  | .error rejection => rejection

/-- Take a word as the next parameter. -/
def takeParameter (reading : Reading) (token : Text) : Except Rejection Reading :=
  match reading.verb.parameters[reading.count]? with
  | some parameter =>
      reading.settle.map fun settled => { settled with pending := some (parameter, token) }
  | none =>
      if reading.verb.topics.isEmpty then
        .error (.unexpectedArgument token)
      else if reading.escaped && (reading.verb.choice? token).isSome then
        .error (.unexpectedArgument token)
      else
        .error (.unrecognizedVerb token)

/-- Refuse a word that starts with two hyphens, or give help. -/
def refuseLong (reading : Reading) (content : Text) : Rejection :=
  let name := content.takeWhile (· != '=')
  if name = "help".toList then
    match content.drop name.length with
    | [] => reading.askHelp
    | _ :: value => .unexpectedValue value
  else
    .unexpectedArgument ('-' :: '-' :: name)

/-- Refuse a word that starts with one hyphen, or give help. -/
def refuseShort (reading : Reading) (letter : Char) : Rejection :=
  if letter = 'h' then reading.askHelp else .unexpectedArgument ['-', letter]

/-- Read a word that chooses no topic. -/
def takeWord (reading : Reading) (token : Text) : Except Rejection Reading :=
  if reading.escaped then
    reading.takeParameter token
  else
    match token with
    | ['-', '-'] => .ok { reading with escaped := true }
    | '-' :: '-' :: content => .error (reading.refuseLong content)
    | '-' :: letter :: _ => .error (reading.refuseShort letter)
    | _ => reading.takeParameter token

/-- The command that was read.  A verb that has topics and denotes no command
itself answers with help. -/
def finish (reading : Reading) : Except Rejection Command :=
  match reading.settle with
  | .error rejection => .error rejection
  | .ok settled =>
      match settled.verb.command? settled.values with
      | some command => .ok command
      | none =>
          if settled.verb.topics.isEmpty then
            .error .missingArguments
          else
            .error (.help settled.verb.about)

/-- Read the remaining words of a line. -/
def readWords (reading : Reading) : List Text → Except Rejection Command
  | [] => reading.finish
  | token :: rest =>
      match if reading.escaped then none else reading.verb.choice? token with
      | some (.topic topic) => (start topic).readWords rest
      | some .help => .error (reading.verb.helpOn rest)
      | none =>
          match reading.takeWord token with
          | .ok next => next.readWords rest
          | .error rejection => .error rejection

end Reading

/-! ### The command language -/

/-- A verb without parameters. -/
def plainVerb (name about : String) (command : Command) : Verb where
  name := name
  otherNames := []
  about := about
  parameters := []
  topics := []
  command? _ := some command

/-- A verb with one address in decimal. -/
def addressVerb (name about : String) (command : Word → Command) : Verb where
  name := name
  otherNames := []
  about := about
  parameters := [⟨"<ADDRESS>", .decimal⟩]
  topics := []
  command?
    | [.word address] => some (command address)
    | _ => none

/-- The verb `step`, with a count that is one by default. -/
def stepVerb : Verb where
  name := "step"
  otherNames := ["s"]
  about := "Execute the next instructions"
  parameters := [⟨"[NUMBER]", .count⟩]
  topics := []
  command?
    | [.count count] => some (.step count)
    | _ => some (.step 1)

/-- The verb `memory`, with an address and a count that is one by default. -/
def memoryVerb : Verb where
  name := "memory"
  otherNames := []
  about := "Show the content of a block in memory"
  parameters := [⟨"<ADDRESS>", .hexadecimal⟩, ⟨"[NUMBER]", .decimal⟩]
  topics := []
  command?
    | [.word address] => some (.memory address 1)
    | [.word address, .word count] => some (.memory address count)
    | _ => none

/-- The verb `set`, with an address and a value. -/
def setVerb : Verb where
  name := "set"
  otherNames := []
  about := "Set a value in memory"
  parameters := [⟨"<ADDRESS>", .hexadecimal⟩, ⟨"<VALUE>", .hexadecimal⟩]
  topics := []
  command?
    | [.word address, .word value] => some (.set address value)
    | _ => none

/-- The verb `list`, with a count that is ten by default. -/
def listVerb : Verb where
  name := "list"
  otherNames := []
  about := "Show the next few instructions"
  parameters := [⟨"[NUMBER]", .decimal⟩]
  topics := []
  command?
    | [.word count] => some (.list count)
    | _ => some (.list 10)

/-- The verb `info`, which may be followed by a topic. -/
def infoVerb : Verb where
  name := "info"
  otherNames := []
  about := "Show informations about the current debugging session"
  parameters := []
  topics := [plainVerb "breakpoints" "List active breakpoints" (.info (some .breakpoints))]
  command? _ := some (.info none)

/-- All verbs, as topics of one that has no name. -/
def language : Verb where
  name := ""
  otherNames := []
  about := "Interactive mode commands"
  parameters := []
  topics :=
    [stepVerb,
      plainVerb "continue" "Run the program until it halts or reaches a breakpoint" .resume,
      plainVerb "registers" "Show the state of registers" .registers,
      memoryVerb,
      setVerb,
      listVerb,
      addressVerb "break" "Set a breakpoint" .addBreakpoint,
      addressVerb "unbreak" "Remove a breakpoint" .removeBreakpoint,
      infoVerb,
      plainVerb "reload" "Clear the machine and load the program again" .reload,
      plainVerb "clear" "Clear the machine, removing the program" .clear,
      plainVerb "exit" "Exit the emulator" .exit]
  command? _ := none

/-- The command that the words of a line denote. -/
def readCommand (words : List Text) : Except Rejection Command :=
  (Reading.start language).readWords words

end Session
end AccumulatorMachine
