import AccumulatorMachine.CommandLine.Path
import AccumulatorMachine.Program.Assembly
import AccumulatorMachine.Program.Loading

/-!
# Diagnostics

A diagnostic says what is wrong with a text, where, and what to do about it.
Its place is counted in line breaks, of which a lone carriage return is one,
so it can be further down than the number of the line at fault.
-/

namespace AccumulatorMachine
namespace CommandLine

/-- A diagnostic about a file. -/
structure Diagnostic where
  code : String
  title : String
  path : Path
  /-- The line that the file is shown from, if it has the line at fault. -/
  line : Option Nat
  help : Option String
  deriving DecidableEq, Repr

namespace Diagnostic

/-- The line on which a reader sees the start of a line of a text. -/
def shownLine? (source : Text) (number : Nat) : Option Nat :=
  (Text.lineSpan source number).map fun _ =>
    Text.breakCount ((Text.pieces source).take (number - 1)).flatten + 1

/-- The diagnostic about a source text. -/
def ofAssemblyError (path : Path) (source : Text) (error : AssemblyError) : Diagnostic where
  code := error.fault.code
  title := "Failed to assemble program"
  path := path
  line := shownLine? source error.line
  help := error.fault.help

/-- The diagnostic about an executable text. -/
def ofLoadError (path : Path) (executable : Text) (error : LoadError) : Diagnostic where
  code := error.fault.code
  title := "Failed to load program"
  path := path
  line := shownLine? executable error.line
  help := error.fault.help

/-- The lines of a diagnostic. -/
def lines (diagnostic : Diagnostic) : List String :=
  let place := diagnostic.line.toList.map fun line =>
    "╭─[" ++ diagnostic.path.shown ++ ":" ++ Nat.repr line ++ ":1]"
  let help := diagnostic.help.toList.map fun help => "help: " ++ help
  [diagnostic.code, "× " ++ diagnostic.title] ++ place ++ help

end Diagnostic
end CommandLine
end AccumulatorMachine
