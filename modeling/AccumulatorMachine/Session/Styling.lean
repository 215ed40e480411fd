/-!
# Styling of the session

The prompt is bold and a hint is dim, by the escape sequences of terminals.
-/

namespace AccumulatorMachine
namespace Session

/-- A text between the sequence that selects a rendition and the one that
resets it. -/
def rendered (rendition : Nat) (text : String) : String :=
  "\x1b[" ++ Nat.repr rendition ++ "m" ++ text ++ "\x1b[0m"

/-- A hint as it is shown, dim. -/
def styledHint (hint : String) : String :=
  rendered 2 hint

/-- The prompt as it is shown, bold. -/
def styledPrompt (prompt : String) : String :=
  rendered 1 prompt

end Session
end AccumulatorMachine
