import AccumulatorMachine.CommandLine.Event

/-!
# Reports

A part of a task reports what it told its user and what came of it.  Parts in
sequence tell in sequence, up to the first that fails.
-/

namespace AccumulatorMachine
namespace CommandLine

/-- What was told, and the result or the failure. -/
structure Report (α : Type) where
  events : List Event
  result : Except Failure α

namespace Report

variable {α β : Type}

/-- A result without a word. -/
def done (value : α) : Report α :=
  ⟨[], .ok value⟩

/-- Words without a result. -/
def tell (events : List Event) : Report Unit :=
  ⟨events, .ok ()⟩

/-- A result, or a failure. -/
def ofExcept (result : Except Failure α) : Report α :=
  ⟨[], result⟩

/-- Go on with the result. -/
def andThen (report : Report α) (next : α → Report β) : Report β :=
  match report.result with
  | .ok value => ⟨report.events ++ (next value).events, (next value).result⟩
  | .error failure => ⟨report.events, .error failure⟩

instance : Monad Report where
  pure := done
  bind := andThen

/-- All that was told, a failure at the end. -/
def told (report : Report α) : List Event :=
  match report.result with
  | .ok _ => report.events
  | .error failure => report.events ++ [.failed failure]

end Report
end CommandLine
end AccumulatorMachine
