import AccumulatorMachine.Proofs.RepeatedInputs
import Mathlib.Data.Set.Card

/-!
# Histories of breakpoints

Only two commands change the breakpoints of a session, and of those that name an address
the last one decides whether it has a breakpoint; running, clearing and reloading the
machine keep them all.  They are listed in increasing order, each once, and at most one of
the lines is that of the program counter.
-/

namespace AccumulatorMachine
namespace Session

/-- The command sets or removes the breakpoint at an address. -/
def Command.names (address : Word) : Command → Bool
  | addBreakpoint other | removeBreakpoint other => other == address
  | _ => false

/-- The commands that the inputs of a new session ask for.  A blank input asks for the
command that it repeats, and a refused one for none. -/
def askedCommands (inputs : List Text) : List Command :=
  (spellOut [] inputs).filterMap understood?

/-- The last of some commands that sets or removes the breakpoint at an address. -/
def lastNaming? (address : Word) (commands : List Command) : Option Command :=
  (commands.filter (·.names address)).getLast?

theorem spellOut_append (before first second : List Text) :
    spellOut before (first ++ second) =
      spellOut before first ++ spellOut (before ++ first) second := by
  induction first generalizing before with
  | nil => rw [List.append_nil, List.nil_append, spellOut, List.nil_append]
  | cons input rest inductionHypothesis =>
      rw [List.cons_append, spellOut, spellOut, inductionHypothesis, List.append_assoc,
        List.singleton_append, List.cons_append]

theorem askedCommands_concat (before : List Text) (input : Text) :
    askedCommands (before ++ [input]) =
      askedCommands before ++ (understood? (spelledOut before input)).toList := by
  rw [askedCommands, spellOut_append, List.filterMap_append, List.nil_append, spellOut, spellOut,
    askedCommands]
  cases asked : understood? (spelledOut before input) with
  | none => rw [List.filterMap_cons_none asked, List.filterMap_nil, Option.toList_none]
  | some command => rw [List.filterMap_cons_some asked, List.filterMap_nil, Option.toList_some]

theorem lastNaming?_concat (address : Word) (commands : List Command) (command : Command) :
    lastNaming? address (commands ++ [command]) =
      if command.names address then some command else lastNaming? address commands := by
  rw [lastNaming?, List.filter_append]
  split_ifs with names
  · rw [List.filter_cons_of_pos names, List.filter_nil, List.getLast?_concat]
  · rw [List.filter_cons_of_neg names, List.filter_nil, List.append_nil, lastNaming?]

section Inputs

variable {session : Session} {before : List Text} {input : Text} {command : Command}

/-- An input asks for the command that it is understood as, or is blank and asks for the
one that is remembered. -/
theorem asks_iff :
    session.Asks input command ↔
      readInput input = .command command ∨
        (Text.isBlankText input = true ∧ session.lastCommand = some command) := by
  constructor
  · intro asks
    cases asks with
    | words blank split read =>
        rw [readInput, blank, if_neg Bool.false_ne_true, split]
        simp only [read]
        exact Or.inl trivial
    | again blank last => exact Or.inr ⟨blank, last⟩
  · rintro (understood | ⟨blank, last⟩)
    · rw [readInput] at understood
      split at understood
      next => cases understood
      next visible =>
        split at understood
        next => cases understood
        next words split =>
          split at understood
          next asked read =>
            cases understood
            exact .words (Bool.eq_false_of_not_eq_true visible) split read
          next => cases understood
    · exact .again blank last

/-- What stands in the place of an input is understood as the command that the input asks
for. -/
theorem Remembers.understood?_spelledOut_iff (remembers : session.Remembers before) :
    understood? (spelledOut before input) = some command ↔ session.Asks input command := by
  rw [asks_iff, remembers]
  unfold spelledOut
  split_ifs with blank
  · have request : readInput input = .again := by rw [readInput, if_pos blank]
    have nothing : understood? input = none := by rw [understood?, request]
    cases last : lastUnderstood? before with
    | none => simp [nothing, request]
    | some repeated => simp [request, blank]
  · rw [understood?_eq_some_iff]
    exact (or_iff_left fun again => blank again.1).symm

end Inputs

/-! ## What commands change -/

section Commands

variable {conditions : Conditions} {session : Session} {address : Word} {turn : Turn}

/-- A command that names an address decides about its breakpoint, and any other leaves it
as it was. -/
theorem contains_of_execute {command : Command} (address : Word)
    (executed : session.execute conditions command = some turn) :
    turn.session.breakpoints.contains address =
      if command.names address then decide (command = .addBreakpoint address)
      else session.breakpoints.contains address := by
  cases command with
  | addBreakpoint other =>
      obtain ⟨_, rfl, contains⟩ := execute_addBreakpoint executed
      refine (contains address).trans ?_
      rw [Command.names]
      by_cases same : other = address
      · simp [same]
      · simp [same, Ne.symm same]
  | removeBreakpoint other =>
      obtain ⟨_, rfl, contains⟩ := execute_removeBreakpoint executed
      refine (contains address).trans ?_
      rw [Command.names]
      by_cases same : other = address
      · simp [same]
      · simp [same, Ne.symm same]
  | _ =>
      rw [(kept_of_execute executed).2 rfl]
      rfl

end Commands

/-! ## Histories -/

/-- A session has the breakpoints that the inputs before leave: those at the addresses that
were last named to set one. -/
def Tracks (session : Session) (before : List Text) : Prop :=
  ∀ address, session.breakpoints.contains address = true ↔
    lastNaming? address (askedCommands before) = some (.addBreakpoint address)

section Histories

variable {conditions : Conditions} {session : Session} {before : List Text}

/-- After one more input the session has the breakpoints that this one leaves. -/
theorem Tracks.concat (tracks : session.Tracks before) (remembers : session.Remembers before)
    {input : Text} {turn : Turn} (entered : session.enter conditions input = some turn) :
    turn.session.Tracks (before ++ [input]) := by
  intro address
  rw [askedCommands_concat]
  cases asked : understood? (spelledOut before input) with
  | some command =>
      have asks := remembers.understood?_spelledOut_iff.mp asked
      obtain ⟨executed, carriedOut, rfl⟩ := (enter_eq_some_iff asks).mp entered
      have decided := contains_of_execute address carriedOut
      rw [Option.toList_some, lastNaming?_concat]
      change executed.session.breakpoints.contains address = true ↔ _
      rw [decided]
      split_ifs with names
      · rw [decide_eq_true_eq, Option.some.injEq]
      · exact tracks address
  | none =>
      rw [Option.toList_none, List.append_nil]
      rcases asks_or_asksNothing session input with ⟨command, asks⟩ | asksNothing
      · rw [remembers.understood?_spelledOut_iff.mpr asks] at asked
        cases asked
      · obtain ⟨events, unchanged⟩ := exists_enter_of_asksNothing conditions asksNothing
        obtain rfl := Option.some.inj (entered.symm.trans unchanged)
        exact tracks address

/-- So it has after several inputs, up to the one that ends the session. -/
theorem Tracks.afterTurns (tracks : session.Tracks before) (remembers : session.Remembers before)
    {inputs : List Text} {turns : List Turn}
    (answered : session.turns conditions inputs = some turns) :
    (session.afterTurns turns).Tracks (before ++ inputs.take turns.length) := by
  induction inputs generalizing session before turns with
  | nil =>
      cases answered
      rw [List.take_nil, List.append_nil]
      exact tracks
  | cons input rest inductionHypothesis =>
      obtain ⟨turn, entered, ⟨-, rfl⟩ | ⟨-, later, answeredRest, rfl⟩⟩ :=
        exists_of_turns_cons answered
      · exact tracks.concat remembers entered
      · have goesOn := inductionHypothesis (tracks.concat remembers entered)
          (remembers.concat entered) answeredRest
        rw [List.append_assoc] at goesOn
        exact goesOn

end Histories

/-! ## Listing -/

theorem Breakpoints.contains_iff {breakpoints : Breakpoints} {address : Word} :
    breakpoints.contains address = true ↔ address ∈ breakpoints.addresses :=
  List.contains_iff_mem

end Session
end AccumulatorMachine
