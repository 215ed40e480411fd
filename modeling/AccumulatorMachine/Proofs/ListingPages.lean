import AccumulatorMachine.Proofs.SessionFrames

/-!
# Pages of a listing

A listing goes on where the one before it ended.  Sums with natural numbers that saturate
still add up, so two listings show what one of both lengths shows, also at the highest
address.  Commands between the two that do not run or clear the machine change nothing
that the second one shows, unless they set or remove a breakpoint there.
-/

namespace AccumulatorMachine

/-- Saturating sums with natural numbers add up. -/
theorem Word.saturatingAdd_ofNat_add (word : Word) {first second : Nat}
    (fits : ((first + second : Nat) : Int) ≤ Word.highest) :
    Word.saturatingAdd word (Int32.ofNat (first + second)) =
      Word.saturatingAdd (Word.saturatingAdd word (Int32.ofNat first)) (Int32.ofNat second) := by
  have lower := Word.lowest_le_toInt word
  rw [← Int32.toInt_inj, Word.toInt_saturatingAdd, Word.toInt_saturatingAdd,
    Word.toInt_saturatingAdd, Word.toInt_ofNat_of_le fits, Word.toInt_ofNat_of_le (by omega),
    Word.toInt_ofNat_of_le (by omega)]
  omega

namespace Session

/-- The addresses that a listing shows from an address on. -/
def page (start : Word) (count : Nat) : List Word :=
  (List.range count).map fun distance => Word.saturatingAdd start (Int32.ofNat distance)

/-- The address where listing goes on after a number of lines. -/
def nextPage (session : Session) (count : Nat) : Word :=
  Word.saturatingAdd session.listStart (Int32.ofNat count)

/-- A page is split where the first part of it ends. -/
theorem page_add (start : Word) {first second : Nat}
    (fits : ((first + second : Nat) : Int) ≤ Word.highest) :
    page start (first + second) =
      page start first ++ page (Word.saturatingAdd start (Int32.ofNat first)) second := by
  rw [page, List.range_add, List.map_append, List.map_map]
  refine congrArg (page start first ++ ·) (List.map_congr_left fun distance member => ?_)
  have before := List.mem_range.mp member
  exact Word.saturatingAdd_ofNat_add start (by omega)

/-! ## What is kept between two pages -/

/-- A session lists some addresses as another one does, and goes on at the same place. -/
structure KeepsPage (shown : List Word) (session next : Session) : Prop where
  listPosition_eq : next.listPosition = session.listPosition
  codeLine_eq : ∀ address ∈ shown, next.codeLine address = session.codeLine address

/-- The command examines or sets cells, and lists nothing.  It sets and removes no
breakpoint at the addresses that are shown. -/
def Command.spares (shown : List Word) : Command → Bool
  | registers | memory _ _ | set _ _ | info _ => true
  | addBreakpoint address | removeBreakpoint address => !shown.contains address
  | step _ | resume | list _ | reload | clear | exit => false

/-- What is asked for spares the addresses that are shown, or is not understood. -/
def Request.spares (shown : List Word) : Request → Bool
  | .again => false
  | .unfinished | .rejected _ => true
  | .command asked => asked.spares shown

namespace KeepsPage

variable {shown : List Word} {session next last : Session}

theorem refl (shown : List Word) (session : Session) : KeepsPage shown session session :=
  ⟨rfl, fun _ _ => rfl⟩

theorem trans (first : KeepsPage shown session next) (second : KeepsPage shown next last) :
    KeepsPage shown session last :=
  ⟨second.listPosition_eq.trans first.listPosition_eq,
    fun address member => (second.codeLine_eq address member).trans
      (first.codeLine_eq address member)⟩

/-- A change of the breakpoints that is not on the page. -/
theorem of_breakpoints {breakpoints : Breakpoints}
    (same : ∀ address ∈ shown,
      breakpoints.contains address = session.breakpoints.contains address) :
    KeepsPage shown session { session with breakpoints } := by
  refine ⟨rfl, fun address member => ?_⟩
  rw [codeLine, codeLine, CodeLine.mk.injEq]
  exact ⟨rfl, rfl, rfl, same address member⟩

end KeepsPage

section Sparing

variable {conditions : Conditions} {shown : List Word} {session : Session} {command : Command}
  {turn : Turn}

/-- A command that spares the page keeps it, and the session goes on. -/
theorem keepsPage_of_execute (spares : command.spares shown = true)
    (executed : session.execute conditions command = some turn) :
    KeepsPage shown session turn.session ∧ turn.isOver = false := by
  cases command with
  | step | resume | list | reload | clear | exit => cases spares
  | registers | memory =>
      cases executed
      exact ⟨.refl shown session, rfl⟩
  | info topic =>
      cases topic with
      | none | some =>
          cases executed
          exact ⟨.refl shown session, rfl⟩
  | set address value =>
      by_cases inside : Memory.IsAddress address.toInt
      · obtain ⟨memory, written, -⟩ := session.machine.memory.exists_write value inside
        rw [execute_set_of_write conditions session written] at executed
        cases executed
        exact ⟨⟨rfl, fun _ _ => rfl⟩, rfl⟩
      · rw [execute_set_of_outside conditions session value inside] at executed
        cases executed
        exact ⟨.refl shown session, rfl⟩
  | addBreakpoint address =>
      have apart : address ∉ shown := by simpa [Command.spares] using spares
      obtain ⟨breakpoints, rfl, contains⟩ := execute_addBreakpoint executed
      refine ⟨.of_breakpoints fun other member => ?_, rfl⟩
      rw [contains, beq_false_of_ne (ne_of_mem_of_not_mem member apart), Bool.false_or]
  | removeBreakpoint address =>
      have apart : address ∉ shown := by simpa [Command.spares] using spares
      obtain ⟨breakpoints, rfl, contains⟩ := execute_removeBreakpoint executed
      refine ⟨.of_breakpoints fun other member => ?_, rfl⟩
      rw [contains, bne_iff_ne.mpr (ne_of_mem_of_not_mem member apart), Bool.true_and]

/-- An input that spares the page is answered, and the session goes on. -/
theorem exists_enter_of_spares (conditions : Conditions) (session : Session) {input : Text}
    (spares : (readInput input).spares shown = true) :
    ∃ turn, session.enter conditions input = some turn ∧ KeepsPage shown session turn.session ∧
      turn.isOver = false := by
  rw [enter]
  cases request : readInput input with
  | again =>
      rw [request] at spares
      cases spares
  | unfinished => exact ⟨_, rfl, .refl shown session, rfl⟩
  | rejected rejection => exact ⟨_, rfl, .refl shown session, rfl⟩
  | command command =>
      rw [request] at spares
      have returns : command ≠ .resume := by
        rintro rfl
        cases spares
      obtain ⟨turn, executed⟩ :=
        @exists_execute (session.remember command) command conditions (Or.inl returns)
      obtain ⟨kept, goesOn⟩ := keepsPage_of_execute spares executed
      exact ⟨_, congrArg (Option.map _) executed, ⟨kept.1, kept.2⟩, goesOn⟩

/-- So are several such inputs, one after the other. -/
theorem exists_turns_of_spares (conditions : Conditions) (session : Session)
    {inputs : List Text}
    (spare : ∀ input ∈ inputs, (readInput input).spares shown = true) :
    ∃ turns, session.turns conditions inputs = some turns ∧
      KeepsPage shown session (session.afterTurns turns) ∧
      ∀ turn ∈ turns, turn.isOver = false := by
  induction inputs generalizing session with
  | nil => exact ⟨[], rfl, .refl shown session, fun _ member => absurd member List.not_mem_nil⟩
  | cons input rest inductionHypothesis =>
      obtain ⟨spares, othersSpare⟩ := List.forall_mem_cons.mp spare
      obtain ⟨turn, entered, kept, goesOn⟩ := exists_enter_of_spares conditions session spares
      obtain ⟨turns, answered, keptLater, goOn⟩ := inductionHypothesis turn.session othersSpare
      refine ⟨turn :: turns, ?_, kept.trans keptLater, List.forall_mem_cons.mpr ⟨goesOn, goOn⟩⟩
      rw [turns_cons entered goesOn, answered]
      rfl

end Sparing

/-! ## Listing -/

/-- The lines of the code at some addresses. -/
def codeLines (session : Session) (addresses : List Word) : List CodeLine :=
  addresses.map session.codeLine

/-- A session after it listed a number of lines. -/
def afterListing (session : Session) (count : Nat) : Session :=
  { session with
    listPosition := some (session.nextPage count)
    lastCommand := some (.list (Int32.ofNat count)) }

section Listing

variable {session : Session} {input : Text} {count : Nat}

theorem list_ofNat (session : Session) (fits : (count : Int) ≤ Word.highest) :
    session.list (Int32.ofNat count) =
      { session with listPosition := some (session.nextPage count) }.tell
        ((session.codeLines (page session.listStart count)).map .code) := by
  have natural : (Int32.ofNat count).toInt.toNat = count := by
    rw [Word.toInt_ofNat_of_le fits, Int.toNat_natCast]
  simp only [list, natural, codeLines, page, List.map_map]
  rfl

/-- The lines of a page are listed, and the next listing goes on behind them. -/
theorem enter_of_list (conditions : Conditions) (session : Session)
    (fits : (count : Int) ≤ Word.highest)
    (asks : readInput input = .command (.list (Int32.ofNat count))) :
    session.enter conditions input = some
      ⟨.executing (.list (Int32.ofNat count)) ::
          (session.codeLines (page session.listStart count)).map .code,
        session.afterListing count, false⟩ := by
  rw [enter_of_readInput conditions session asks, perform, execute, list_ofNat _ fits]
  rfl

/-- Where a listing is kept, the next page shows what it would have shown before the page
that was listed already. -/
theorem enter_of_list_of_keepsPage (conditions : Conditions) {first : Nat} {later : Session}
    (fits : ((first + count : Nat) : Int) ≤ Word.highest)
    (kept : KeepsPage (page (session.nextPage first) count) (session.afterListing first) later)
    (asks : readInput input = .command (.list (Int32.ofNat count))) :
    ∃ turn, later.enter conditions input = some turn ∧
      turn.events = .executing (.list (Int32.ofNat count)) ::
        (session.codeLines (page (session.nextPage first) count)).map .code ∧
      turn.session.listPosition = some (session.nextPage (first + count)) := by
  have start : later.listStart = session.nextPage first := by
    rw [listStart, kept.listPosition_eq, afterListing, Option.getD_some]
  have same : later.codeLines (page (session.nextPage first) count) =
      session.codeLines (page (session.nextPage first) count) :=
    List.map_congr_left kept.codeLine_eq
  refine ⟨_, enter_of_list conditions later (by omega) asks, ?_, ?_⟩
  · rw [start, same]
  · rw [afterListing, nextPage, start, nextPage, nextPage, Word.saturatingAdd_ofNat_add _ fits]

end Listing

/-- Two listings show the lines that one listing of both lengths shows, in the same order,
and go on at the same place, wherever the first one starts.  Inputs may come between the
two that examine or set cells, that tell about the session, that set or remove a breakpoint
which the second listing does not show, or that are not understood. -/
theorem pages_make_one_listing (conditions : Conditions) (session : Session)
    {first second : Nat} (fits : ((first + second : Nat) : Int) ≤ Word.highest)
    {one two whole : Text}
    (asksOne : readInput one = .command (.list (Int32.ofNat first)))
    (asksTwo : readInput two = .command (.list (Int32.ofNat second)))
    (asksWhole : readInput whole = .command (.list (Int32.ofNat (first + second))))
    {between : List Text}
    (spare : ∀ input ∈ between,
      (readInput input).spares (page (session.nextPage first) second) = true) :
    ∃ oneTurn others twoTurn wholeTurn, ∃ lines more : List CodeLine,
      session.turns conditions (one :: (between ++ [two])) =
        some (oneTurn :: (others ++ [twoTurn])) ∧
      session.turns conditions [whole] = some [wholeTurn] ∧
      oneTurn.events = .executing (.list (Int32.ofNat first)) :: lines.map .code ∧
      twoTurn.events = .executing (.list (Int32.ofNat second)) :: more.map .code ∧
      wholeTurn.events =
        .executing (.list (Int32.ofNat (first + second))) :: (lines ++ more).map .code ∧
      lines.length = first ∧
      (lines ++ more).map CodeLine.address = page session.listStart (first + second) ∧
      twoTurn.session.listPosition = wholeTurn.session.listPosition := by
  obtain ⟨others, answered, kept, goOn⟩ :=
    exists_turns_of_spares conditions (session.afterListing first) spare
  obtain ⟨twoTurn, enteredTwo, toldTwo, placeTwo⟩ :=
    enter_of_list_of_keepsPage conditions fits kept asksTwo
  have enteredOne := enter_of_list conditions session (by omega) asksOne
  have enteredWhole := enter_of_list conditions session fits asksWhole
  refine ⟨⟨_, session.afterListing first, false⟩, others, twoTurn,
    ⟨_, session.afterListing (first + second), false⟩,
    session.codeLines (page session.listStart first),
    session.codeLines (page (session.nextPage first) second), ?_, turns_singleton enteredWhole,
    rfl, toldTwo, ?_, ?_, ?_, placeTwo⟩
  · rw [turns_cons enteredOne rfl, turns_append answered goOn, turns_singleton enteredTwo]
    rfl
  · rw [page_add _ fits, codeLines, List.map_append]
    rfl
  · rw [codeLines, List.length_map, page, List.length_map, List.length_range]
  · rw [page_add _ fits, codeLines, codeLines, ← List.map_append, List.map_map]
    exact List.map_id _

/-- Three lines and then two from the last but one address on, with a cell set, a
breakpoint on the first page and a word that begins no verb between them. -/
theorem pages_make_one_listing_saturated :
    let conditions : Conditions := ⟨⟨"a", []⟩, .normal, 0⟩
    let session := { start Machine.fresh with listPosition := some 2147483646 }
    let between := ["set 0 7".toList, "break 2147483646".toList, "lost".toList]
    readInput "list 3".toList = .command (.list (Int32.ofNat 3)) ∧
    readInput "l 2".toList = .command (.list (Int32.ofNat 2)) ∧
    readInput "lis 5".toList = .command (.list (Int32.ofNat (3 + 2))) ∧
    (∀ input ∈ between, (readInput input).spares (page (session.nextPage 3) 2) = true) ∧
    ∃ oneTurn others twoTurn wholeTurn, ∃ lines more : List CodeLine,
      session.turns conditions ("list 3".toList :: (between ++ ["l 2".toList])) =
        some (oneTurn :: (others ++ [twoTurn])) ∧
      session.turns conditions ["lis 5".toList] = some [wholeTurn] ∧
      oneTurn.events = .executing (.list 3) :: lines.map .code ∧
      twoTurn.events = .executing (.list 2) :: more.map .code ∧
      wholeTurn.events = .executing (.list 5) :: (lines ++ more).map .code ∧
      (lines ++ more).map CodeLine.address =
        [2147483646, 2147483647, 2147483647, 2147483647, 2147483647] ∧
      twoTurn.session.listPosition = wholeTurn.session.listPosition := by
  intro conditions session between
  have three : readInput "list 3".toList = .command (.list (Int32.ofNat 3)) := rfl
  have two : readInput "l 2".toList = .command (.list (Int32.ofNat 2)) := rfl
  have five : readInput "lis 5".toList = .command (.list (Int32.ofNat (3 + 2))) := rfl
  have spare : ∀ input ∈ between,
      (readInput input).spares (page (session.nextPage 3) 2) = true := by decide +kernel
  obtain ⟨oneTurn, others, twoTurn, wholeTurn, lines, more, answered, answeredWhole, told, toldTwo,
    toldWhole, -, addresses, same⟩ :=
    pages_make_one_listing conditions session (by decide) three two five spare
  refine ⟨three, two, five, spare, oneTurn, others, twoTurn, wholeTurn, lines, more, answered,
    answeredWhole, told, toldTwo, toldWhole, addresses.trans ?_, same⟩
  decide +kernel

end Session
end AccumulatorMachine
