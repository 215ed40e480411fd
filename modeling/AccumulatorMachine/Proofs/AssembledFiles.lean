import AccumulatorMachine.CommandLine.Perform
import AccumulatorMachine.Proofs.ExecutableLoading
import AccumulatorMachine.Proofs.Reloading
import AccumulatorMachine.Proofs.StoredFiles

/-!
# Source files and assembled files

Assembling a source file writes its executable text beside it and leaves all other
files alone.  To run or to list the assembled file is then the same as to run or to
list the source file: once each is read, nothing tells them apart.  A source file
that is not accepted fails every task and leaves all files alone.
-/

namespace AccumulatorMachine
namespace CommandLine

/-! ## Reports in sequence -/

namespace Report

variable {α β : Type}

/-- A report with what was told before. -/
def openedBy (opening : List Event) (report : Report α) : Report α :=
  ⟨opening ++ report.events, report.result⟩

theorem bind_of_ok (opening : List Event) (value : α) (next : α → Report β) :
    (⟨opening, .ok value⟩ >>= next : Report β) = (next value).openedBy opening := rfl

end Report

/-! ## Sources and executables -/

/-- What is told while a source file is read and assembled. -/
def assembledEvents (path : Path) (text : Text) : List Event :=
  .readingSource path :: .assembling :: splitEvents text

/-- What is told while a program is loaded. -/
def loadedEvents (path : Path) (program : Program) : List Event :=
  (⟨path.shown, program.executable⟩ : ProgramFile).loadEvents.map .loading

variable {read : Reader} {path : Path} {text : Text} {program : Program} {machine : Machine}

theorem assembleFile_of_assemble (isRead : read path = .ok text)
    (accepted : Source.assemble text = .ok program) :
    assembleFile read path = ⟨assembledEvents path text, .ok program.executable⟩ := by
  have assembled : assembleText path text =
      ⟨.assembling :: splitEvents text, .ok program.executable⟩ := by
    rw [assembleText, accepted]
  rw [assembleFile, readText, isRead]
  change Report.openedBy _ (Report.openedBy _ (assembleText path text)) = _
  rw [assembled]
  rfl

/-- A file is assembled only if it holds a source text that is accepted. -/
theorem exists_assembleFile_error (refused : ∀ text program, read path = .ok text →
      Source.assemble text ≠ .ok program) :
    ∃ events failure, assembleFile read path = ⟨events, .error failure⟩ := by
  cases isRead : read path with
  | error fault =>
      refine ⟨[.readingSource path], .unreadable path fault, ?_⟩
      rw [assembleFile, readText, isRead]
      rfl
  | ok text =>
      cases assembled : Source.assemble text with
      | ok program => exact absurd assembled (refused text program isRead)
      | error error =>
          have notAssembled : (assembleText path text).result =
              .error (.notAssembled path error) := by
            rw [assembleText, assembled]
          refine ⟨.readingSource path :: (assembleText path text).events,
            .notAssembled path error, ?_⟩
          rw [assembleFile, readText, isRead]
          change Report.openedBy _ (Report.openedBy _ (assembleText path text)) = _
          rw [← notAssembled]
          rfl

theorem loadProgram_eq (loads : Machine.fresh.load program.executable = (.ok (), machine)) :
    loadProgram path ⟨path.shown, program.executable⟩ =
      ⟨loadedEvents path program, .ok machine⟩ := by
  obtain ⟨loading, loaded, rfl⟩ : ∃ loading,
      (⟨path.shown, program.executable⟩ : ProgramFile).load = (.ok (), loading) ∧
        loading.machine = machine := by
    rw [ProgramFile.load, ProgramFile.reload, Machine.fresh.clear_eq_fresh]
    exact ⟨_, Prod.ext (congrArg (·.1) loads) rfl, congrArg (·.2) loads⟩
  rw [loadProgram, loaded]
  rfl

/-- A source file is assembled and loaded. -/
theorem prepare_source (isSource : path.extension? = some sourceExtension)
    (isRead : read path = .ok text) (accepted : Source.assemble text = .ok program)
    (loads : Machine.fresh.load program.executable = (.ok (), machine)) :
    prepare read path =
      ⟨assembledEvents path text ++ loadedEvents path program,
        .ok (⟨path.shown, program.executable⟩, machine)⟩ := by
  have isProgram : readProgram read path =
      ⟨assembledEvents path text, .ok ⟨path.shown, program.executable⟩⟩ := by
    rw [readProgram, readExecutable, if_pos isSource, assembleFile_of_assemble isRead accepted]
    exact congrArg (Report.mk · _) (List.append_nil _)
  rw [prepare, isProgram, Report.bind_of_ok, loadProgram_eq loads, Report.bind_of_ok]
  exact congrArg (Report.mk · _) (congrArg _ (List.append_nil _))

/-- A file that is no source file is loaded as it is. -/
theorem prepare_executable (notSource : path.extension? ≠ some sourceExtension)
    (isRead : read path = .ok program.executable)
    (loads : Machine.fresh.load program.executable = (.ok (), machine)) :
    prepare read path =
      ⟨.readingExecutable path :: loadedEvents path program,
        .ok (⟨path.shown, program.executable⟩, machine)⟩ := by
  have isProgram : readProgram read path =
      ⟨[.readingExecutable path], .ok ⟨path.shown, program.executable⟩⟩ := by
    rw [readProgram, readExecutable, if_neg notSource, readText, isRead]
    rfl
  rw [prepare, isProgram, Report.bind_of_ok, loadProgram_eq loads, Report.bind_of_ok]
  exact congrArg (Report.mk · _) (congrArg _ (List.append_nil _))

theorem prepare_of_error (isSource : path.extension? = some sourceExtension)
    {events : List Event} {failure : Failure}
    (failed : assembleFile read path = ⟨events, .error failure⟩) :
    prepare read path = ⟨events, .error failure⟩ := by
  rw [prepare, readProgram, readExecutable, if_pos isSource, failed]
  rfl

/-! ## Tasks -/

/-- Run a machine for a limited number of steps, or until it stops. -/
def runMachine (verbosity : Log.Verbosity) (bound : Nat) (limit : Option Nat)
    (machine : Machine) : Option (Report Unit) :=
  match limit with
  | some limit => some (runLimited verbosity limit machine)
  | none => runUnlimited verbosity bound machine

namespace Invocation

variable {verbosity : Log.Verbosity} {bound : Nat} {files : Files} {typed : Text}
variable {input : Path} {opening : List Event} {file : ProgramFile}

/-- A run tells what the run of the machine tells, after all that was told before
it. -/
theorem perform_run (prepared : prepare files.read input = ⟨opening, .ok (file, machine)⟩)
    (limit : Option Nat) :
    perform ⟨verbosity, .run input limit⟩ bound files typed =
      (runMachine verbosity bound limit machine).map fun report =>
        .ofReport files (fun _ => 0) (report.openedBy opening) := by
  cases limit with
  | some limit =>
      simp only [perform, prepared, Report.bind_of_ok]
      rfl
  | none =>
      simp only [perform, prepared]
      change ((runUnlimited verbosity bound machine).map _).map _ = _
      rw [Option.map_map]
      rfl

theorem perform_dump (prepared : prepare files.read input = ⟨opening, .ok (file, machine)⟩) :
    perform ⟨verbosity, .dump input⟩ bound files typed =
      some ⟨opening ++ machine.listing.map .listed, files, 0⟩ := by
  simp only [perform, prepared, Report.bind_of_ok]
  rfl

theorem perform_assemble {output : Option Path} {executable : Text} {left : Files}
    (assembled : assembleFile files.read input = ⟨opening, .ok executable⟩)
    (writes : files.write (outputPath input output) executable = .ok left) :
    perform ⟨verbosity, .assemble input output⟩ bound files typed =
      some ⟨opening ++ [.written (outputPath input output)], left, 0⟩ := by
  have report : assembleTo files.read files.write input (outputPath input output) =
      ⟨opening ++ [.written (outputPath input output)], .ok left⟩ := by
    rw [assembleTo, assembled, Report.bind_of_ok, writes]
    rfl
  simp only [perform, report]
  rfl

/-- A task that fails before it has a machine leaves the files alone. -/
theorem perform_of_error {events : List Event} {failure : Failure}
    (isSource : input.extension? = some sourceExtension)
    (failed : assembleFile files.read input = ⟨events, .error failure⟩) {task : Task}
    (isTask : (∃ output, task = .assemble input output) ∨ (∃ limit, task = .run input limit) ∨
      task = .dump input) :
    perform ⟨verbosity, task⟩ bound files typed =
      some ⟨events ++ [.failed failure], files, failureStatus⟩ := by
  have unprepared := prepare_of_error isSource failed
  rcases isTask with ⟨output, rfl⟩ | ⟨_ | limit, rfl⟩ | rfl
  · simp only [perform, assembleTo, failed]
    rfl
  all_goals
    simp only [perform, unprepared]
    rfl

end Invocation

/-! ## Beside the source file -/

/-- The executable text of a source file has its place in the same directory. -/
theorem exists_reaches_beside {files : Files} {source : Path} {entry : FileEntry}
    (isSource : source.extension? = some sourceExtension)
    (located : files.locate source = .ok (.file entry))
    (noDirectory : files.locate (source.withExtension executableExtension) ≠ .ok .directory) :
    ∃ before stem directory, stem ≠ [] ∧
      files.Reaches source before (stem ++ '.' :: sourceExtension) directory ∧
      files.Reaches (source.withExtension executableExtension) before
        (stem ++ '.' :: executableExtension) directory ∧
      files.find? (directory ++ [stem ++ '.' :: sourceExtension]) = some entry := by
  obtain ⟨before, last, directory, reaches, found⟩ := Files.exists_reaches_of_locate located
  rw [Path.extension?, reaches.endsIn.fileName?_eq reaches.storable.isName,
    Option.bind_some] at isSource
  obtain ⟨stem, named, rfl, noDot⟩ := Path.exists_stem_of_splitName isSource
  by_cases dots : stem = ['.']
  · subst dots
    refine absurd (reaches.locate_parent ?_ (by decide)) noDirectory
    exact reaches.endsIn.withExtension_dots (by decide) noDot _
  · have endsIn := reaches.endsIn.withExtension named dots noDot
      (show '/' ∉ executableExtension by decide)
    have isName : Path.IsName (stem ++ '.' :: executableExtension) :=
      Path.isName_dotted named fun _ => by decide
    have sameLength : Text.byteLength (stem ++ '.' :: executableExtension) =
        Text.byteLength (stem ++ '.' :: sourceExtension) := by
      rw [Text.byteLength_append, Text.byteLength_append]
      rfl
    exact ⟨before, stem, directory, named, reaches,
      reaches.sibling endsIn isName sameLength, found⟩

/-- A text can be written beside a source file, under its name with the extension
of executable texts, unless a directory is there.  It is read from that file then,
and the source file is as it was. -/
theorem exists_write_beside {files : Files} {source : Path}
    (isSource : source.extension? = some sourceExtension)
    (isRead : files.read source = .ok text)
    (noDirectory : files.locate (source.withExtension executableExtension) ≠ .ok .directory)
    (executable : Text) :
    ∃ names,
      (source.withExtension executableExtension).extension? = some executableExtension ∧
      files.write (source.withExtension executableExtension) executable =
        .ok (files.put names executable) ∧
      (files.put names executable).locate (source.withExtension executableExtension) =
        .ok (.file ⟨names, (String.ofList executable).toUTF8⟩) ∧
      (files.put names executable).read source = .ok text := by
  obtain ⟨entry, located, decoded⟩ := Files.exists_locate_of_read isRead
  obtain ⟨before, stem, directory, named, reaches, beside, found⟩ :=
    exists_reaches_beside isSource located noDirectory
  have writable : files.IsWritable (directory ++ [stem ++ '.' :: executableExtension]) := by
    apply Files.isWritable_of_placeAt
    intro isDirectory
    rw [beside.locate, isDirectory] at noDirectory
    exact noDirectory rfl
  have other : directory ++ [stem ++ '.' :: sourceExtension] ≠
      directory ++ [stem ++ '.' :: executableExtension] := by
    simp only [ne_eq, List.append_cancel_left_eq, List.cons.injEq, true_and, and_true]
    decide
  have still := (reaches.put writable executable).locate_of_find?
    (by rw [Files.find?_put, if_neg other, found])
  refine ⟨directory ++ [stem ++ '.' :: executableExtension],
    beside.endsIn.extension?_eq named (fun _ => by decide) (by decide),
    beside.write writable executable,
    (beside.put writable executable).locate_of_find? ?_, ?_⟩
  · rw [Files.find?_put, if_pos rfl]
  · rw [Files.read_of_locate still, decoded]

/-- Assembling an accepted source file writes its executable text beside it and
changes no other file.  What is told of a run afterwards, in how many steps and with
which fault and which final state it ends, with or without a limit, is for both files
what is told of a machine that holds the program; and both have its listing.  With a
source text that is not accepted, or no text at all, every task fails and the files
stay as they are. -/
theorem assembled_file_agrees (files : Files) (source : Path) (bound : Nat) (typed : Text)
    (isSource : source.extension? = some sourceExtension) :
    let executable := source.withExtension executableExtension
    let perform := fun verbosity task (files : Files) =>
      Invocation.perform ⟨verbosity, task⟩ bound files typed
    (∀ text program, files.read source = .ok text → Source.assemble text = .ok program →
      files.locate executable ≠ .ok .directory →
      ∃ left names machine,
        (∀ verbosity, perform verbosity (.assemble source none) files =
          some ⟨assembledEvents source text ++ [.written executable], left, 0⟩) ∧
        left.locate executable =
          .ok (.file ⟨names, (String.ofList program.executable).toUTF8⟩) ∧
        (∀ other, other ≠ names → left.find? other = files.find? other) ∧
        machine.Holds program ∧
        (∀ verbosity limit,
          perform verbosity (.run executable limit) left =
            (runMachine verbosity bound limit machine).map (fun report =>
              .ofReport left (fun _ => 0) (report.openedBy
                (.readingExecutable executable :: loadedEvents executable program))) ∧
          perform verbosity (.run source limit) left =
            (runMachine verbosity bound limit machine).map (fun report =>
              .ofReport left (fun _ => 0) (report.openedBy
                (assembledEvents source text ++ loadedEvents source program)))) ∧
        (∀ verbosity,
          perform verbosity (.dump executable) left =
            some ⟨.readingExecutable executable :: loadedEvents executable program ++
              machine.listing.map .listed, left, 0⟩ ∧
          perform verbosity (.dump source) left =
            some ⟨assembledEvents source text ++ loadedEvents source program ++
              machine.listing.map .listed, left, 0⟩)) ∧
    ((∀ text program, files.read source = .ok text → Source.assemble text ≠ .ok program) →
      ∃ events, ∀ verbosity output limit,
        perform verbosity (.assemble source output) files =
          some ⟨events, files, failureStatus⟩ ∧
        perform verbosity (.run source limit) files = some ⟨events, files, failureStatus⟩ ∧
        perform verbosity (.dump source) files = some ⟨events, files, failureStatus⟩) := by
  refine ⟨fun text program isRead accepted noDirectory => ?_, fun refused => ?_⟩
  · obtain ⟨names, isExecutable, writes, located, still⟩ :=
      exists_write_beside isSource isRead noDirectory program.executable
    obtain ⟨machine, loads, holds⟩ :=
      Machine.exists_load_executable (Source.writes_of_assemble accepted).2
    have assembled := assembleFile_of_assemble isRead accepted
    have isReadBack : (files.put names program.executable).read
        (source.withExtension executableExtension) = .ok program.executable := by
      rw [Files.read_of_locate located, Files.decode_toUTF8]
    have fromSource := prepare_source isSource still accepted loads
    have fromExecutable := prepare_executable
      (by rw [isExecutable]; decide) isReadBack loads
    refine ⟨files.put names program.executable, names, machine, fun verbosity => ?_, located,
      fun other different => ?_, holds, fun verbosity limit => ⟨?_, ?_⟩, fun verbosity => ⟨?_, ?_⟩⟩
    · exact Invocation.perform_assemble assembled writes
    · rw [Files.find?_put, if_neg different]
    · exact Invocation.perform_run fromExecutable limit
    · exact Invocation.perform_run fromSource limit
    · exact Invocation.perform_dump fromExecutable
    · exact Invocation.perform_dump fromSource
  · obtain ⟨events, failure, failed⟩ := exists_assembleFile_error refused
    exact ⟨events ++ [.failed failure], fun verbosity output limit =>
      ⟨Invocation.perform_of_error isSource failed (.inl ⟨output, rfl⟩),
        Invocation.perform_of_error isSource failed (.inr (.inl ⟨limit, rfl⟩)),
        Invocation.perform_of_error isSource failed (.inr (.inr rfl))⟩⟩

/-- A program that stores a number, an executable text from before, and a source file
with an unknown mnemonic. -/
theorem assembled_file_agrees_stored :
    let text := "LODI 5\nSTO 10\nHALT\n".toList
    let program : Program := ⟨[⟨.loadImmediate, 5⟩, ⟨.store, 16⟩, ⟨.halt, 0⟩], []⟩
    let source : Path := ⟨"p.pasm".toList⟩
    let broken : Path := ⟨"q.pasm".toList⟩
    let executable : Path := ⟨"p.pexe".toList⟩
    let files : Files :=
      ⟨[⟨["p.pasm".toList], (String.ofList text).toUTF8⟩,
        ⟨["p.pexe".toList], (String.ofList "-1\n".toList).toUTF8⟩,
        ⟨["q.pasm".toList], (String.ofList "FLY 1\n".toList).toUTF8⟩]⟩
    source.extension? = some sourceExtension ∧
    broken.extension? = some sourceExtension ∧
    source.withExtension executableExtension = executable ∧
    files.read source = .ok text ∧
    Source.assemble text = .ok program ∧
    files.locate executable ≠ .ok .directory ∧
    (∃ left machine,
      Invocation.perform ⟨.normal, .assemble source none⟩ 9 files [] =
        some ⟨[.readingSource source, .assembling, .split 3 0, .written executable], left, 0⟩ ∧
      left.read executable = .ok "1 5\n4 10\n1f 0\n-1\n".toList ∧
      Machine.Holds machine program ∧
      (Invocation.perform ⟨.normal, .run executable none⟩ 9 left []).map Outcome.status =
        (runMachine .normal 9 none machine).map (Report.status fun _ => 0) ∧
      (Invocation.perform ⟨.normal, .run source none⟩ 9 left []).map Outcome.status =
        (runMachine .normal 9 none machine).map (Report.status fun _ => 0)) ∧
    (Invocation.perform ⟨.normal, .dump broken⟩ 9 files []).map Outcome.status = some 1 := by
  intro text program source broken executable files
  have isSource : source.extension? = some sourceExtension := by rfl
  have isBroken : broken.extension? = some sourceExtension := by rfl
  have isRead : files.read source = .ok text := by
    rw [Files.read_of_locate (show files.locate source = .ok (.file ⟨_, _⟩) from rfl)]
    exact Files.decode_toUTF8 text
  have accepted : Source.assemble text = .ok program := by rfl
  have noDirectory : files.locate executable ≠ .ok .directory := by
    rw [show files.locate executable = .ok (.file ⟨_, _⟩) from rfl]
    intro same
    cases same
  have refused : ∀ text program, files.read broken = .ok text →
      Source.assemble text ≠ .ok program := by
    intro other written isRead
    rw [Files.read_of_locate (show files.locate broken = .ok (.file ⟨_, _⟩) from rfl),
      Files.decode_toUTF8] at isRead
    cases isRead
    intro accepted
    cases accepted
  obtain ⟨left, names, machine, assembled, located, -, holds, runs, -⟩ :=
    (assembled_file_agrees files source 9 [] isSource).1 text program isRead accepted noDirectory
  obtain ⟨events, fails⟩ := (assembled_file_agrees files broken 9 [] isBroken).2 refused
  have isThere : left.locate executable =
      .ok (.file ⟨names, (String.ofList program.executable).toUTF8⟩) := located
  refine ⟨isSource, isBroken, rfl, isRead, accepted, noDirectory,
    ⟨left, machine, assembled .normal, ?_, holds, ?_, ?_⟩, ?_⟩
  · rw [Files.read_of_locate isThere, Files.decode_toUTF8]
    rfl
  · exact (congrArg (Option.map Outcome.status) (runs .normal none).1).trans (Option.map_map ..)
  · exact (congrArg (Option.map Outcome.status) (runs .normal none).2).trans (Option.map_map ..)
  · exact congrArg (Option.map Outcome.status) (fails .normal none none).2.2

end CommandLine
end AccumulatorMachine
