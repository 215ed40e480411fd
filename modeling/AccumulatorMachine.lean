import AccumulatorMachine.Main
import AccumulatorMachine.Session.Completion
import AccumulatorMachine.Proofs.MemoryContents
import AccumulatorMachine.Proofs.BlockMove
import AccumulatorMachine.Proofs.FaultAtomicity
import AccumulatorMachine.Proofs.CodeStore
import AccumulatorMachine.Proofs.FlatInterpreter
import AccumulatorMachine.Proofs.FaultOrigin
import AccumulatorMachine.Proofs.HexadecimalNumerals
import AccumulatorMachine.Proofs.SourceReading
import AccumulatorMachine.Proofs.PrintedPrograms
import AccumulatorMachine.Proofs.ExecutableLoading
import AccumulatorMachine.Proofs.BlankText
import AccumulatorMachine.Proofs.CheckedExecution
import AccumulatorMachine.Proofs.SourceFaults
import AccumulatorMachine.Proofs.SourceGrammar
import AccumulatorMachine.Proofs.FaultPlaces
import AccumulatorMachine.Proofs.LoadedLines
import AccumulatorMachine.Proofs.RunLengths
import AccumulatorMachine.Proofs.CellWrites
import AccumulatorMachine.Proofs.CallHistories
import AccumulatorMachine.Proofs.AlikeMachines
import AccumulatorMachine.Proofs.Listings
import AccumulatorMachine.Proofs.HaltedMachines
import AccumulatorMachine.Proofs.Reloading
import AccumulatorMachine.Proofs.PausedRuns
import AccumulatorMachine.Proofs.TruthfulAnswers
import AccumulatorMachine.Proofs.SentinelLines
import AccumulatorMachine.Proofs.HexadecimalSpellings
import AccumulatorMachine.Proofs.AssembledFiles
import AccumulatorMachine.Proofs.StoreUpdates
import AccumulatorMachine.Proofs.LineEndings
import AccumulatorMachine.Proofs.CharacterBoundaries
import AccumulatorMachine.Proofs.ShellReading
import AccumulatorMachine.Proofs.CompletedWords
import AccumulatorMachine.Proofs.Hints
import AccumulatorMachine.Proofs.DecimalNumerals
import AccumulatorMachine.Proofs.WrittenCommands
import AccumulatorMachine.Proofs.SettingCells
import AccumulatorMachine.Proofs.RepeatedInputs
import AccumulatorMachine.Proofs.AddedSteps
import AccumulatorMachine.Proofs.LineSpans
import AccumulatorMachine.Proofs.ShownCells
import AccumulatorMachine.Proofs.ListingPages
import AccumulatorMachine.Proofs.BreakpointHistories
