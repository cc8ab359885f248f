import Stepwise.Artifact
import Stepwise.Proofs.Trail
import Stepwise.Proofs.Moves
import Stepwise.Proofs.Nesting
import Stepwise.Proofs.DistinctLoops
import Stepwise.Proofs.Preparation
import Stepwise.Proofs.StructuredRun
import Stepwise.Proofs.Calls
import Stepwise.Proofs.Chain
import Stepwise.Proofs.LineNumber
import Stepwise.Proofs.RepairEnd
import Stepwise.Proofs.RecordedWrites
import Stepwise.Proofs.StoredNames
import Stepwise.Proofs.AppendOnly
import Stepwise.Proofs.SourceLines
import Stepwise.Proofs.WriteSites
import Stepwise.Proofs.ReadBack
import Stepwise.Proofs.KeptValues
import Stepwise.Proofs.KeptRecordings
import Stepwise.Proofs.ReadArtifact
import Stepwise.Proofs.StepLimit
import Stepwise.Proofs.Truncation
import Stepwise.Proofs.UnseenEvents
import Stepwise.Proofs.ControlFlow
import Stepwise.Proofs.StackDiscipline
import Stepwise.Proofs.IterationCounts
import Stepwise.Proofs.LoopExits
import Stepwise.Proofs.ReturningCalls
import Stepwise.Proofs.MemberNames
import Stepwise.Proofs.NearestDouble
import Stepwise.Proofs.ShortestDecimal
import Stepwise.Proofs.WrittenDoubles
import Stepwise.Proofs.RereadRecordings
import Stepwise.Proofs.ReturnMarks
import Stepwise.Proofs.ShownVariables
import Stepwise.Proofs.LiteralReader
import Stepwise.Proofs.ReadableRepr
import Stepwise.Proofs.LoopRegions
import Stepwise.Proofs.LineScan
import Stepwise.Proofs.LineVerdicts
import Stepwise.Proofs.Fillers
import Stepwise.Proofs.KeptRegions
import Stepwise.Proofs.PreparedTwice
import Stepwise.Proofs.Drawings
import Stepwise.Proofs.Pictures
import Stepwise.Proofs.DisplaySize
import Stepwise.Proofs.Replays
import Stepwise.Proofs.PrintableRepr
import Stepwise.Proofs.LinePlaces
import Stepwise.Proofs.HeldWrites
