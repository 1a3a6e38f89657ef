import CiWorkflow.Command.Invocation
import CiWorkflow.Main
import CiWorkflow.Matrix
import CiWorkflow.Proofs.Written
import CiWorkflow.Proofs.RoundTrip
import CiWorkflow.Proofs.CycleSearch
import CiWorkflow.Proofs.BlamedJobs
import CiWorkflow.Proofs.Unwinding
import CiWorkflow.Proofs.Levels
import CiWorkflow.Proofs.ColumnPartition
import CiWorkflow.Proofs.Verdict
import CiWorkflow.Proofs.Depth
import CiWorkflow.Proofs.TriggerShapes
import CiWorkflow.Proofs.EditRuns
import CiWorkflow.Proofs.EditedNeeds
import CiWorkflow.Proofs.EditedText
import CiWorkflow.Proofs.JobEntries
import CiWorkflow.Proofs.MalformedJobs
import CiWorkflow.Proofs.UnknownEntries
import CiWorkflow.Proofs.LayoutNodes
import CiWorkflow.Proofs.LayoutEdges
import CiWorkflow.Proofs.EdgeIds
import CiWorkflow.Proofs.AppendedJob
import CiWorkflow.Proofs.RemovedJob
import CiWorkflow.Proofs.RemovalOrder
import CiWorkflow.Proofs.ClosedCycles
import CiWorkflow.Proofs.Formatting
import CiWorkflow.Proofs.RunnerLabels
import CiWorkflow.Proofs.ActionReferences
import CiWorkflow.Proofs.ListedFilters
import CiWorkflow.Proofs.EntryPaths
import CiWorkflow.Proofs.Drawing
import CiWorkflow.Proofs.TriggerNotations
import CiWorkflow.Proofs.JobEdits
import CiWorkflow.Proofs.JobDiagnostics
import CiWorkflow.Proofs.RawTriggers
import CiWorkflow.Proofs.JobIds
