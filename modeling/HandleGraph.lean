import HandleGraph.Handle.Slots
import HandleGraph.Proofs.Books
import HandleGraph.Proofs.Execution
import HandleGraph.Kind.Slots
import HandleGraph.Script.Play
import HandleGraph.Sequence.Table
import HandleGraph.Proofs.Balance
import HandleGraph.Proofs.Growth
import HandleGraph.Proofs.CallLaw
import HandleGraph.Proofs.Holdings
import HandleGraph.Proofs.Operations
import HandleGraph.Proofs.CursorOperations
import HandleGraph.Proofs.InspectOperations
import HandleGraph.Proofs.SlotOrder
import HandleGraph.Proofs.Commands
import HandleGraph.Proofs.Sessions
import HandleGraph.Proofs.Disposal
import HandleGraph.Proofs.CallSafety
import HandleGraph.Proofs.Staleness
import HandleGraph.Proofs.Cells
import HandleGraph.Proofs.Memoisation
import HandleGraph.Proofs.Conservation
import HandleGraph.Proofs.Strings
import HandleGraph.Proofs.Outstanding
import HandleGraph.Proofs.Failure
import HandleGraph.Proofs.Inquiries
import HandleGraph.Proofs.Registrations
import HandleGraph.Proofs.Marshaling
import HandleGraph.Proofs.Alike
import HandleGraph.Proofs.Lockstep
import HandleGraph.Proofs.LockstepCursors
import HandleGraph.Proofs.LockstepSessions
import HandleGraph.Proofs.Translation
import HandleGraph.Proofs.Transparency
import HandleGraph.Proofs.Uncached
import HandleGraph.Proofs.ScriptedLibrary
import HandleGraph.Proofs.CursorTable
import HandleGraph.Proofs.Shadows
import HandleGraph.Proofs.ShadowDisposal
import HandleGraph.Proofs.ShadowCursors
import HandleGraph.Proofs.ShadowSessions
import HandleGraph.Proofs.Refinement
import HandleGraph.Proofs.Iteration
import HandleGraph.Proofs.Normalisation
import HandleGraph.Proofs.TreeTraversal
import HandleGraph.Proofs.SlotLocality
import HandleGraph.Proofs.Bystanders
import HandleGraph.Proofs.Isolation
import HandleGraph.Proofs.Twins
import HandleGraph.Proofs.TwinCursors
import HandleGraph.Proofs.TwinQuestions
import HandleGraph.Proofs.TwinSessions
import HandleGraph.Proofs.ParallelSessions
import HandleGraph.Proofs.ParallelRuns
import HandleGraph.Proofs.Noninterference
import HandleGraph.Proofs.Elements
import HandleGraph.Proofs.Children
import HandleGraph.Proofs.Arguments
import HandleGraph.Proofs.CursorEquality
import HandleGraph.Proofs.Collecting
import HandleGraph.Proofs.VersionText
import HandleGraph.Proofs.Loading
import HandleGraph.Proofs.KindNames
import HandleGraph.Proofs.VersionGate
