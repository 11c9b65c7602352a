import JobFlow.Service.Respond
import JobFlow.Proofs.Record.Paths
import JobFlow.Proofs.Record.Pairs
import JobFlow.Proofs.Record.Layout
import JobFlow.Proofs.Record.Reads
import JobFlow.Proofs.Record.Refinement
import JobFlow.Proofs.Record.Overlay
import JobFlow.Proofs.Record.JobEntries
import JobFlow.Proofs.Index.Rows
import JobFlow.Proofs.Index.Names
import JobFlow.Proofs.Index.Order
import JobFlow.Proofs.Index.Stamps
import JobFlow.Proofs.System.Claim
import JobFlow.Proofs.System.Frames
import JobFlow.Proofs.System.Runners
import JobFlow.Proofs.Disk.Records
import JobFlow.Proofs.System.JobRecord
import JobFlow.Proofs.System.Execution
import JobFlow.Proofs.System.Removal
import JobFlow.Proofs.System.Masters
import JobFlow.Proofs.System.Transitions
import JobFlow.Proofs.System.FirstSave
import JobFlow.Proofs.System.Removed
import JobFlow.Proofs.System.Suspension
import JobFlow.Proofs.System.Cancellation
import JobFlow.Proofs.System.Steps
import JobFlow.Proofs.Zstd.RawFrames
import JobFlow.Proofs.Disk.Paths
import JobFlow.Proofs.Disk.Tree
import JobFlow.Proofs.Disk.Reopen
import JobFlow.Proofs.System.Repair
import JobFlow.Proofs.System.Rebuild
import JobFlow.Proofs.System.Admission
import JobFlow.Proofs.Jobs.QualifiedNames
import JobFlow.Proofs.Queue.ShellWords
import JobFlow.Proofs.Record.PathAlgebra
import JobFlow.Proofs.Jobs.FailureSummary
import JobFlow.Proofs.Queue.Placeholders
import JobFlow.Proofs.Disk.Confinement
import JobFlow.Proofs.Archive.Entries
import JobFlow.Proofs.Archive.Packing
import JobFlow.Proofs.Archive.RoundTrip
