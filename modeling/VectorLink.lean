import VectorLink.Address
import VectorLink.Note
import VectorLink.Wire.Reply
import VectorLink.Wire.Request
import VectorLink.Transport.Basic
import VectorLink.Transport.Whole
import VectorLink.Link.Basic
import VectorLink.Link.Exchange
import VectorLink.Calendar
import VectorLink.Number.Unsigned
import VectorLink.Document.Basic
import VectorLink.Document.Scalar
import VectorLink.Document.Skip
import VectorLink.Document.Record
import VectorLink.Document.Stored
import VectorLink.Settings.Basic
import VectorLink.Settings.Workload
import VectorLink.Report.Benchmark
import VectorLink.Report.Checklist
import VectorLink.Routine.Acceptance
import VectorLink.Routine.Benchmark
import VectorLink.Routine.Retry
import VectorLink.Program
import VectorLink.Main
import VectorLink.Proofs.Transport.Kept
import VectorLink.Proofs.Transport.Flow
import VectorLink.Proofs.Transport.Alike
import VectorLink.Proofs.Transport.Takes
import VectorLink.Proofs.Wire.Reply
import VectorLink.Proofs.Link.Classification
import VectorLink.Proofs.Link.Cancellation
import VectorLink.Proofs.Link.Agreement
import VectorLink.Proofs.Link.Alignment
import VectorLink.Proofs.Link.Cutting
import VectorLink.Proofs.Link.Advance
import VectorLink.Proofs.Link.Lifecycle
import VectorLink.Proofs.Link.Closing
import VectorLink.Proofs.Link.Budget
import VectorLink.Proofs.Link.FirstFault
import VectorLink.Proofs.Routine.Acceptance
import VectorLink.Proofs.Routine.Benchmark
import VectorLink.Proofs.Program
import VectorLink.Proofs.Document.Record
import VectorLink.Proofs.Settings.Load
import VectorLink.Proofs.Transport.Arrival
import VectorLink.Proofs.Transport.Buffer
import VectorLink.Proofs.Wire.Decodable
import VectorLink.Proofs.Routine.Retry
import VectorLink.Proofs.Link.Ranking
import VectorLink.Proofs.Settings.Overridden
import VectorLink.Proofs.Number.Rounding
import VectorLink.Proofs.Number.TotalOrder
import VectorLink.Proofs.Report.Latency
import VectorLink.Proofs.Document.Entries
import VectorLink.Proofs.Document.Printed
import VectorLink.Proofs.Document.Stored
