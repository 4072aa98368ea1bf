import TraceArchive.Failure.Sample
import TraceArchive.Main
import TraceArchive.Proofs.Calendar.Stamp
import TraceArchive.Proofs.Failure
import TraceArchive.Proofs.Fetch.Absence
import TraceArchive.Proofs.Fetch.Alarms
import TraceArchive.Proofs.Fetch.Append
import TraceArchive.Proofs.Fetch.Batches
import TraceArchive.Proofs.Fetch.Exchanges
import TraceArchive.Proofs.Fetch.Integers
import TraceArchive.Proofs.Fetch.Landing
import TraceArchive.Proofs.Fetch.Latest
import TraceArchive.Proofs.Fetch.Order
import TraceArchive.Proofs.Fetch.Origins
import TraceArchive.Proofs.Fetch.Readable
import TraceArchive.Proofs.Fetch.Refusal
import TraceArchive.Proofs.Fetch.Requests
import TraceArchive.Proofs.Fetch.Stream
import TraceArchive.Proofs.Fetch.Timestamp
import TraceArchive.Proofs.Outcome.Equality
import TraceArchive.Proofs.Outcome.Layout
import TraceArchive.Proofs.Outcome.Variants
import TraceArchive.Proofs.Program
import TraceArchive.Proofs.Settings.Accepted
import TraceArchive.World
