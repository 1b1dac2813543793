import LogRelay.Buffer.Turns
import LogRelay.Delivery.Timeline
import LogRelay.Duration.Printer
import LogRelay.Framing.Timeline
import LogRelay.Main
import LogRelay.Proofs.Buffer.Waking
import LogRelay.Proofs.Framing.Timeline
import LogRelay.Tracer.Timeline
import LogRelay.Proofs.Session.Moves
import LogRelay.Proofs.Session.Tasks
import LogRelay.Proofs.Session.Ledger
import LogRelay.Proofs.Session.HandOver
import LogRelay.Proofs.Text.Utf8
import LogRelay.Proofs.Text.Segments
import LogRelay.Proofs.Collector.Rejoining
import LogRelay.Proofs.Session.Reading
import LogRelay.Proofs.Buffer.Words
import LogRelay.Proofs.Retry.Backoff
import LogRelay.Proofs.Behaviour.Pipe
import LogRelay.Proofs.Session.Readers
import LogRelay.Proofs.Session.Sending
import LogRelay.Proofs.Session.Results
import LogRelay.Proofs.Session.Joining
import LogRelay.Proofs.Session.Work
import LogRelay.Proofs.Session.Progress
import LogRelay.Proofs.Session.Courses
import LogRelay.Proofs.Session.Returning
import LogRelay.Proofs.Session.Journal
import LogRelay.Proofs.Session.Crashes
import LogRelay.Proofs.Session.Attempts
import LogRelay.Proofs.Session.InOrder
import LogRelay.Proofs.Session.Reasons
import LogRelay.Proofs.Config.Validation
import LogRelay.Proofs.Delivery.Retrying
import LogRelay.Proofs.Session.Timeline
import LogRelay.Proofs.CommandLine.Preparing
import LogRelay.Proofs.CommandLine.ExitStatus
import LogRelay.Proofs.Session.Cancellation
import LogRelay.Proofs.Collector.Alignment
import LogRelay.Proofs.Session.Draining
import LogRelay.Proofs.Session.Failing
import LogRelay.Proofs.Session.Accounting
import LogRelay.Proofs.Buffer.Operations
import LogRelay.Proofs.Buffer.History
import LogRelay.Proofs.Session.Capacity
import LogRelay.Proofs.Session.Waiting
import LogRelay.Proofs.Framing.Bare
import LogRelay.Proofs.Session.Modes
import LogRelay.Proofs.Session.LoneReaders
import LogRelay.Proofs.Session.ReaderLogs
import LogRelay.Proofs.Session.Promptness
import LogRelay.Proofs.Session.Independence
import LogRelay.Proofs.Text.Encoding
import LogRelay.Proofs.Collector.ReadBack
import LogRelay.Proofs.Json.Reading
import LogRelay.Proofs.Framing.Accounts
import LogRelay.Proofs.Framing.Runs
import LogRelay.Proofs.Behaviour.Failures
import LogRelay.Proofs.Framing.Resuming
import LogRelay.Proofs.Number.Order
import LogRelay.Proofs.Config.Acceptance
import LogRelay.Proofs.Config.Downstream
import LogRelay.Proofs.ByteSize.Grammar
import LogRelay.Proofs.ByteSize.Acceptance
import LogRelay.Proofs.ByteSize.Integers
import LogRelay.Proofs.Tracer.Finishing
import LogRelay.Proofs.Tracer.Timeline
import LogRelay.Proofs.Retry.Growth
import LogRelay.Proofs.Delivery.Sleeping
import LogRelay.Proofs.Delivery.Unfailing
