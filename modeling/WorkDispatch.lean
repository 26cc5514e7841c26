import WorkDispatch.Breaker.Calls
import WorkDispatch.Connection.Traffic
import WorkDispatch.Plain.Settings
import WorkDispatch.Plain.Site
import WorkDispatch.Proofs.Breaker.Contract
import WorkDispatch.Proofs.Coordinator.Jobs
import WorkDispatch.Proofs.Coordinator.Ledger
import WorkDispatch.Proofs.Wire.RoundTrip
import WorkDispatch.Queue.Waiting
import WorkDispatch.Settings.Load
import WorkDispatch.Proofs.Retry.Course
import WorkDispatch.Proofs.Coordinator.Loss
import WorkDispatch.Proofs.Coordinator.Records
import WorkDispatch.Proofs.Time.Passing
import WorkDispatch.Proofs.Coordinator.Waking
import WorkDispatch.Proofs.Coordinator.Sessions
import WorkDispatch.Proofs.Retry.Script
import WorkDispatch.Proofs.Coordinator.Tokens
import WorkDispatch.Proofs.Breaker.Counts
import WorkDispatch.Proofs.Retry.Series
import WorkDispatch.Proofs.Connection.Closing
import WorkDispatch.Proofs.Queue.Wakeups
import WorkDispatch.Proofs.Breaker.Untried
import WorkDispatch.Proofs.Retry.Rounds
import WorkDispatch.Proofs.Worker.Endings
import WorkDispatch.Worker.Telling
import WorkDispatch.Proofs.Worker.Clock
import WorkDispatch.Proofs.Worker.Limits
import WorkDispatch.Proofs.Worker.Handover
import WorkDispatch.Proofs.Worker.Reporting
import WorkDispatch.Proofs.Coordinator.Results
import WorkDispatch.Proofs.Breaker.Averages
import WorkDispatch.Proofs.Coordinator.Freshness
import WorkDispatch.Proofs.Coordinator.Draining
import WorkDispatch.Proofs.Worker.Lifecycle
import WorkDispatch.Proofs.Connection.Replacing
import WorkDispatch.Proofs.Coordinator.Outlines
import WorkDispatch.Proofs.Queue.Order
import WorkDispatch.Proofs.Coordinator.Returns
import WorkDispatch.Proofs.Coordinator.Bounds
import WorkDispatch.Proofs.Coordinator.Frames
import WorkDispatch.Proofs.Coordinator.Liveness
import WorkDispatch.Proofs.Coordinator.Attachments
import WorkDispatch.Proofs.Failure
import WorkDispatch.Proofs.Worker.Figures
import WorkDispatch.Proofs.Connection.Calling
import WorkDispatch.Proofs.Settings.Layering
import WorkDispatch.Proofs.Connection.Standing
import WorkDispatch.Proofs.Coordinator.Starting
import WorkDispatch.Proofs.Worker.Routines
import WorkDispatch.Proofs.Settings.Texts
