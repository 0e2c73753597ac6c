import TaskGrid.Channel.Endpoint
import TaskGrid.Scenario.Channels
import TaskGrid.Scenario.Client
import TaskGrid.Scenario.Jobs
import TaskGrid.Scenario.Remote
import TaskGrid.Scenario.Worker
import TaskGrid.TaskOptions.Document
import TaskGrid.Wire.Document
import TaskGrid.Json.Printer
import TaskGrid.Proofs.Session.Tracker
import TaskGrid.Proofs.Session.Handover
import TaskGrid.Proofs.Plane.Memory
import TaskGrid.Proofs.Plane.Submission
import TaskGrid.Proofs.Session.Submission
import TaskGrid.Proofs.Plane.Growth
import TaskGrid.Proofs.Session.Cleanup
import TaskGrid.Proofs.Fleet.Basic
import TaskGrid.Proofs.Fleet.Turn
import TaskGrid.Proofs.Fleet.Custody
import TaskGrid.Proofs.Fleet.Conservation
import TaskGrid.Proofs.Plane.Polling
import TaskGrid.Proofs.Session.Dispatch
import TaskGrid.Proofs.Session.Round
import TaskGrid.Proofs.Fleet.Outcomes
import TaskGrid.Proofs.Session.Remaining
import TaskGrid.Proofs.Session.Stopping
import TaskGrid.Proofs.Fleet.Stopping
import TaskGrid.Proofs.Session.Progress
import TaskGrid.Proofs.Fleet.Termination
import TaskGrid.Proofs.Plane.Unsteady
import TaskGrid.Proofs.Session.Batching
import TaskGrid.Proofs.Fleet.Batching
import TaskGrid.Proofs.Shared.Basic
import TaskGrid.Proofs.Shared.Custody
import TaskGrid.Proofs.Worker.Steps
import TaskGrid.Proofs.Worker.Bracketing
import TaskGrid.Proofs.Worker.Transition
import TaskGrid.Proofs.Payload.Grammar
import TaskGrid.Proofs.Worker.Delivery
import TaskGrid.Proofs.Worker.History
import TaskGrid.Proofs.Jobs.Moves
import TaskGrid.Proofs.Jobs.Crew
import TaskGrid.Proofs.Jobs.Conservation
import TaskGrid.Proofs.Jobs.Accounts
import TaskGrid.Proofs.Fleet.Finality
import TaskGrid.Proofs.Wire.Varint
import TaskGrid.Proofs.Wire.Fields
import TaskGrid.Proofs.Wire.Records
import TaskGrid.Proofs.Wire.RoundTrip
import TaskGrid.Proofs.Wire.Foreign
import TaskGrid.Proofs.Settings.Spelling
import TaskGrid.Proofs.Settings.Edits
import TaskGrid.Proofs.Plane.Naming
import TaskGrid.Proofs.Remote.Exchange
import TaskGrid.Proofs.Remote.Placement
import TaskGrid.Proofs.Remote.Submission
import TaskGrid.Proofs.Session.Indexes
import TaskGrid.Proofs.Text.Numeral
import TaskGrid.Proofs.Settings.Counts
import TaskGrid.Proofs.Session.Creation
import TaskGrid.Proofs.Worker.Hearing
import TaskGrid.Proofs.Worker.Unwinding
import TaskGrid.Proofs.Worker.Watching
import TaskGrid.Proofs.Worker.Crossing
import TaskGrid.Proofs.Worker.Ownership
import TaskGrid.Proofs.Text.Order
import TaskGrid.Proofs.Json.Order
import TaskGrid.Proofs.Json.Leaves
import TaskGrid.Proofs.Settings.Documents
import TaskGrid.Proofs.Remote.Download
import TaskGrid.Proofs.Channel.Checkout
import TaskGrid.Proofs.Channel.Custody
import TaskGrid.Proofs.Jobs.Refusal
import TaskGrid.Proofs.Settings.Lookup
import TaskGrid.Proofs.Session.Validation
import TaskGrid.Proofs.TaskOptions.Message
import TaskGrid.Proofs.TaskOptions.Reading
import TaskGrid.Proofs.Session.Frames
import TaskGrid.Proofs.Plane.Enrolment
import TaskGrid.Proofs.Session.Deletion
import TaskGrid.Proofs.Session.Loss
import TaskGrid.Proofs.Fleet.Enrolment
import TaskGrid.Proofs.Fleet.Deletion
import TaskGrid.Proofs.Payload.Truncation
import TaskGrid.Proofs.Worker.LibraryPath
import TaskGrid.Proofs.Worker.Accord
import TaskGrid.Proofs.Plane.Records
import TaskGrid.Proofs.Plane.Failures
