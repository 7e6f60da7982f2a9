import ConsumerConnector.Configuration.Assembly
import ConsumerConnector.ControlPlane.Script
import ConsumerConnector.Credential.Description
import ConsumerConnector.Management.Server
import ConsumerConnector.Proofs.Acquisition.Sharing
import ConsumerConnector.Proofs.Negotiation.Calls
import ConsumerConnector.Proofs.Policy.Expiry
import ConsumerConnector.Proofs.LinkedData.RoundTrip
import ConsumerConnector.Proofs.Acquisition.History
import ConsumerConnector.Proofs.Acquisition.Progress
import ConsumerConnector.Proofs.Acquisition.Provenance
import ConsumerConnector.Proofs.Acquisition.Delivery
import ConsumerConnector.Proofs.Acquisition.Isolation
import ConsumerConnector.Proofs.Acquisition.Retention
import ConsumerConnector.Proofs.Credential.Replay
import ConsumerConnector.Proofs.Acquisition.Deadline
import ConsumerConnector.Proofs.Catalog.Paging
import ConsumerConnector.Proofs.Acquisition.Shutdown
import ConsumerConnector.Proofs.LinkedData.Likeness
import ConsumerConnector.Proofs.LinkedData.Document
import ConsumerConnector.Proofs.LinkedData.Spelling
import ConsumerConnector.Proofs.LinkedData.Listing
import ConsumerConnector.Proofs.LinkedData.Coverage
import ConsumerConnector.Proofs.Configuration.Assembly
import ConsumerConnector.Proofs.Policy.OwnTerms
import ConsumerConnector.Proofs.Policy.Purpose
import ConsumerConnector.Proofs.Polling.Schedule
import ConsumerConnector.Proofs.ControlPlane.Attempts
import ConsumerConnector.Proofs.Polling.Cancellation
import ConsumerConnector.Proofs.Negotiation.Readback
import ConsumerConnector.Proofs.Management.Overload
import ConsumerConnector.Proofs.Catalog.Ending
import ConsumerConnector.Proofs.Catalog.Rotation
import ConsumerConnector.Proofs.Acquisition.Frame
import ConsumerConnector.Proofs.Credential.Callback
import ConsumerConnector.Proofs.Negotiation.Subject
import ConsumerConnector.Proofs.Policy.Scopes
import ConsumerConnector.Proofs.Acquisition.Lookup
import ConsumerConnector.Proofs.Address.Suffix
import ConsumerConnector.Proofs.Configuration.RetryHosts
import ConsumerConnector.Proofs.WorkerPool.Slots
import ConsumerConnector.Proofs.Credential.Claims
import ConsumerConnector.Proofs.ControlPlane.Records
