import Cachee.Library.Bytes
import Cachee.Library.Cursor
import Cachee.Library.Tracked
import Cachee.Library.Text
import Cachee.Library.OrderedMap
import Cachee.Library.Run
import Cachee.Library.Lookup
import Cachee.Library.Inevitable
import Cachee.Library.Lines
import Cachee.Library.PairTree
import Cachee.Library.Recall
import Cachee.Library.Spans
import Cachee.Library.Attempts
import Cachee.Library.Fields
import Cachee.Archive.Fingerprint
import Cachee.Archive.Bundle
import Cachee.Archive.Wire
import Cachee.Archive.Layout
import Cachee.Archive.Safety
import Cachee.Archive.RoundTrip
import Cachee.Archive.Acceptance
import Cachee.Archive.Truncation
import Cachee.Archive.Canonical
import Cachee.Archive.Contents
import Cachee.Archive.Overlong
import Cachee.Archive.Decodable
import Cachee.Archive.Positions
import Cachee.Crypto
import Cachee.Archive.Verify
import Cachee.Federation
import Cachee.VerifyFile
import Cachee.VerifyReport
import Cachee.ContentStore
import Cachee.ContentStore.History
import Cachee.ContentStore.Count
import Cachee.Slot.Lifecycle
import Cachee.Slot.CacheSlot
import Cachee.Slot.History
import Cachee.ContentAddress
import Cachee.Audit.Log
import Cachee.Audit.Chain
import Cachee.Audit.Reachable
import Cachee.Audit.Tampering
import Cachee.Audit.Replay
import Cachee.Audit.Anchors
import Cachee.Audit.Numbering
import Cachee.Audit.MerkleRoot
import Cachee.Audit.Nonces
import Cachee.Audit.Coverage
import Cachee.PqKeys
import Cachee.SignerBinding
import Cachee.Verdict
import Cachee.ReadContract
import Cachee.Daemon.State
import Cachee.Daemon.Attestation
import Cachee.Daemon.Handler
import Cachee.Daemon.Requests
import Cachee.Daemon.AuditVerify
import Cachee.Daemon.Replies
import Cachee.Daemon.Effects
import Cachee.Daemon.StrictMode
import Cachee.Daemon.Retirement
import Cachee.Daemon.Supersession
import Cachee.Daemon.Reconstruction
import Cachee.Daemon.VerifiedRead
import Cachee.Daemon.Interleaving
import Cachee.Daemon.Coherence
import Cachee.Daemon.Quota
import Cachee.Daemon.Usage
import Cachee.Daemon.Admission
import Cachee.Daemon.Connection
import Cachee.Daemon.Stream
import Cachee.Daemon.Gate
import Cachee.Daemon.Rights
import Cachee.Daemon.Failures
import Cachee.Daemon.Charges
import Cachee.Daemon.Lockout
import Cachee.Daemon.ApiKeys
import Cachee.Daemon.ColdStart
import Cachee.Daemon.Dispatch
import Cachee.Daemon.Conflict
import Cachee.Daemon.Expiry
import Cachee.Daemon.Artifacts
import Cachee.Daemon.Refinement
import Cachee.Daemon.Records
import Cachee.Daemon.Tasks
import Cachee.Daemon.TaskEffects
import Cachee.Daemon.Server
import Cachee.Daemon.Pipeline
import Cachee.Daemon.Provenance
import Cachee.Daemon.Termination
import Cachee.Daemon.AuditTrail
import Cachee.Daemon.Lifetime
import Cachee.Daemon.Heritage
import Cachee.Resp
import Cachee.PublishedRoots
import Cachee.Plan
import Cachee.Library.Script
import Cachee.Home
import Cachee.Home.Commands
import Cachee.Home.Changes
import Cachee.Home.Settings
import Cachee.Home.KeyFiles
import Cachee.Home.Identity
import Cachee.Home.Listing
import Cachee.Home.Registry
import Cachee.Home.Access
import Cachee.Home.Revocation
import Cachee.ContentStore.Export
import Cachee.Session
