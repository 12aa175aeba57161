import TenantRelay.Digest.Hmac
import TenantRelay.Digest.Sha256
import TenantRelay.Directory.Cache
import TenantRelay.Directory.Entry
import TenantRelay.Directory.Error
import TenantRelay.Directory.Holdings
import TenantRelay.Directory.Service
import TenantRelay.Directory.Store
import TenantRelay.Directory.World
import TenantRelay.Disk.Path
import TenantRelay.Disk.Tree
import TenantRelay.Dispatch.Client
import TenantRelay.Dispatch.Dispatcher
import TenantRelay.Dispatch.Outcome
import TenantRelay.Dispatch.Registry
import TenantRelay.Dispatch.Rejection
import TenantRelay.Document.Decode
import TenantRelay.Document.Toml.Read
import TenantRelay.Document.Toml.Table
import TenantRelay.Document.Tree
import TenantRelay.Document.Yaml.Node
import TenantRelay.Document.Yaml.Scan
import TenantRelay.Document.Yaml.Token
import TenantRelay.Envelope.Error
import TenantRelay.Envelope.Message
import TenantRelay.Envelope.Response
import TenantRelay.Envelope.Schema
import TenantRelay.Envelope.Tenant
import TenantRelay.Forward.Error
import TenantRelay.Forward.Forwarder
import TenantRelay.Forward.Reading
import TenantRelay.Gzip.Checksum
import TenantRelay.Gzip.Code
import TenantRelay.Gzip.Deflate
import TenantRelay.Gzip.Member
import TenantRelay.Gzip.Reading
import TenantRelay.Http.Exchange
import TenantRelay.Http.Health
import TenantRelay.Http.Reason
import TenantRelay.Http.Routing
import TenantRelay.Instance.ControlPlane
import TenantRelay.Instance.Definition
import TenantRelay.Instance.Error
import TenantRelay.Instance.Spec
import TenantRelay.Json.Printer
import TenantRelay.Json.Reader
import TenantRelay.Json.Shown
import TenantRelay.Json.Value
import TenantRelay.KeyMap
import TenantRelay.Masking
import TenantRelay.Metrics.Board
import TenantRelay.Metrics.Measure
import TenantRelay.Metrics.Series
import TenantRelay.Multiplex.Error
import TenantRelay.Multiplex.Multiplexer
import TenantRelay.Multiplex.Reference
import TenantRelay.Number.Shortest
import TenantRelay.Program
import TenantRelay.Proofs.Acceptance
import TenantRelay.Proofs.Account
import TenantRelay.Proofs.Addresses
import TenantRelay.Proofs.Bootstrap
import TenantRelay.Proofs.CacheHistory
import TenantRelay.Proofs.Codecs
import TenantRelay.Proofs.Conduct
import TenantRelay.Proofs.Contention
import TenantRelay.Proofs.Decoding
import TenantRelay.Proofs.Delivery
import TenantRelay.Proofs.Dictionaries
import TenantRelay.Proofs.DirectoryFile
import TenantRelay.Proofs.Discretion
import TenantRelay.Proofs.DiskChanges
import TenantRelay.Proofs.DiskPaths
import TenantRelay.Proofs.Durability
import TenantRelay.Proofs.Effects
import TenantRelay.Proofs.Envelopes
import TenantRelay.Proofs.Environment
import TenantRelay.Proofs.Errands
import TenantRelay.Proofs.Escapes
import TenantRelay.Proofs.Estate
import TenantRelay.Proofs.Exclusive
import TenantRelay.Proofs.FairWorld
import TenantRelay.Proofs.Faithful
import TenantRelay.Proofs.Fitting
import TenantRelay.Proofs.Forgetting
import TenantRelay.Proofs.Front
import TenantRelay.Proofs.Gates
import TenantRelay.Proofs.Gauge
import TenantRelay.Proofs.Generations
import TenantRelay.Proofs.Hindsight
import TenantRelay.Proofs.Hop
import TenantRelay.Proofs.Independence
import TenantRelay.Proofs.Inflation
import TenantRelay.Proofs.Interruption
import TenantRelay.Proofs.JsonLayouts
import TenantRelay.Proofs.JsonNumbers
import TenantRelay.Proofs.JsonStrings
import TenantRelay.Proofs.JsonText
import TenantRelay.Proofs.Lifecycle
import TenantRelay.Proofs.MaskedDocuments
import TenantRelay.Proofs.Orphans
import TenantRelay.Proofs.PackedCalls
import TenantRelay.Proofs.Packing
import TenantRelay.Proofs.Passage
import TenantRelay.Proofs.Posting
import TenantRelay.Proofs.Precedence
import TenantRelay.Proofs.ProvisionOutcomes
import TenantRelay.Proofs.Redaction
import TenantRelay.Proofs.Registration
import TenantRelay.Proofs.Replacement
import TenantRelay.Proofs.Reporting
import TenantRelay.Proofs.Retelling
import TenantRelay.Proofs.Retrying
import TenantRelay.Proofs.Rollback
import TenantRelay.Proofs.RoundTrip
import TenantRelay.Proofs.Segments
import TenantRelay.Proofs.ServicePaths
import TenantRelay.Proofs.Signing
import TenantRelay.Proofs.Startup
import TenantRelay.Proofs.StatusRelay
import TenantRelay.Proofs.StoreCalls
import TenantRelay.Proofs.Stretches
import TenantRelay.Proofs.Subscription
import TenantRelay.Proofs.Tallies
import TenantRelay.Proofs.Timestamps
import TenantRelay.Proofs.Trace
import TenantRelay.Proofs.Traffic
import TenantRelay.Proofs.Transparency
import TenantRelay.Proofs.Unsubscription
import TenantRelay.Proofs.Utf8Text
import TenantRelay.Proofs.WholeNumbers
import TenantRelay.Proofs.Withdrawals
import TenantRelay.Protocol
import TenantRelay.Server.Config
import TenantRelay.Server.Serving
import TenantRelay.Server.Setup
import TenantRelay.Server.Start
import TenantRelay.Signature
import TenantRelay.Site
import TenantRelay.Text.Blank
import TenantRelay.Text.Hex
import TenantRelay.Text.Hidden
import TenantRelay.Text.LowerCase
import TenantRelay.Text.Shown
import TenantRelay.Text.Utf8
import TenantRelay.Time.Calendar
import TenantRelay.Time.Span
import TenantRelay.Time.Timestamp
import TenantRelay.Transport.Client
import TenantRelay.Transport.Exchange
import TenantRelay.Transport.Failure
import TenantRelay.Url.Address
import TenantRelay.Url.Host
import TenantRelay.Url.Percent
