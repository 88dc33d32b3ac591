import MemberDiscovery.Application
import MemberDiscovery.Client.Failover
import MemberDiscovery.Client.Settings
import MemberDiscovery.Config.Leaves
import MemberDiscovery.Config.PropertySet
import MemberDiscovery.Config.PropertyText
import MemberDiscovery.Config.Resource
import MemberDiscovery.Config.YamlLeaves
import MemberDiscovery.Deployment.Basic
import MemberDiscovery.Deployment.Client
import MemberDiscovery.Deployment.Exchange
import MemberDiscovery.Deployment.Status
import MemberDiscovery.Discovery.Candidate
import MemberDiscovery.Discovery.Lifecycle
import MemberDiscovery.Discovery.Member
import MemberDiscovery.Discovery.MetadataKeys
import MemberDiscovery.Discovery.Options
import MemberDiscovery.Discovery.StatusPolicy
import MemberDiscovery.Environment
import MemberDiscovery.Error
import MemberDiscovery.Instance.Basic
import MemberDiscovery.Instance.Config
import MemberDiscovery.Instance.Manager
import MemberDiscovery.Instance.Wire
import MemberDiscovery.Json.Basic
import MemberDiscovery.Json.Document
import MemberDiscovery.Json.Record
import MemberDiscovery.Net.Http
import MemberDiscovery.Net.IpAddress
import MemberDiscovery.Net.Url
import MemberDiscovery.Number.Binary64
import MemberDiscovery.Number.Integer
import MemberDiscovery.Number.Shortest
import MemberDiscovery.Proofs.Client.Acceptance
import MemberDiscovery.Proofs.Client.Failover
import MemberDiscovery.Proofs.Client.ServerOrder
import MemberDiscovery.Proofs.Config.BadEscapes
import MemberDiscovery.Proofs.Config.Branching
import MemberDiscovery.Proofs.Config.Checks
import MemberDiscovery.Proofs.Config.Escapes
import MemberDiscovery.Proofs.Config.Flattening
import MemberDiscovery.Proofs.Config.Formats
import MemberDiscovery.Proofs.Config.Isolation
import MemberDiscovery.Proofs.Config.JsonLeaves
import MemberDiscovery.Proofs.Config.Layout
import MemberDiscovery.Proofs.Config.LineReader
import MemberDiscovery.Proofs.Config.Locating
import MemberDiscovery.Proofs.Config.LogicalLines
import MemberDiscovery.Proofs.Config.Parts
import MemberDiscovery.Proofs.Config.Reading
import MemberDiscovery.Proofs.Config.Rejection
import MemberDiscovery.Proofs.Config.Scopes
import MemberDiscovery.Proofs.Config.Spelling
import MemberDiscovery.Proofs.Config.YamlLeaves
import MemberDiscovery.Proofs.Deployment.CallStages
import MemberDiscovery.Proofs.Deployment.Connection
import MemberDiscovery.Proofs.Deployment.Copies
import MemberDiscovery.Proofs.Deployment.Ending
import MemberDiscovery.Proofs.Deployment.Exchanges
import MemberDiscovery.Proofs.Deployment.Execution
import MemberDiscovery.Proofs.Deployment.Heartbeats
import MemberDiscovery.Proofs.Deployment.Interleaving
import MemberDiscovery.Proofs.Deployment.Observers
import MemberDiscovery.Proofs.Deployment.Outside
import MemberDiscovery.Proofs.Deployment.ProviderMetadata
import MemberDiscovery.Proofs.Deployment.Publishing
import MemberDiscovery.Proofs.Deployment.Renewal
import MemberDiscovery.Proofs.Deployment.Requests
import MemberDiscovery.Proofs.Deployment.Rounds
import MemberDiscovery.Proofs.Deployment.ScheduledFailures
import MemberDiscovery.Proofs.Deployment.Session
import MemberDiscovery.Proofs.Deployment.Sharing
import MemberDiscovery.Proofs.Deployment.Soundness
import MemberDiscovery.Proofs.Deployment.Stability
import MemberDiscovery.Proofs.Deployment.Tracking
import MemberDiscovery.Proofs.Discovery.Announcement
import MemberDiscovery.Proofs.Discovery.Building
import MemberDiscovery.Proofs.Discovery.Candidates
import MemberDiscovery.Proofs.Discovery.Cluster
import MemberDiscovery.Proofs.Discovery.Enrollment
import MemberDiscovery.Proofs.Discovery.FailedBuilding
import MemberDiscovery.Proofs.Discovery.Filtering
import MemberDiscovery.Proofs.Discovery.Invariants
import MemberDiscovery.Proofs.Discovery.Joining
import MemberDiscovery.Proofs.Discovery.Leaving
import MemberDiscovery.Proofs.Discovery.Lifecycle
import MemberDiscovery.Proofs.Discovery.Membership
import MemberDiscovery.Proofs.Discovery.Onlookers
import MemberDiscovery.Proofs.Discovery.OptionSources
import MemberDiscovery.Proofs.Discovery.Policies
import MemberDiscovery.Proofs.Discovery.Polling
import MemberDiscovery.Proofs.Discovery.Reachability
import MemberDiscovery.Proofs.Discovery.Searching
import MemberDiscovery.Proofs.Discovery.Sources
import MemberDiscovery.Proofs.Discovery.Verification
import MemberDiscovery.Proofs.Discovery.Waiting
import MemberDiscovery.Proofs.Instance.Endpoints
import MemberDiscovery.Proofs.Instance.Pushes
import MemberDiscovery.Proofs.Instance.RoundTrip
import MemberDiscovery.Proofs.Instance.Spellings
import MemberDiscovery.Proofs.Json.Fields
import MemberDiscovery.Proofs.Json.Spellings
import MemberDiscovery.Proofs.Json.Writing
import MemberDiscovery.Proofs.Net.Escapes
import MemberDiscovery.Proofs.Net.Paths
import MemberDiscovery.Proofs.Net.RequestPaths
import MemberDiscovery.Proofs.Number.Decimal
import MemberDiscovery.Proofs.Registry.Applications
import MemberDiscovery.Proofs.Registry.Contents
import MemberDiscovery.Proofs.Registry.Naming
import MemberDiscovery.Proofs.Registry.OrderedMap
import MemberDiscovery.Registry.Memory
import MemberDiscovery.Registry.Remote
import MemberDiscovery.Registry.Request
import MemberDiscovery.Slots
import MemberDiscovery.Table
import MemberDiscovery.Text.Base64
import MemberDiscovery.Text.Blank
import MemberDiscovery.Text.Quoted
import MemberDiscovery.Text.Shown
import MemberDiscovery.Text.Split
import MemberDiscovery.Text.Units
import MemberDiscovery.Text.Upper
import MemberDiscovery.Yaml.Basic
import MemberDiscovery.Yaml.Cursor
import MemberDiscovery.Yaml.Document
import MemberDiscovery.Yaml.Indentation
import MemberDiscovery.Yaml.Lexeme
import MemberDiscovery.Yaml.Node
import MemberDiscovery.Yaml.Reference
import MemberDiscovery.Yaml.Scalar
