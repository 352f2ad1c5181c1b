import Gatehouse.Access.Bearer
import Gatehouse.Access.Gate
import Gatehouse.Access.Rejection
import Gatehouse.Access.Security
import Gatehouse.Clock
import Gatehouse.Codec.Base64Url
import Gatehouse.Codec.Percent
import Gatehouse.Codec.Uuid
import Gatehouse.Config.Application
import Gatehouse.Config.Limits
import Gatehouse.Config.Server
import Gatehouse.Config.Source
import Gatehouse.Cors.Config
import Gatehouse.Cors.Rules
import Gatehouse.Database.Address
import Gatehouse.Database.Pool
import Gatehouse.Digest.Sha1
import Gatehouse.Digest.Sha256
import Gatehouse.Event
import Gatehouse.Http.Address
import Gatehouse.Http.Encoding
import Gatehouse.Http.MediaType
import Gatehouse.Http.Message
import Gatehouse.Http.Request
import Gatehouse.Http.Target
import Gatehouse.Http.Token
import Gatehouse.Http.Wire
import Gatehouse.Json.Cursor
import Gatehouse.Json.Decoder
import Gatehouse.Json.Fault
import Gatehouse.Json.Value
import Gatehouse.Main
import Gatehouse.Metrics.Exposition
import Gatehouse.Metrics.Registry
import Gatehouse.Metrics.Tracking
import Gatehouse.Problem
import Gatehouse.RateLimit.Counter
import Gatehouse.RateLimit.Decision
import Gatehouse.RateLimit.Error
import Gatehouse.RateLimit.Evaluator
import Gatehouse.RateLimit.Limiter
import Gatehouse.RateLimit.Memory
import Gatehouse.RateLimit.Policy
import Gatehouse.RateLimit.Prepared
import Gatehouse.RateLimit.Scope
import Gatehouse.Redis.Address
import Gatehouse.Redis.Connection
import Gatehouse.Redis.Counters
import Gatehouse.Redis.Failure
import Gatehouse.Redis.Reply
import Gatehouse.Router.Table
import Gatehouse.Router.Template
import Gatehouse.Service.Backends
import Gatehouse.Service.Dependencies
import Gatehouse.Service.Handlers
import Gatehouse.Service.Hardening
import Gatehouse.Service.Pipeline
import Gatehouse.Service.Refresh
import Gatehouse.Service.Stages
import Gatehouse.Service.World
import Gatehouse.Startup.Boot
import Gatehouse.Startup.EnvFile
import Gatehouse.Startup.LogFilter
import Gatehouse.Text.Blank
import Gatehouse.Text.IllFormed
import Gatehouse.Text.Numeral
import Gatehouse.Text.Printable
import Gatehouse.Text.Quoted
import Gatehouse.Text.Shortest
import Gatehouse.Text.Utf8
import Gatehouse.Token.Claims
import Gatehouse.Token.Config
import Gatehouse.Token.Error
import Gatehouse.Token.Header
import Gatehouse.Token.Service
import Gatehouse.Url
import Gatehouse.Proofs.RateLimit.StoreWindows
import Gatehouse.Proofs.Text.Utf8
import Gatehouse.Proofs.Codec.Base64Url
import Gatehouse.Proofs.Json.Written
import Gatehouse.Proofs.Json.Tokens
import Gatehouse.Proofs.Json.Numerals
import Gatehouse.Proofs.Json.Reading
import Gatehouse.Proofs.Json.Skipping
import Gatehouse.Proofs.Token.Framing
import Gatehouse.Proofs.Token.Authentic
import Gatehouse.Proofs.Token.RoundTrip
import Gatehouse.Proofs.Json.Agreement
import Gatehouse.Proofs.Token.Soundness
import Gatehouse.Proofs.RateLimit.Passage
import Gatehouse.Proofs.Service.Layers
import Gatehouse.Proofs.Service.Pace
import Gatehouse.Proofs.Router.Handlers
import Gatehouse.Proofs.Service.FailOpen
import Gatehouse.Proofs.RateLimit.Decisions
import Gatehouse.Proofs.RateLimit.Visits
import Gatehouse.Proofs.RateLimit.Admission
import Gatehouse.Proofs.RateLimit.InProcess
import Gatehouse.Proofs.Service.Breakdowns
import Gatehouse.Proofs.Access.Credential
import Gatehouse.Proofs.Access.Gate
import Gatehouse.Proofs.RateLimit.Checks
import Gatehouse.Proofs.RateLimit.Quota
import Gatehouse.Proofs.RateLimit.Interleaving
import Gatehouse.Proofs.RateLimit.Isolation
import Gatehouse.Proofs.Service.Modest
import Gatehouse.Proofs.Service.Answered
import Gatehouse.Proofs.Service.Hardened
import Gatehouse.Proofs.Service.Accounting
import Gatehouse.Proofs.Http.Fields
import Gatehouse.Proofs.Http.Received
import Gatehouse.Proofs.RateLimit.Keys
import Gatehouse.Proofs.RateLimit.Resets
import Gatehouse.Proofs.Access.Refusals
import Gatehouse.Proofs.RateLimit.Numbers
import Gatehouse.Proofs.Token.Refreshing
import Gatehouse.Proofs.Metrics.Tables
import Gatehouse.Proofs.Service.Identifiers
import Gatehouse.Proofs.Metrics.Series
import Gatehouse.Proofs.Router.Literal
import Gatehouse.Proofs.Service.Routes
import Gatehouse.Proofs.Service.Caller
import Gatehouse.Proofs.Access.Declarations
import Gatehouse.Proofs.Cors.Building
import Gatehouse.Proofs.Cors.Granted
import Gatehouse.Proofs.Service.Judged
import Gatehouse.Proofs.Service.LeftAlone
import Gatehouse.Proofs.Service.Health
import Gatehouse.Proofs.Token.Inspection
import Gatehouse.Proofs.Access.Expiry
import Gatehouse.Proofs.RateLimit.RetryAfter
import Gatehouse.Proofs.Token.Renewal
import Gatehouse.Proofs.Service.Exchange
import Gatehouse.Proofs.RateLimit.StableResets
import Gatehouse.Proofs.Http.Problems
import Gatehouse.Proofs.Json.TreeFields
import Gatehouse.Proofs.Config.Scopes
import Gatehouse.Proofs.Config.Overlay
import Gatehouse.Proofs.Config.Orders
import Gatehouse.Proofs.Config.Loading
import Gatehouse.Proofs.Json.Reordering
import Gatehouse.Proofs.Json.Acceptance
import Gatehouse.Proofs.Json.Additions
import Gatehouse.Proofs.RateLimit.Patches
import Gatehouse.Proofs.Json.Trees
import Gatehouse.Proofs.Json.Spelling
import Gatehouse.Proofs.Access.Grammar
import Gatehouse.Proofs.RateLimit.Sweeping
