import MetadataGateway.Argument
import MetadataGateway.Backend.Basic
import MetadataGateway.Backend.Server
import MetadataGateway.Cache.Basic
import MetadataGateway.Cache.Command
import MetadataGateway.Cache.Endpoint
import MetadataGateway.Cache.Memory
import MetadataGateway.Cache.Pool
import MetadataGateway.Cache.Remote
import MetadataGateway.Cache.Reply
import MetadataGateway.Calendar
import MetadataGateway.Coercion
import MetadataGateway.Config.Basic
import MetadataGateway.Config.CommandLine
import MetadataGateway.Config.Decoding
import MetadataGateway.Config.Loading
import MetadataGateway.Config.Overrides
import MetadataGateway.Config.Validation
import MetadataGateway.Dispatch.Basic
import MetadataGateway.Dispatch.Gateway
import MetadataGateway.Dispatch.Stage
import MetadataGateway.Fingerprint
import MetadataGateway.Http.Handler
import MetadataGateway.Http.Message
import MetadataGateway.Http.Response
import MetadataGateway.Http.Server
import MetadataGateway.Http.Target
import MetadataGateway.Journal
import MetadataGateway.Json.Basic
import MetadataGateway.Json.Cursor
import MetadataGateway.Json.Reader
import MetadataGateway.Json.Writer
import MetadataGateway.Main
import MetadataGateway.Net.Address
import MetadataGateway.Net.Domain.Direction
import MetadataGateway.Net.Domain.Joining
import MetadataGateway.Net.Domain.Mapping
import MetadataGateway.Net.Domain.Name
import MetadataGateway.Net.Domain.Punycode
import MetadataGateway.Net.Host
import MetadataGateway.Net.Url
import MetadataGateway.Number.FloatText
import MetadataGateway.Number.IntegerText
import MetadataGateway.Number.Shortest
import MetadataGateway.Operation
import MetadataGateway.Request
import MetadataGateway.Shutdown
import MetadataGateway.Text.Blank
import MetadataGateway.Text.Composition
import MetadataGateway.Text.Graphic
import MetadataGateway.Text.Hex
import MetadataGateway.Text.Mark
import MetadataGateway.Text.Percent
import MetadataGateway.Text.Quoted
import MetadataGateway.Text.Rows
import MetadataGateway.Text.Utf8
import MetadataGateway.Timestamp.Basic
import MetadataGateway.Timestamp.Reader
import MetadataGateway.Toml.Document
import MetadataGateway.Toml.Number
import MetadataGateway.Toml.Reader
import MetadataGateway.Toml.Text
import MetadataGateway.Proofs.Calendar
import MetadataGateway.Proofs.Journal
import MetadataGateway.Proofs.Number.IntegerText
import MetadataGateway.Proofs.Text.Blank
import MetadataGateway.Proofs.Text.Utf8
import MetadataGateway.Proofs.Text.Encoding
import MetadataGateway.Proofs.Request
import MetadataGateway.Proofs.Timestamp.Spelling
import MetadataGateway.Proofs.Timestamp.Reading
import MetadataGateway.Proofs.Timestamp.Meaning
import MetadataGateway.Proofs.Timestamp.Rendering
import MetadataGateway.Proofs.Timestamp.Order
import MetadataGateway.Proofs.Cache.Contents
import MetadataGateway.Proofs.Cache.Honest
import MetadataGateway.Proofs.Cache.Reply
import MetadataGateway.Proofs.Cache.Isolation
import MetadataGateway.Proofs.Cache.Written
import MetadataGateway.Proofs.Logs
import MetadataGateway.Proofs.Dispatch.Basic
import MetadataGateway.Proofs.Dispatch.Course
import MetadataGateway.Proofs.Dispatch.Transparency
import MetadataGateway.Proofs.Dispatch.Provenance
import MetadataGateway.Proofs.Dispatch.Observation
import MetadataGateway.Proofs.Dispatch.Effect
import MetadataGateway.Proofs.Dispatch.Persistence
import MetadataGateway.Proofs.Interleaving
import MetadataGateway.Proofs.Dispatch.Session
import MetadataGateway.Proofs.Dispatch.Accounting
import MetadataGateway.Proofs.Dispatch.Relevance
import MetadataGateway.Proofs.Http.Inertness
import MetadataGateway.Proofs.Http.Limit
import MetadataGateway.Proofs.Http.Path
import MetadataGateway.Proofs.Shutdown.Delivery
import MetadataGateway.Proofs.Toml.Names
import MetadataGateway.Proofs.Config.Overlay
import MetadataGateway.Proofs.Config.Violations
import MetadataGateway.Proofs.Cache.Endpoint
import MetadataGateway.Proofs.Coercion.Json
import MetadataGateway.Proofs.Coercion
import MetadataGateway.Proofs.Coercion.Items
import MetadataGateway.Proofs.Coercion.Integer
import MetadataGateway.Proofs.Coercion.Padding
import MetadataGateway.Proofs.Preparation
import MetadataGateway.Proofs.Backend.Query
import MetadataGateway.Proofs.Backend.Instant
import MetadataGateway.Proofs.Http.Envelope
import MetadataGateway.Proofs.Http.Tally
import MetadataGateway.Proofs.Http.MediaType
