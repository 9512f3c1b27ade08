import ItemCatalog.Assoc
import ItemCatalog.Call
import ItemCatalog.Client
import ItemCatalog.Decimal.Shortest
import ItemCatalog.Effect
import ItemCatalog.Entropy
import ItemCatalog.Failure
import ItemCatalog.FieldErrors
import ItemCatalog.Health.Check
import ItemCatalog.Health.Probes
import ItemCatalog.Identifier
import ItemCatalog.Instant
import ItemCatalog.Item
import ItemCatalog.Json.Basic
import ItemCatalog.Json.Members
import ItemCatalog.Json.Number
import ItemCatalog.Json.Progress
import ItemCatalog.Json.Reader
import ItemCatalog.Log
import ItemCatalog.Main
import ItemCatalog.Message.Basic
import ItemCatalog.Message.Check
import ItemCatalog.Metadata
import ItemCatalog.Method
import ItemCatalog.Metrics.Basic
import ItemCatalog.Metrics.Exposition
import ItemCatalog.Metrics.Guard
import ItemCatalog.Name
import ItemCatalog.Operation
import ItemCatalog.Ordered
import ItemCatalog.Outcome
import ItemCatalog.Page
import ItemCatalog.Pipeline
import ItemCatalog.Program
import ItemCatalog.Proofs.Call
import ItemCatalog.Proofs.Client
import ItemCatalog.Proofs.Failure
import ItemCatalog.Proofs.FieldErrors
import ItemCatalog.Proofs.Health
import ItemCatalog.Proofs.Identifier
import ItemCatalog.Proofs.Json.Grammar
import ItemCatalog.Proofs.Json.Progress
import ItemCatalog.Proofs.Json.Typed
import ItemCatalog.Proofs.Json.Words
import ItemCatalog.Proofs.Json.Written
import ItemCatalog.Proofs.Message.Check
import ItemCatalog.Proofs.Message.Page
import ItemCatalog.Proofs.Metadata
import ItemCatalog.Proofs.Metrics.Events
import ItemCatalog.Proofs.Metrics.Markers
import ItemCatalog.Proofs.Metrics.Tally
import ItemCatalog.Proofs.Name
import ItemCatalog.Proofs.Operation
import ItemCatalog.Proofs.Page
import ItemCatalog.Proofs.Service.Addressing
import ItemCatalog.Proofs.Service.Annotated
import ItemCatalog.Proofs.Service.Backends
import ItemCatalog.Proofs.Service.Balance
import ItemCatalog.Proofs.Service.Books
import ItemCatalog.Proofs.Service.Catalogue
import ItemCatalog.Proofs.Service.Circumstances
import ItemCatalog.Proofs.Service.Course
import ItemCatalog.Proofs.Service.Demands
import ItemCatalog.Proofs.Service.Dialogue
import ItemCatalog.Proofs.Service.Discretion
import ItemCatalog.Proofs.Service.ErrorCode
import ItemCatalog.Proofs.Service.Fate
import ItemCatalog.Proofs.Service.Follows
import ItemCatalog.Proofs.Service.Grants
import ItemCatalog.Proofs.Service.InvalidUpdate
import ItemCatalog.Proofs.Service.Lifetimes
import ItemCatalog.Proofs.Service.Linear
import ItemCatalog.Proofs.Service.Names
import ItemCatalog.Proofs.Service.Paging
import ItemCatalog.Proofs.Service.Protocol
import ItemCatalog.Proofs.Service.Replay
import ItemCatalog.Proofs.Service.Resembles
import ItemCatalog.Proofs.Service.Standing
import ItemCatalog.Proofs.Service.Traffic
import ItemCatalog.Proofs.Service.World
import ItemCatalog.Proofs.Settings
import ItemCatalog.Proofs.Spelling
import ItemCatalog.Proofs.Sql.Agreement
import ItemCatalog.Proofs.Sql.Connection
import ItemCatalog.Proofs.Sql.Ledger
import ItemCatalog.Proofs.Sql.Server
import ItemCatalog.Proofs.Sql.Transcript
import ItemCatalog.Proofs.Stage.Admission
import ItemCatalog.Proofs.Stage.Layers
import ItemCatalog.Proofs.Stage.Load
import ItemCatalog.Proofs.Stage.Passing
import ItemCatalog.Proofs.Stage.SideBySide
import ItemCatalog.Proofs.Stage.Stations
import ItemCatalog.Proofs.Storage.Batch
import ItemCatalog.Proofs.Storage.Census
import ItemCatalog.Proofs.Storage.Commit
import ItemCatalog.Proofs.Storage.History
import ItemCatalog.Proofs.Storage.Listing
import ItemCatalog.Proofs.Storage.LostUpdate
import ItemCatalog.Proofs.Storage.Rearrangement
import ItemCatalog.Proofs.Storage.Turns
import ItemCatalog.Proofs.Text.Ascii
import ItemCatalog.Proofs.Text.Blank
import ItemCatalog.Proofs.Text.Utf8
import ItemCatalog.Proofs.Token.Acceptance
import ItemCatalog.Proofs.Token.Encoding
import ItemCatalog.Proofs.Token.Identity
import ItemCatalog.Proofs.User
import ItemCatalog.Service.Basic
import ItemCatalog.Service.Gateway
import ItemCatalog.Service.Methods
import ItemCatalog.Settings.Arguments
import ItemCatalog.Settings.Basic
import ItemCatalog.Settings.CommandLine
import ItemCatalog.Sql.Dialogue
import ItemCatalog.Sql.Pool
import ItemCatalog.Sql.Script
import ItemCatalog.Sql.Statement
import ItemCatalog.Stage.Basic
import ItemCatalog.Stage.Containment
import ItemCatalog.Stage.Gate
import ItemCatalog.Stage.Metering
import ItemCatalog.Stage.Recorder
import ItemCatalog.Status
import ItemCatalog.Storage.Basic
import ItemCatalog.Storage.Faulty
import ItemCatalog.Storage.Lifetime
import ItemCatalog.Storage.Table
import ItemCatalog.Storage.Workspace
import ItemCatalog.Surroundings
import ItemCatalog.Text.Ascii
import ItemCatalog.Text.Blank
import ItemCatalog.Text.Bytes
import ItemCatalog.Text.Hex
import ItemCatalog.Text.Quoted
import ItemCatalog.Text.Shapeless
import ItemCatalog.Token.Base64Url
import ItemCatalog.Token.Basic
import ItemCatalog.Token.Claims
import ItemCatalog.Token.Header
import ItemCatalog.Token.Sha256
import ItemCatalog.User
import ItemCatalog.Wire.Field
import ItemCatalog.Wire.Message
import ItemCatalog.Wire.Varint
