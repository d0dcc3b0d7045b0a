import Telemetry.Attempt
import Telemetry.Attribute.Key
import Telemetry.Attribute.Map
import Telemetry.Bridge.Basic
import Telemetry.Bridge.Capture
import Telemetry.Bridge.Emitter
import Telemetry.Cache.Basic
import Telemetry.CallDepth
import Telemetry.Decimal.Layout
import Telemetry.Decimal.Shortest
import Telemetry.Diagnostic
import Telemetry.Double
import Telemetry.Event.Basic
import Telemetry.Event.Snapshot
import Telemetry.Framework
import Telemetry.Happening
import Telemetry.Host
import Telemetry.Mapper
import Telemetry.Message.Pattern
import Telemetry.Message.Structured
import Telemetry.Proofs.Attempt
import Telemetry.Proofs.Attribute.Insertion
import Telemetry.Proofs.Attribute.KeyCache
import Telemetry.Proofs.Attribute.LastWrite
import Telemetry.Proofs.Attribute.Order
import Telemetry.Proofs.Bridge.Admission
import Telemetry.Proofs.Bridge.Emission
import Telemetry.Proofs.Bridge.Failures
import Telemetry.Proofs.Bridge.Filter
import Telemetry.Proofs.Bridge.Frame
import Telemetry.Proofs.Bridge.History
import Telemetry.Proofs.Bridge.Loggers
import Telemetry.Proofs.Bridge.Memory
import Telemetry.Proofs.Bridge.Outermost
import Telemetry.Proofs.Bridge.Twins
import Telemetry.Proofs.Cache.Inclusion
import Telemetry.Proofs.Cache.Memory
import Telemetry.Proofs.Cache.Recency
import Telemetry.Proofs.Cache.Recent
import Telemetry.Proofs.Cache.Script
import Telemetry.Proofs.CallDepth
import Telemetry.Proofs.Host
import Telemetry.Proofs.Keyed
import Telemetry.Proofs.Mapper.Agreement
import Telemetry.Proofs.Mapper.Exception
import Telemetry.Proofs.Mapper.Gates
import Telemetry.Proofs.Mapper.Keys
import Telemetry.Proofs.Mapper.Listing
import Telemetry.Proofs.Mapper.MapMessage
import Telemetry.Proofs.Mapper.Memory
import Telemetry.Proofs.Mapper.Writes
import Telemetry.Proofs.Message.Outcome
import Telemetry.Proofs.Message.Reading
import Telemetry.Proofs.Message.Template
import Telemetry.Proofs.Program.Basic
import Telemetry.Proofs.Program.Unwrapped
import Telemetry.Proofs.Program.Visits
import Telemetry.Proofs.Reports
import Telemetry.Proofs.Settings.ListText
import Telemetry.Proofs.Settings.Reading
import Telemetry.Proofs.Settings.Resolution
import Telemetry.Proofs.Severity.Monotone
import Telemetry.Proofs.Statement.Execution
import Telemetry.Proofs.Statement.Frame
import Telemetry.Proofs.Statement.Ledger
import Telemetry.Proofs.Statement.ReadBack
import Telemetry.Proofs.Statement.Setters
import Telemetry.Proofs.Text.ByteOrder
import Telemetry.Proofs.Text.Trimmed
import Telemetry.Proofs.Undisturbed
import Telemetry.Record
import Telemetry.Settings.Capture
import Telemetry.Settings.Environment
import Telemetry.Settings.Value
import Telemetry.Severity.Basic
import Telemetry.Severity.Ladder
import Telemetry.Sink
import Telemetry.Span
import Telemetry.Statement.Identity
import Telemetry.Statement.Parameters
import Telemetry.Statement.Tracking
import Telemetry.Statement.Value
import Telemetry.Text.Blank
import Telemetry.Text.Outline
import Telemetry.Text.Quoted
import Telemetry.Text.Unmarked
import Telemetry.Timestamp
