import SensorGateway.Bus.Session
import SensorGateway.Gateway.Run
import SensorGateway.Metrics.Exposition
import SensorGateway.Pool
import SensorGateway.Repository.Memory
import SensorGateway.Repository.Script
import SensorGateway.Telemetry
import SensorGateway.TimedCache
import SensorGateway.Wire.Records
import SensorGateway.Wire.Status
import SensorGateway.Proofs.Runs
import SensorGateway.Proofs.Table
import SensorGateway.Proofs.TimedMap.Entry
import SensorGateway.Proofs.TimedMap.Sweep
import SensorGateway.Proofs.Authorization.Entry
import SensorGateway.Proofs.Authorization.History
import SensorGateway.Proofs.Authorization.Sweeps
import SensorGateway.Proofs.Buffer.Contents
import SensorGateway.Proofs.Buffer.Account
import SensorGateway.Proofs.Gateway.Payloads
import SensorGateway.Proofs.Reload.Gather
import SensorGateway.Proofs.Reload.Failure
import SensorGateway.Proofs.Reload.Merge
import SensorGateway.Proofs.Reload.Refresh
import SensorGateway.Proofs.Gateway.Submission
import SensorGateway.Proofs.Gateway.Barred
import SensorGateway.Proofs.Gateway.Availability
import SensorGateway.Proofs.Pool.Conservation
import SensorGateway.Proofs.Pool.Account
import SensorGateway.Proofs.Gateway.Account
import SensorGateway.Proofs.Bus.Window
import SensorGateway.Proofs.Bus.Ledger
import SensorGateway.Proofs.Bus.Delivery
import SensorGateway.Proofs.Bus.Unread
import SensorGateway.Proofs.Gateway.Delivery
import SensorGateway.Proofs.Gateway.Batch
import SensorGateway.Proofs.Reload.Agreement
import SensorGateway.Proofs.Authorization.Keys
import SensorGateway.Proofs.Identifiers
import SensorGateway.Proofs.Json.Enclosure
import SensorGateway.Proofs.Json.Numeral
import SensorGateway.Proofs.Json.TextLiteral
import SensorGateway.Proofs.Wire.Codec
import SensorGateway.Proofs.Wire.Layout
import SensorGateway.Proofs.Wire.Records
import SensorGateway.Proofs.Text.Hex
import SensorGateway.Proofs.Text.Natural
import SensorGateway.Proofs.ObjectId
import SensorGateway.Proofs.Json.Tree
import SensorGateway.Proofs.Json.Scanning
import SensorGateway.Proofs.Json.Spelling
import SensorGateway.Proofs.Json.Items
import SensorGateway.Proofs.Json.Reading
import SensorGateway.Proofs.Measurement
import SensorGateway.Proofs.Gateway.Retry
import SensorGateway.Proofs.Reload.Flushed
import SensorGateway.Proofs.Gateway.Schedule
import SensorGateway.Proofs.TimedMap.History
import SensorGateway.Proofs.Bus.Draining
import SensorGateway.Proofs.Environment
import SensorGateway.Proofs.TimedMap.Expiry
import SensorGateway.Proofs.Repository.Order
import SensorGateway.Proofs.Authorization.Records
import SensorGateway.Proofs.Gateway.Gauge
