import DeviceLink.Bench.Demo
import DeviceLink.Bench.Operation
import DeviceLink.Bench.Stages
import DeviceLink.Gateway
import DeviceLink.Host
import DeviceLink.Proofs.Decimal.Arithmetic
import DeviceLink.Proofs.Decimal.Conversion
import DeviceLink.Proofs.Decimal.Doubles
import DeviceLink.Proofs.Gateway.Addresses
import DeviceLink.Proofs.Gateway.DeclaredTypes
import DeviceLink.Proofs.Gateway.Effects
import DeviceLink.Proofs.Gateway.Reports
import DeviceLink.Proofs.Json.Members
import DeviceLink.Proofs.Json.Structure
import DeviceLink.Proofs.Json.Written
import DeviceLink.Proofs.Number.Order
import DeviceLink.Proofs.Number.Value
import DeviceLink.Proofs.Pipeline.ConditionOrder
import DeviceLink.Proofs.Pipeline.Containment
import DeviceLink.Proofs.Pipeline.Edges
import DeviceLink.Proofs.Pipeline.Entries
import DeviceLink.Proofs.Pipeline.Groups
import DeviceLink.Proofs.Pipeline.Locality
import DeviceLink.Proofs.Pipeline.Mapping
import DeviceLink.Proofs.Pipeline.Memory
import DeviceLink.Proofs.Pipeline.Origins
import DeviceLink.Proofs.Pipeline.Overflow
import DeviceLink.Proofs.Pipeline.Repetition
import DeviceLink.Proofs.Pipeline.Scaling
import DeviceLink.Proofs.Pipeline.StageOrder
import DeviceLink.Proofs.Pipeline.Validity
import DeviceLink.Proofs.Registry.Arrangement
import DeviceLink.Proofs.Registry.Fields
import DeviceLink.Proofs.Registry.Index
import DeviceLink.Proofs.Registry.Meaning
import DeviceLink.Proofs.Registry.RoundTrip
import DeviceLink.Proofs.Session.Answers
import DeviceLink.Proofs.Session.Batches
import DeviceLink.Proofs.Session.Checks
import DeviceLink.Proofs.Session.Commands
import DeviceLink.Proofs.Session.Connecting
import DeviceLink.Proofs.Session.Counting
import DeviceLink.Proofs.Session.Generations
import DeviceLink.Proofs.Session.Listening
import DeviceLink.Proofs.Session.Loading
import DeviceLink.Proofs.Session.Losses
import DeviceLink.Proofs.Session.Moments
import DeviceLink.Proofs.Session.Pairing
import DeviceLink.Proofs.Session.Panics
import DeviceLink.Proofs.Session.Presence
import DeviceLink.Proofs.Session.Roles
import DeviceLink.Proofs.Session.Stops
import DeviceLink.Proofs.Session.Tallies
import DeviceLink.Proofs.Session.Watching
import DeviceLink.Proofs.Settings.Acceptance
import DeviceLink.Proofs.Wire.Commands
import DeviceLink.Proofs.Wire.Fields
import DeviceLink.Proofs.Wire.Headers
import DeviceLink.Proofs.Wire.Identities
import DeviceLink.Proofs.Wire.Merging
import DeviceLink.Proofs.Wire.Messages
import DeviceLink.Settings.Load
import DeviceLink.Settings.Tracing
import DeviceLink.Wire.Client
