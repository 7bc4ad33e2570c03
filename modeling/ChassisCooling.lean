import ChassisCooling.Binary.Arithmetic
import ChassisCooling.Binary.Basic
import ChassisCooling.Clock
import ChassisCooling.Config.Basic
import ChassisCooling.Config.Load
import ChassisCooling.Config.Targets
import ChassisCooling.Config.Text
import ChassisCooling.Control.Controller
import ChassisCooling.Control.Fan
import ChassisCooling.Control.Platform
import ChassisCooling.Control.Sensor
import ChassisCooling.Control.Zone
import ChassisCooling.Daemon.CommandLine
import ChassisCooling.Daemon.Loop
import ChassisCooling.Daemon.Program
import ChassisCooling.Daemon.Startup
import ChassisCooling.Decimal.Shortest
import ChassisCooling.Decimal.Style
import ChassisCooling.Duration
import ChassisCooling.Error
import ChassisCooling.Export.Directory
import ChassisCooling.Export.Row
import ChassisCooling.Files.Failure
import ChassisCooling.Files.Path
import ChassisCooling.Files.Tree
import ChassisCooling.History
import ChassisCooling.Hwmon.Channel
import ChassisCooling.Hwmon.DutyCycle
import ChassisCooling.Hwmon.Inventory
import ChassisCooling.Json.Fault
import ChassisCooling.Json.Number
import ChassisCooling.Json.Reader
import ChassisCooling.Json.Token
import ChassisCooling.Json.Value
import ChassisCooling.Machine.Basic
import ChassisCooling.Machine.Bench
import ChassisCooling.Main
import ChassisCooling.Proofs.Binary.Arithmetic
import ChassisCooling.Proofs.Binary.Nearness
import ChassisCooling.Proofs.Binary.Order
import ChassisCooling.Proofs.Binary.Rounding
import ChassisCooling.Proofs.Binary.Whole
import ChassisCooling.Proofs.Config.Forms
import ChassisCooling.Proofs.Config.Load
import ChassisCooling.Proofs.Config.Text
import ChassisCooling.Proofs.Config.Valid
import ChassisCooling.Proofs.Control.Access
import ChassisCooling.Proofs.Control.Alike
import ChassisCooling.Proofs.Control.Capacity
import ChassisCooling.Proofs.Control.Elapsed
import ChassisCooling.Proofs.Control.ExportIndependence
import ChassisCooling.Proofs.Control.ExportLog
import ChassisCooling.Proofs.Control.FanIndependence
import ChassisCooling.Proofs.Control.Frame
import ChassisCooling.Proofs.Control.FreshReadings
import ChassisCooling.Proofs.Control.Gap
import ChassisCooling.Proofs.Control.Hardware
import ChassisCooling.Proofs.Control.Interval
import ChassisCooling.Proofs.Control.Isolation
import ChassisCooling.Proofs.Control.Ledger
import ChassisCooling.Proofs.Control.Log
import ChassisCooling.Proofs.Control.Membership
import ChassisCooling.Proofs.Control.Monotone
import ChassisCooling.Proofs.Control.Overheat
import ChassisCooling.Proofs.Control.PushedReadings
import ChassisCooling.Proofs.Control.Reachable
import ChassisCooling.Proofs.Control.Reconfigure
import ChassisCooling.Proofs.Control.Routing
import ChassisCooling.Proofs.Control.SensorEvents
import ChassisCooling.Proofs.Control.SensorOrder
import ChassisCooling.Proofs.Control.SpeedRange
import ChassisCooling.Proofs.Control.StartingSpeed
import ChassisCooling.Proofs.Control.Step
import ChassisCooling.Proofs.Control.System
import ChassisCooling.Proofs.Control.Tick
import ChassisCooling.Proofs.Control.WellPlaced
import ChassisCooling.Proofs.Control.Writes
import ChassisCooling.Proofs.Daemon.CommandLine
import ChassisCooling.Proofs.Daemon.Course
import ChassisCooling.Proofs.Daemon.Loop
import ChassisCooling.Proofs.Daemon.PrintConfig
import ChassisCooling.Proofs.Daemon.Protocol
import ChassisCooling.Proofs.Daemon.Reload
import ChassisCooling.Proofs.Daemon.Restart
import ChassisCooling.Proofs.Duration
import ChassisCooling.Proofs.Export.Directory
import ChassisCooling.Proofs.Export.Reading
import ChassisCooling.Proofs.Files.Alike
import ChassisCooling.Proofs.Files.Elsewhere
import ChassisCooling.Proofs.Files.Footprint
import ChassisCooling.Proofs.Files.Growth
import ChassisCooling.Proofs.Files.Order
import ChassisCooling.Proofs.Files.Overwritten
import ChassisCooling.Proofs.Files.Place
import ChassisCooling.Proofs.Files.Tree
import ChassisCooling.Proofs.Files.WellFormed
import ChassisCooling.Proofs.History
import ChassisCooling.Proofs.HistoryLog
import ChassisCooling.Proofs.Hwmon.Calls
import ChassisCooling.Proofs.Hwmon.ChannelName
import ChassisCooling.Proofs.Hwmon.Discovery
import ChassisCooling.Proofs.Hwmon.DutyAccuracy
import ChassisCooling.Proofs.Hwmon.DutyCycle
import ChassisCooling.Proofs.Hwmon.FanFiles
import ChassisCooling.Proofs.Hwmon.Mode
import ChassisCooling.Proofs.Hwmon.Numerals
import ChassisCooling.Proofs.Hwmon.Rediscovery
import ChassisCooling.Proofs.Json.Elements
import ChassisCooling.Proofs.Json.Grammar
import ChassisCooling.Proofs.Json.Reader
import ChassisCooling.Proofs.Json.Token
import ChassisCooling.Proofs.Lookup
import ChassisCooling.Proofs.Machine.Bench
import ChassisCooling.Proofs.Machine.Channels
import ChassisCooling.Proofs.Machine.Footprint
import ChassisCooling.Proofs.Machine.OneSpeed
import ChassisCooling.Proofs.Machine.Retry
import ChassisCooling.Proofs.Pointwise
import ChassisCooling.Proofs.Seconds
import ChassisCooling.Proofs.Success
import ChassisCooling.Proofs.Text.Blank
import ChassisCooling.Proofs.Text.ByteOrder
import ChassisCooling.Proofs.Text.Integer
import ChassisCooling.Proofs.Thermal.Aggregate
import ChassisCooling.Proofs.Thermal.FirstHighest
import ChassisCooling.Proofs.Thermal.Order
import ChassisCooling.Proofs.Thermal.Warmer
import ChassisCooling.Text.Blank
import ChassisCooling.Text.Decoding
import ChassisCooling.Text.Hidden
import ChassisCooling.Text.Inspection
import ChassisCooling.Text.Integer
import ChassisCooling.Text.Quoted
import ChassisCooling.Thermal.Aggregate
import ChassisCooling.Thermal.Snapshot
