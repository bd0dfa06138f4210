import SensorLink.Channel.Broadcast
import SensorLink.Channel.Watch
import SensorLink.CommandLine.Grammar
import SensorLink.CommandLine.Invocation
import SensorLink.CommandLine.Level
import SensorLink.CommandLine.Plan
import SensorLink.CommandLine.Synopsis
import SensorLink.CommandLine.Value
import SensorLink.CommandTable.Basic
import SensorLink.CommandTable.Builtin
import SensorLink.CommandTable.Reader
import SensorLink.CommandTable.Record
import SensorLink.Decimal.Binary64
import SensorLink.Decimal.Layout
import SensorLink.Decimal.Reader
import SensorLink.Decimal.Shortest
import SensorLink.DeviceId
import SensorLink.Dialogue.Basic
import SensorLink.Dialogue.Command
import SensorLink.Dialogue.Outcome
import SensorLink.Error.BadParameter
import SensorLink.Error.Basic
import SensorLink.Error.Malformed
import SensorLink.Firmware.Router
import SensorLink.Firmware.Sensor
import SensorLink.Framer
import SensorLink.Illuminance.Handler
import SensorLink.Illuminance.Limits
import SensorLink.Illuminance.Parameters
import SensorLink.Illuminance.Reading
import SensorLink.Illuminance.Settings
import SensorLink.Json.Document
import SensorLink.Json.Number
import SensorLink.Json.Printer
import SensorLink.Json.Token
import SensorLink.Json.Value
import SensorLink.Link.Basic
import SensorLink.Link.Circuit
import SensorLink.Link.Connect
import SensorLink.Link.Line
import SensorLink.Link.Observers
import SensorLink.Link.Reader
import SensorLink.Link.Router
import SensorLink.Link.State
import SensorLink.Module.Handler
import SensorLink.Module.Registry
import SensorLink.Packet.Basic
import SensorLink.Packet.Codec
import SensorLink.Packet.Length
import SensorLink.Packet.Report
import SensorLink.Power
import SensorLink.Proofs.Packet.Fields
import SensorLink.Proofs.Packet.Layout
import SensorLink.Rehearsal.Pair
import SensorLink.Rehearsal.Run
import SensorLink.Rehearsal.Session
import SensorLink.Rehearsal.Task
import SensorLink.Rehearsal.World
import SensorLink.Reply.Awaited
import SensorLink.Reply.Stream
import SensorLink.Router.Command
import SensorLink.Router.Reply
import SensorLink.Router.Report
import SensorLink.Router.Slot
import SensorLink.Text.Blank
import SensorLink.Text.Hex
import SensorLink.Text.Hidden
import SensorLink.Text.Integer
import SensorLink.Text.Quoted
import SensorLink.Time.Calendar
import SensorLink.Time.Duration
import SensorLink.Wire.Word
import SensorLink.Main
import SensorLink.Proofs.Framer.Reading
import SensorLink.Proofs.Framer.Chunks
import SensorLink.Proofs.Framer.Noise
import SensorLink.Proofs.Firmware.Blocks
import SensorLink.Proofs.Reply.Look
import SensorLink.Proofs.Dialogue.Course
import SensorLink.Proofs.Dialogue.Subscription
import SensorLink.Proofs.Firmware.Transfer
import SensorLink.Proofs.Dialogue.Quiet
import SensorLink.Proofs.Dialogue.Exchange
import SensorLink.Proofs.Dialogue.NamedCommand
import SensorLink.Proofs.Dialogue.Isolation
import SensorLink.Proofs.Dialogue.Attention
import SensorLink.Proofs.Dialogue.Concern
import SensorLink.Proofs.Dialogue.SideBySide
import SensorLink.Proofs.Dialogue.Writing
import SensorLink.Proofs.Dialogue.Rehearsal
import SensorLink.Proofs.Firmware.RouterChunks
import SensorLink.Proofs.Firmware.RouterUpdate
import SensorLink.Proofs.Dialogue.InputErrors
import SensorLink.Proofs.Dialogue.SettingsRead
import SensorLink.Proofs.Illuminance.Updates
import SensorLink.Proofs.Illuminance.Ranges
import SensorLink.Proofs.Dialogue.UnsupportedSettings
import SensorLink.Proofs.Dialogue.SettingsChange
import SensorLink.Proofs.Channel.Receipt
import SensorLink.Proofs.Framer.Frames
import SensorLink.Proofs.Framer.Delimited
import SensorLink.Proofs.Framer.Conservation
import SensorLink.Proofs.Framer.Crawl
import SensorLink.Proofs.Packet.LengthRule
import SensorLink.Proofs.Packet.Decision
import SensorLink.Proofs.Framer.Backlog
import SensorLink.Proofs.Framer.Agreement
import SensorLink.Proofs.Json.Members
import SensorLink.Proofs.Module.Resolution
import SensorLink.Proofs.Link.Account
import SensorLink.Proofs.Link.Episode
import SensorLink.Proofs.Link.Dispatch
import SensorLink.Proofs.Link.Books
import SensorLink.Proofs.Link.Prompt
import SensorLink.Proofs.Link.Lifecycle
import SensorLink.Proofs.Link.Delivery
import SensorLink.Proofs.Link.Ledger
import SensorLink.Proofs.Link.Counters
import SensorLink.Proofs.Link.Reentry
import SensorLink.Proofs.Link.Deeds
import SensorLink.Proofs.Link.Requests
import SensorLink.Proofs.Link.Writes
import SensorLink.Proofs.Link.Leftovers
import SensorLink.Proofs.Reply.Wait
import SensorLink.Proofs.Reply.Vigil
import SensorLink.Proofs.Reply.Loss
import SensorLink.Proofs.Illuminance.ParameterBlock
import SensorLink.Proofs.Illuminance.Samples
import SensorLink.Proofs.Router.Interpretation
import SensorLink.Proofs.Router.Slots
import SensorLink.Proofs.DeviceId.Spelling
import SensorLink.Proofs.DeviceId.Grammar
import SensorLink.Proofs.Json.Lexeme
import SensorLink.Proofs.Json.Written
import SensorLink.Proofs.Json.Printed
import SensorLink.Proofs.Json.Arrangement
import SensorLink.Proofs.Text.Payload
import SensorLink.Proofs.CommandTable.Record
import SensorLink.Proofs.CommandTable.Draft
import SensorLink.Proofs.CommandTable.Site
import SensorLink.Proofs.CommandTable.Number
import SensorLink.Proofs.CommandTable.Arrangement
import SensorLink.Proofs.CommandTable.Payload
import SensorLink.Proofs.CommandLine.Parts
import SensorLink.Proofs.CommandLine.Payload
import SensorLink.Proofs.Packet.Decision
