import FieldGateway.Action
import FieldGateway.Address.Attribute
import FieldGateway.Address.Constraint
import FieldGateway.Address.LogicalDevice
import FieldGateway.Address.Reference
import FieldGateway.Broker.Admission
import FieldGateway.Broker.Message
import FieldGateway.Broker.Topic
import FieldGateway.Command.Access
import FieldGateway.Command.Catalog
import FieldGateway.Command.Light
import FieldGateway.Command.Point
import FieldGateway.Counter
import FieldGateway.Course
import FieldGateway.Device.Basic
import FieldGateway.Device.Codec
import FieldGateway.Device.Family
import FieldGateway.Envelope
import FieldGateway.Event.Kind
import FieldGateway.Event.Notification
import FieldGateway.Failure
import FieldGateway.Gateway.Basic
import FieldGateway.Gateway.Data
import FieldGateway.Gateway.Handle
import FieldGateway.Gateway.Reporting
import FieldGateway.Http
import FieldGateway.Json.Basic
import FieldGateway.Json.Fields
import FieldGateway.Json.Number
import FieldGateway.Json.Reader
import FieldGateway.Json.Token
import FieldGateway.Log
import FieldGateway.Model.Basic
import FieldGateway.Model.Codec
import FieldGateway.Model.Node
import FieldGateway.Model.Value
import FieldGateway.Outcome.Basic
import FieldGateway.Outcome.Codec
import FieldGateway.Plant.Agenda
import FieldGateway.Plant.Basic
import FieldGateway.Plant.Codec
import FieldGateway.Plant.Ied
import FieldGateway.Plant.Network
import FieldGateway.Plant.Preset
import FieldGateway.Proofs.Address.Grammar
import FieldGateway.Proofs.Address.Names
import FieldGateway.Proofs.Address.Parts
import FieldGateway.Proofs.Broker.Listening
import FieldGateway.Proofs.Broker.Requests
import FieldGateway.Proofs.Broker.Responses
import FieldGateway.Proofs.Broker.Topics
import FieldGateway.Proofs.Collector.Drain
import FieldGateway.Proofs.Collector.EntryTimes
import FieldGateway.Proofs.Collector.Periods
import FieldGateway.Proofs.Collector.Redelivery
import FieldGateway.Proofs.Command.Catalog
import FieldGateway.Proofs.Command.History
import FieldGateway.Proofs.Course.Protocol
import FieldGateway.Proofs.Crew.Basic
import FieldGateway.Proofs.Crew.Runs
import FieldGateway.Proofs.Gateway.Account
import FieldGateway.Proofs.Gateway.Aftermath
import FieldGateway.Proofs.Gateway.Batch
import FieldGateway.Proofs.Gateway.Boundary
import FieldGateway.Proofs.Gateway.Breaking
import FieldGateway.Proofs.Gateway.Conduct
import FieldGateway.Proofs.Gateway.Contact
import FieldGateway.Proofs.Gateway.Effects
import FieldGateway.Proofs.Gateway.Enabling
import FieldGateway.Proofs.Gateway.Ending
import FieldGateway.Proofs.Gateway.Gathering
import FieldGateway.Proofs.Gateway.Handling
import FieldGateway.Proofs.Gateway.Lights
import FieldGateway.Proofs.Gateway.Mirrors
import FieldGateway.Proofs.Gateway.Parts
import FieldGateway.Proofs.Gateway.Reading
import FieldGateway.Proofs.Gateway.SetPoints
import FieldGateway.Proofs.Gateway.Stock
import FieldGateway.Proofs.Gateway.Tasks
import FieldGateway.Proofs.Gateway.Transparency
import FieldGateway.Proofs.Gateway.Windows
import FieldGateway.Proofs.Json.Decoders
import FieldGateway.Proofs.Json.Edits
import FieldGateway.Proofs.Json.Forms
import FieldGateway.Proofs.Json.Presentation
import FieldGateway.Proofs.Json.Reordering
import FieldGateway.Proofs.Json.RoundTrip
import FieldGateway.Proofs.Json.Tables
import FieldGateway.Proofs.Json.Written
import FieldGateway.Proofs.Lists
import FieldGateway.Proofs.Model.Blocks
import FieldGateway.Proofs.Model.History
import FieldGateway.Proofs.Model.Written
import FieldGateway.Proofs.Plant.Alike
import FieldGateway.Proofs.Plant.Alone
import FieldGateway.Proofs.Plant.Calls
import FieldGateway.Proofs.Plant.Devices
import FieldGateway.Proofs.Plant.Links
import FieldGateway.Proofs.Plant.Nodes
import FieldGateway.Proofs.Plant.Outbox
import FieldGateway.Proofs.Plant.Presets
import FieldGateway.Proofs.Plant.Sharing
import FieldGateway.Proofs.Plant.Switches
import FieldGateway.Proofs.Registry.Listing
import FieldGateway.Proofs.Report.Agreement
import FieldGateway.Proofs.Report.Grouping
import FieldGateway.Proofs.Report.Relays
import FieldGateway.Proofs.Report.Search
import FieldGateway.Proofs.Report.Selection
import FieldGateway.Proofs.Retry.Trials
import FieldGateway.Proofs.Session.Closing
import FieldGateway.Proofs.Session.Standing
import FieldGateway.Proofs.Session.Write
import FieldGateway.Proofs.Settings.Reading
import FieldGateway.Proofs.Tables
import FieldGateway.Proofs.Text.Numerals
import FieldGateway.Proofs.Text.Spelling
import FieldGateway.Proofs.Yard.Handling
import FieldGateway.Proofs.Yard.Pairs
import FieldGateway.Proofs.Yard.Runs
import FieldGateway.Proofs.Yard.Stamps
import FieldGateway.Proofs.Yard.Steps
import FieldGateway.Proofs.Yard.Twins
import FieldGateway.Registry
import FieldGateway.Report.Basic
import FieldGateway.Report.Codec
import FieldGateway.Report.Collector
import FieldGateway.Report.Event
import FieldGateway.Report.Reading
import FieldGateway.Report.Selection
import FieldGateway.Request.Basic
import FieldGateway.Request.Codec
import FieldGateway.Retry.Basic
import FieldGateway.Retry.Rehearsal
import FieldGateway.Session
import FieldGateway.Settings
import FieldGateway.Table
import FieldGateway.Text.Ascii
import FieldGateway.Text.Blank
import FieldGateway.Text.Invisible
import FieldGateway.Text.Numeral
import FieldGateway.Text.Percent
import FieldGateway.Text.Quoted
