import TagGateway.Checkup.Checks
import TagGateway.CommandLine.Answer
import TagGateway.Listener
import TagGateway.Log.Loggers
import TagGateway.Main
import TagGateway.Payload.Decode
import TagGateway.Rehearsal.Exchange
import TagGateway.Rehearsal.Parts
import TagGateway.Rehearsal.Run
import TagGateway.Rehearsal.Service
import TagGateway.Settings.Validation
import TagGateway.Proofs.Address
import TagGateway.Proofs.Assoc
import TagGateway.Proofs.Bus.Router
import TagGateway.Proofs.Bus.Routes
import TagGateway.Proofs.Bus.Ledger
import TagGateway.Proofs.Bus.Delivery
import TagGateway.Proofs.Rehearsal.Exchange
import TagGateway.Proofs.Decimal.NotANumber
import TagGateway.Proofs.Payload.Fields
import TagGateway.Proofs.Payload.Modes
import TagGateway.Proofs.Payload.Exactness
import TagGateway.Proofs.Payload.Reading
import TagGateway.Proofs.Roster.Admission
import TagGateway.Proofs.Roster.Custody
import TagGateway.Proofs.Listener.Run
import TagGateway.Proofs.Listener.Delivery
import TagGateway.Proofs.Listener.Addresses
import TagGateway.Proofs.Discovery.Step
import TagGateway.Proofs.Discovery.Dispatch
import TagGateway.Proofs.Discovery.Lifecycle
import TagGateway.Proofs.Discovery.Requests
import TagGateway.Proofs.Discovery.Balance
import TagGateway.Proofs.Metrics.Accounts
import TagGateway.Proofs.Metrics.Series
import TagGateway.Proofs.Discovery.Moves
import TagGateway.Proofs.Gateway.Handling
import TagGateway.Proofs.Gateway.Strictness
import TagGateway.Proofs.Listener.Announcements
import TagGateway.Proofs.Listener.Startup
import TagGateway.Proofs.Gateway.Counting
import TagGateway.Proofs.Listener.RefusedStart
import TagGateway.Proofs.Listener.Exit
import TagGateway.Proofs.Settings.Reading
import TagGateway.Proofs.Settings.Validation
import TagGateway.Proofs.Settings.Soundness
import TagGateway.Proofs.Settings.Items
import TagGateway.Proofs.CommandLine.Overrides
import TagGateway.Proofs.Gateway.Blacklisting
import TagGateway.Proofs.Payload.Formats
import TagGateway.Proofs.Discovery.Retries
import TagGateway.Proofs.Payload.Independence
import TagGateway.Proofs.Payload.Refusal
import TagGateway.Proofs.Roster.Order
import TagGateway.Proofs.Bus.Variant
import TagGateway.Proofs.Metrics.Scrapes
import TagGateway.Proofs.Metrics.LabelSets
import TagGateway.Proofs.Gateway.Journal
import TagGateway.Proofs.Gateway.Release
import TagGateway.Proofs.Rehearsal.Receivers
import TagGateway.Proofs.Rehearsal.Service
import TagGateway.Proofs.Address.Canonical
import TagGateway.Proofs.Blacklist
import TagGateway.Proofs.Payload.Hex
import TagGateway.Proofs.Checkup.Radios
import TagGateway.Proofs.Log.Handlers
import TagGateway.Proofs.Address.Bytes
import TagGateway.Proofs.CommandLine.EmbeddedAddress
