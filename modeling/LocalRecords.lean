import LocalRecords.Main
import LocalRecords.Proofs.Message.Delivery
import LocalRecords.Proofs.Record.Pieces
import LocalRecords.Proofs.Record.Layout
import LocalRecords.Proofs.Record.RoundTrip
import LocalRecords.Proofs.Record.Emission
import LocalRecords.Proofs.Record.Session
import LocalRecords.Proofs.Record.Conservation
import LocalRecords.Proofs.Message.Calls
import LocalRecords.Proofs.Message.Supply
import LocalRecords.Proofs.Record.Streaming
import LocalRecords.Proofs.Server.Pairing
import LocalRecords.Proofs.Server.Table
import LocalRecords.Proofs.Message.Interruption
import LocalRecords.Proofs.Message.Datagram
import LocalRecords.Proofs.Record.Interruption
import LocalRecords.Proofs.Server.Datagrams
import LocalRecords.Proofs.Record.Buffer
import LocalRecords.Proofs.Server.Memory
import LocalRecords.Proofs.Message.Overreport
import LocalRecords.Proofs.Server.Receipt
import LocalRecords.Proofs.Server.Isolation
import LocalRecords.Proofs.Server.Interleaving
import LocalRecords.Proofs.Server.Custody
import LocalRecords.Proofs.Socket.Reading
import LocalRecords.Proofs.Record.Rules
import LocalRecords.Proofs.Record.Limits
import LocalRecords.Proofs.Record.Capacity
import LocalRecords.Proofs.Record.Refusal
import LocalRecords.Proofs.Message.Control
import LocalRecords.Proofs.Message.SingleOffer
import LocalRecords.Proofs.Message.Termination
import LocalRecords.Proofs.Message.Values
import LocalRecords.Proofs.Record.Compaction
import LocalRecords.Proofs.Record.Agreement
import LocalRecords.Proofs.Server.Journals
import LocalRecords.Proofs.Socket.Ranges
import LocalRecords.Proofs.Socket.Lifecycle
import LocalRecords.Proofs.Socket.Address
import LocalRecords.Proofs.Settings.Paths
import LocalRecords.Proofs.Settings.Source
import LocalRecords.Proofs.Message.Cut
import LocalRecords.Proofs.SourceLines
import LocalRecords.Proofs.Socket.Walk
import LocalRecords.Proofs.Socket.Intake
import LocalRecords.Proofs.Host.Intake
import LocalRecords.Proofs.Socket.Descriptors
