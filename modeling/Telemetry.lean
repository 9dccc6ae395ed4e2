import Telemetry.Files.Folder
import Telemetry.Link.Rehearsal
import Telemetry.Main
import Telemetry.Proofs.Ack.Grammar
import Telemetry.Proofs.Ack.Lines
import Telemetry.Proofs.Ack.Unordered
import Telemetry.Proofs.Config.File
import Telemetry.Proofs.Encoder.Line
import Telemetry.Proofs.Encoder.Sharing
import Telemetry.Proofs.Event.Lines
import Telemetry.Proofs.Event.Members
import Telemetry.Proofs.Link.Resending
import Telemetry.Proofs.Link.Traffic
import Telemetry.Proofs.Output.Books
import Telemetry.Proofs.Output.Retry
import Telemetry.Proofs.Output.Shipment
import Telemetry.Proofs.Record.Edits
import Telemetry.Proofs.Transport.Framing
import Telemetry.Proofs.Value.Conversion
import Telemetry.Proofs.Value.Display
import Telemetry.Proofs.Value.Document
import Telemetry.Transport.Memory
import Telemetry.Transport.Scripted
import Telemetry.Proofs.Event.Stream
import Telemetry.Proofs.Event.Time
import Telemetry.Proofs.Instant.Exact
import Telemetry.Proofs.Transport.Pipe
import Telemetry.Proofs.Transport.Writing
import Telemetry.Proofs.Link.Patience
import Telemetry.Proofs.Value.Equality
