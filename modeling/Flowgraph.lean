import Flowgraph.Main
import Flowgraph.Proofs.Account.Success
import Flowgraph.Proofs.Backend.Line
import Flowgraph.Proofs.Extension.Loading
import Flowgraph.Proofs.Graph.Attachment
import Flowgraph.Proofs.Graph.Effect
import Flowgraph.Proofs.Graph.Freshness
import Flowgraph.Proofs.Graph.Mirror
import Flowgraph.Proofs.Graph.Readiness
import Flowgraph.Proofs.Identifier.Counting
import Flowgraph.Proofs.Intervention.Colors
import Flowgraph.Proofs.Intervention.Parity
import Flowgraph.Proofs.Plan.Checksum
import Flowgraph.Proofs.Plan.Codec
import Flowgraph.Proofs.Plan.Compile
import Flowgraph.Proofs.Queue.Pickup
import Flowgraph.Proofs.Queue.Sequence
import Flowgraph.Proofs.Queue.Serial
import Flowgraph.Proofs.Realtime.History
import Flowgraph.Proofs.Realtime.Priority
import Flowgraph.Proofs.Realtime.Respelling
import Flowgraph.Proofs.Settings.Sources
import Flowgraph.Proofs.Snapshot.Placeholder
import Flowgraph.Proofs.Snapshot.Reload
import Flowgraph.Proofs.Storage.Files
