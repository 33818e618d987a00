import GossipIntake.Log.Logger
import GossipIntake.Proofs.Accounting.Saturation
import GossipIntake.Proofs.Accounting.Sharing
import GossipIntake.Proofs.Deduplicator.Batch
import GossipIntake.Proofs.Deduplicator.Content
import GossipIntake.Proofs.Deduplicator.Invariants
import GossipIntake.Proofs.Deduplicator.Ledger
import GossipIntake.Proofs.Deduplicator.Rejections
import GossipIntake.Proofs.Deduplicator.Residents
import GossipIntake.Proofs.Event.RoundTrip
import GossipIntake.Proofs.Metrics.Registration
import GossipIntake.Proofs.Settings.Stage
import GossipIntake.Proofs.Stage.Capacity
import GossipIntake.Proofs.Stage.Schedule
import GossipIntake.Proofs.Stage.Totals
import GossipIntake.Proofs.Window.Shifts
