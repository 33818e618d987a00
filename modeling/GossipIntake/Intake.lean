import GossipIntake.Accounting.PeerCounter
import GossipIntake.Deduplicator.Basic
import GossipIntake.Metrics.Tallies

namespace GossipIntake

/-- A deduplicator together with all that it reports to. -/
structure Intake where
  deduplicator : Deduplicator
  accounting : Accounting
  metrics : Recorder
  /-- What has been logged, newest first. -/
  journal : List Notice

namespace Intake

def new (accounting : Accounting) (metrics : Recorder) : Intake where
  deduplicator := Deduplicator.new
  accounting
  metrics
  journal := []

def log (intake : Intake) (notice : Notice) : Intake :=
  { intake with journal := notice :: intake.journal }

def logAll (intake : Intake) (notices : List Notice) : Intake := notices.foldl log intake

def enter (intake : Intake) (peer : NodeId) : Intake :=
  { intake with accounting := intake.accounting.enter peer }

def exit (intake : Intake) (peer : NodeId) : Intake :=
  let left := intake.accounting.exit peer
  let next := { intake with accounting := left.2 }
  match left.1 with
  | .counted => next
  | .idle => next.log (.idlePeerExit peer)
  | .unknown => next.log (.unknownPeerExit peer)

def classify (intake : Intake) (event : GossipEvent) : Outcome × Intake :=
  let classified := intake.deduplicator.classify event
  let outcome := classified.1
  let recorded : Intake :=
    { intake with
      deduplicator := classified.2.1
      metrics := intake.metrics.record outcome }
  let noted := recorded.logAll classified.2.2
  let left := if outcome.forwards then noted else noted.exit event.sender
  (outcome, left.log (.classified event.descriptor event.sender outcome))

def handle (intake : Intake) (event : GossipEvent) : Option GossipEvent × Intake :=
  let classified := intake.classify event
  (if classified.1.forwards then some event else none, classified.2)

def deliver (intake : Intake) (event : GossipEvent) : Option GossipEvent × Intake :=
  (intake.enter event.sender).handle event

def advance (intake : Intake) (generation : UInt64) : Except IntakeError Nat × Intake :=
  let advanced := intake.deduplicator.advance generation
  (advanced.1, { intake with deduplicator := advanced.2.1 }.logAll advanced.2.2)

def clear (intake : Intake) : Intake :=
  let cleared := intake.deduplicator.clear
  { intake with deduplicator := cleared.1 }.logAll cleared.2

end Intake

end GossipIntake
