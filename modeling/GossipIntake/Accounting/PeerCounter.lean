import GossipIntake.Event.Basic
import GossipIntake.Table

namespace GossipIntake

/-- How many events of each peer are in the pipeline. A peer with a count of zero may be known or
    not. -/
structure PeerCounter where
  counts : Table NodeId UInt64
deriving DecidableEq

namespace PeerCounter

inductive Exit where
  | counted
  | idle
  | unknown
deriving DecidableEq, Repr

def empty : PeerCounter := { counts := ∅ }

def register (counter : PeerCounter) (peer : NodeId) : PeerCounter :=
  { counts := counter.counts.upsert peer 0 id }

def ofPeers (peers : List NodeId) : PeerCounter := peers.foldl register empty

def inFlight (counter : PeerCounter) (peer : NodeId) : UInt64 := (counter.counts.get? peer).getD 0

def hasInFlight (counter : PeerCounter) (peer : NodeId) : Bool := 0 < counter.inFlight peer

def enterKnown (counter : PeerCounter) (peer : NodeId) : PeerCounter :=
  { counts := counter.counts.modify peer (· + 1) }

def enterRegistering (counter : PeerCounter) (peer : NodeId) : PeerCounter :=
  { counts := counter.counts.upsert peer 0 (· + 1) }

def enter (counter : PeerCounter) (peer : NodeId) : PeerCounter :=
  if counter.counts.contains peer then counter.enterKnown peer else counter.enterRegistering peer

def exit (counter : PeerCounter) (peer : NodeId) : Exit × PeerCounter :=
  match counter.counts.get? peer with
  | none => (.unknown, counter)
  | some count =>
    if count = 0 then (.idle, counter)
    else (.counted, { counts := counter.counts.modify peer (· - 1) })

def reset (_ : PeerCounter) : PeerCounter := empty

end PeerCounter

inductive Accounting where
  | perPeer (counter : PeerCounter)
  | off
deriving DecidableEq

namespace Accounting

def enter (accounting : Accounting) (peer : NodeId) : Accounting :=
  match accounting with
  | .perPeer counter => .perPeer (counter.enter peer)
  | .off => .off

/-- Without accounting every exit passes for counted. -/
def exit (accounting : Accounting) (peer : NodeId) : PeerCounter.Exit × Accounting :=
  match accounting with
  | .perPeer counter => ((counter.exit peer).1, .perPeer (counter.exit peer).2)
  | .off => (.counted, .off)

def hasInFlight (accounting : Accounting) (peer : NodeId) : Bool :=
  match accounting with
  | .perPeer counter => counter.hasInFlight peer
  | .off => false

def inFlight? (accounting : Accounting) (peer : NodeId) : Option UInt64 :=
  match accounting with
  | .perPeer counter => some (counter.inFlight peer)
  | .off => none

def reset (accounting : Accounting) : Accounting :=
  match accounting with
  | .perPeer counter => .perPeer counter.reset
  | .off => .off

end Accounting

end GossipIntake
