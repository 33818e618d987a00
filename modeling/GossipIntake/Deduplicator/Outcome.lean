import GossipIntake.Window.Basic

namespace GossipIntake

inductive Outcome where
  | accepted
  /-- A known descriptor with a signature not seen before. -/
  | disparateSignature
  | duplicate
  | ancient
deriving DecidableEq, Repr

namespace Outcome

def forwards : Outcome → Bool
  | .accepted | .disparateSignature => true
  | .duplicate | .ancient => false

def label : Outcome → String
  | .accepted => "accepted"
  | .disparateSignature => "disparate_signature"
  | .duplicate => "duplicate"
  | .ancient => "ancient"

def name : Outcome → String
  | .accepted => "Accepted"
  | .disparateSignature => "DisparateSignature"
  | .duplicate => "Duplicate"
  | .ancient => "Ancient"

end Outcome

inductive DescriptorState where
  | unseen
  | seenOnce
  | seenDisparate (signatures : Nat)
deriving DecidableEq, Repr

def DescriptorState.ofCount : Nat → DescriptorState
  | 0 => .unseen
  | 1 => .seenOnce
  | signatures => .seenDisparate signatures

inductive IntakeError where
  | floorRegression (current requested : UInt64)
  | downstreamClosed
  | stageStopped
  | taskFailed (reason : String)
deriving DecidableEq, Repr

def IntakeError.message : IntakeError → String
  | .floorRegression current requested =>
    "minimum generation non-ancient cannot decrease: current " ++ toString current.toNat ++
      ", requested " ++ toString requested.toNat
  | .downstreamClosed => "downstream consensus intake queue closed"
  | .stageStopped => "deduplication stage stopped"
  | .taskFailed reason => "deduplication stage task failed: " ++ reason

end GossipIntake
