import GossipIntake.Deduplicator.Outcome
import GossipIntake.Log.Notice

namespace GossipIntake

abbrev ObservedEvents := Window Descriptor Signature

instance : Sequenced Descriptor := ⟨Descriptor.generation⟩

structure Deduplicator where
  /-- Events with a generation below this are ancient. -/
  threshold : UInt64
  observed : ObservedEvents

namespace Deduplicator

def new : Deduplicator where
  threshold := 0
  observed := Window.new 0

structure Sighting where
  known : Bool
  signatures : Nat

def sight (signature : Signature) (signatures : ValueSet Signature) :
    Sighting × ValueSet Signature :=
  let inserted := signatures.insert signature
  ({ known := !inserted.1, signatures := inserted.2.size }, inserted.2)

def classify (deduplicator : Deduplicator) (event : GossipEvent) :
    Outcome × Deduplicator × List Notice :=
  if event.generation < deduplicator.threshold then (.ancient, deduplicator, [])
  else
    match deduplicator.observed.update event.descriptor (sight event.signature) with
    | .error error => (.ancient, deduplicator, [.descriptorRejected event.descriptor error])
    | .ok (sighting, observed) =>
      let next := { deduplicator with observed }
      if sighting.known then (.duplicate, next, [])
      else if 1 < sighting.signatures then
        (.disparateSignature, next,
          [.disparateSignature event.descriptor event.sender sighting.signatures])
      else (.accepted, next, [])

def advance (deduplicator : Deduplicator) (generation : UInt64) :
    Except IntakeError Nat × Deduplicator × List Notice :=
  match deduplicator.observed.shift generation with
  | .error error =>
    (.error (.floorRegression deduplicator.threshold generation), deduplicator,
      [.advanceRefused deduplicator.threshold generation error])
  | .ok (evicted, observed) =>
    (.ok evicted, { threshold := generation, observed },
      [.ofShift evicted observed, .advanced generation evicted observed.size])

def clear (deduplicator : Deduplicator) : Deduplicator × List Notice :=
  ({ deduplicator with observed := deduplicator.observed.clear },
    [.cleared deduplicator.observed.size])

def trackedDescriptors (deduplicator : Deduplicator) : Nat := deduplicator.observed.size

def observedSignatures (deduplicator : Deduplicator) : Nat := deduplicator.observed.valueCount

def descriptorState (deduplicator : Deduplicator) (descriptor : Descriptor) : DescriptorState :=
  .ofCount (((deduplicator.observed.get? descriptor).map Table.size).getD 0)

inductive Violation where
  | ancientResident
  | emptySignatureSet
  | floorOutOfSync
deriving DecidableEq, Repr

def noAncientResidents (deduplicator : Deduplicator) : Bool :=
  match deduplicator.observed.lowest? with
  | none => true
  | some lowest => deduplicator.threshold ≤ lowest

def noEmptySignatureSets (deduplicator : Deduplicator) : Bool :=
  deduplicator.observed.entries.entries.all fun entry => !entry.2.isEmpty

def floorInSync (deduplicator : Deduplicator) : Bool :=
  deduplicator.observed.floor == deduplicator.threshold

def checkInvariants (deduplicator : Deduplicator) : Except Violation Unit :=
  if !deduplicator.noAncientResidents then .error .ancientResident
  else if !deduplicator.noEmptySignatureSets then .error .emptySignatureSet
  else if !deduplicator.floorInSync then .error .floorOutOfSync
  else .ok ()

end Deduplicator

end GossipIntake
