import GossipIntake.Digest.Sha256

namespace GossipIntake

/-- A member of the address book, by its index: the creator of an event, or the peer that sent it. -/
structure NodeId where
  index : UInt64
deriving DecidableEq, Inhabited

namespace NodeId

def display (node : NodeId) : String := "node-" ++ toString node.index.toNat

end NodeId

def littleEndian (n : UInt64) : List UInt8 :=
  [0, 8, 16, 24, 32, 40, 48, 56].map fun (places : UInt64) => (n >>> places).toUInt8

abbrev Signature := List UInt8

structure Descriptor where
  creator : NodeId
  hash : Digest
  generation : UInt64
deriving DecidableEq

namespace Descriptor

/-- Creator and generation have eight bytes each, so nothing of them can pass for payload. -/
def preimage (creator : NodeId) (generation : UInt64) (payload : List UInt8) : List UInt8 :=
  littleEndian creator.index ++ littleEndian generation ++ payload

def eventHash (creator : NodeId) (generation : UInt64) (payload : List UInt8) : Digest :=
  sha256 (preimage creator generation payload)

def forPayload (creator : NodeId) (generation : UInt64) (payload : List UInt8) : Descriptor where
  creator
  hash := eventHash creator generation payload
  generation

def display (descriptor : Descriptor) : String :=
  descriptor.creator.display ++ "@" ++ toString descriptor.generation.toNat ++ ":" ++
    Hex.encode (descriptor.hash.toList.take 4)

end Descriptor

structure GossipEvent where
  descriptor : Descriptor
  /-- The descriptor's generation, kept at hand. -/
  generation : UInt64
  signature : Signature
  sender : NodeId
  payload : List UInt8
deriving DecidableEq

namespace GossipEvent

def new (creator : NodeId) (generation : UInt64) (payload : List UInt8) (signature : Signature)
    (sender : NodeId) : GossipEvent where
  descriptor := Descriptor.forPayload creator generation payload
  generation
  signature
  sender
  payload

def ofDescriptor (descriptor : Descriptor) (signature : Signature) (sender : NodeId) :
    GossipEvent where
  descriptor
  generation := descriptor.generation
  signature
  sender
  payload := []

def relayedBy (event : GossipEvent) (peer : NodeId) : GossipEvent := { event with sender := peer }

def withSignature (event : GossipEvent) (signature : Signature) : GossipEvent :=
  { event with signature }

def Coherent (event : GossipEvent) : Prop := event.generation = event.descriptor.generation

instance (event : GossipEvent) : Decidable event.Coherent :=
  inferInstanceAs (Decidable (event.generation = event.descriptor.generation))

theorem coherent_new (creator : NodeId) (generation : UInt64) (payload : List UInt8)
    (signature : Signature) (sender : NodeId) :
    (new creator generation payload signature sender).Coherent := rfl

theorem coherent_ofDescriptor (descriptor : Descriptor) (signature : Signature) (sender : NodeId) :
    (ofDescriptor descriptor signature sender).Coherent := rfl

theorem Coherent.relayedBy {event : GossipEvent} (coherent : event.Coherent) (peer : NodeId) :
    (event.relayedBy peer).Coherent := coherent

theorem Coherent.withSignature {event : GossipEvent} (coherent : event.Coherent)
    (signature : Signature) : (event.withSignature signature).Coherent := coherent

end GossipEvent

end GossipIntake
