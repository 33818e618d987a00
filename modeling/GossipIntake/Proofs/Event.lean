import GossipIntake.Proofs.Event.Records

namespace GossipIntake.GossipEvent

inductive Built : GossipEvent → Prop where
  | new (creator : NodeId) (generation : UInt64) (payload : List UInt8) (signature : Signature)
      (sender : NodeId) : Built (new creator generation payload signature sender)
  | ofDescriptor (descriptor : Descriptor) (signature : Signature) (sender : NodeId) :
      Built (ofDescriptor descriptor signature sender)
  | parsed {text : String} {event : GossipEvent} (read : parse text = .ok event) : Built event
  | relayedBy {event : GossipEvent} (built : Built event) (peer : NodeId) :
      Built (event.relayedBy peer)
  | withSignature {event : GossipEvent} (built : Built event) (signature : Signature) :
      Built (event.withSignature signature)

theorem coherent_of_parse {text : String} {event : GossipEvent} (read : parse text = .ok event) :
    event.Coherent := by
  obtain ⟨_, -, form⟩ := parse_eq_ok_iff.mp read
  exact form.coherent

theorem Built.coherent {event : GossipEvent} (built : event.Built) : event.Coherent := by
  induction built with
  | new => exact coherent_new _ _ _ _ _
  | ofDescriptor => exact coherent_ofDescriptor _ _ _
  | parsed read => exact coherent_of_parse read
  | relayedBy _ peer ih => exact ih.relayedBy peer
  | withSignature _ signature ih => exact ih.withSignature signature

end GossipIntake.GossipEvent
