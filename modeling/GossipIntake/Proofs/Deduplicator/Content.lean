import GossipIntake.Proofs.Deduplicator.History
import Mathlib.Data.Nat.Digits.Defs

namespace GossipIntake

theorem length_littleEndian (word : UInt64) : (littleEndian word).length = 8 := rfl

theorem ofDigits_littleEndian (word : UInt64) :
    Nat.ofDigits 256 ((littleEndian word).map UInt8.toNat) = word.toNat := by
  have bound : word.toNat < 2 ^ 64 := word.toNat_lt
  simp only [littleEndian, List.map_cons, List.map_nil, UInt64.shiftRight_zero,
    UInt64.toNat_toUInt8, UInt64.toNat_shiftRight, UInt64.reduceToNat, Nat.reduceMod,
    Nat.reducePow, Nat.shiftRight_eq_div_pow, Nat.ofDigits_cons, Nat.ofDigits_nil]
  omega

theorem littleEndian_injective : Function.Injective littleEndian := by
  intro word other same
  apply UInt64.toNat_inj.mp
  rw [← ofDigits_littleEndian word, same, ofDigits_littleEndian]

abbrev Content := NodeId × UInt64 × List UInt8

namespace Content

def preimage (content : Content) : List UInt8 :=
  Descriptor.preimage content.1 content.2.1 content.2.2

theorem preimage_injective : Function.Injective preimage := by
  rintro ⟨⟨creator⟩, generation, payload⟩ ⟨⟨otherCreator⟩, otherGeneration, otherPayload⟩ same
  have parts : littleEndian creator ++ (littleEndian generation ++ payload) =
      littleEndian otherCreator ++ (littleEndian otherGeneration ++ otherPayload) := by
    simpa [preimage, Descriptor.preimage] using same
  obtain ⟨sameCreator, rest⟩ := List.append_inj parts rfl
  obtain ⟨sameGeneration, samePayload⟩ := List.append_inj rest rfl
  rw [littleEndian_injective sameCreator, littleEndian_injective sameGeneration, samePayload]

end Content

namespace GossipEvent

/-- The events made from a payload, signed again and relayed any number of times. -/
inductive OfPayload : GossipEvent → Prop where
  | new (creator : NodeId) (generation : UInt64) (payload : List UInt8) (signature : Signature)
      (sender : NodeId) : OfPayload (new creator generation payload signature sender)
  | withSignature {event : GossipEvent} (made : OfPayload event) (signature : Signature) :
      OfPayload (event.withSignature signature)
  | relayedBy {event : GossipEvent} (made : OfPayload event) (peer : NodeId) :
      OfPayload (event.relayedBy peer)

def content (event : GossipEvent) : Content :=
  (event.descriptor.creator, event.generation, event.payload)

theorem OfPayload.built {event : GossipEvent} (made : event.OfPayload) : event.Built := by
  induction made with
  | new => exact .new _ _ _ _ _
  | withSignature _ signature built => exact built.withSignature signature
  | relayedBy _ peer built => exact built.relayedBy peer

theorem OfPayload.descriptor_eq {event : GossipEvent} (made : event.OfPayload) :
    event.descriptor = ⟨event.content.1, sha256 event.content.preimage, event.content.2.1⟩ := by
  induction made with
  | new => rfl
  | withSignature _ _ same => exact same
  | relayedBy _ _ same => exact same

theorem OfPayload.hash_eq {event : GossipEvent} (made : event.OfPayload) :
    event.descriptor.hash = sha256 event.content.preimage := by
  rw [made.descriptor_eq]

/-- Of no two of the events are different bytes hashed to the same digest. -/
def NoCollision (events : List GossipEvent) : Prop :=
  ∀ event ∈ events, ∀ other ∈ events, event.content.preimage ≠ other.content.preimage →
    sha256 event.content.preimage ≠ sha256 other.content.preimage

theorem descriptor_eq_iff {events : List GossipEvent} (apart : NoCollision events)
    (made : ∀ event ∈ events, event.OfPayload) {event other : GossipEvent} (member : event ∈ events)
    (otherMember : other ∈ events) :
    event.descriptor = other.descriptor ↔ event.content = other.content := by
  have descriptor := (made event member).descriptor_eq
  have otherDescriptor := (made other otherMember).descriptor_eq
  constructor
  · intro same
    have digest : sha256 event.content.preimage = sha256 other.content.preimage := by
      rw [← (made event member).hash_eq, ← (made other otherMember).hash_eq, same]
    by_contra differ
    exact apart event member other otherMember (Content.preimage_injective.ne differ) digest
  · intro same
    rw [descriptor, otherDescriptor, same]

end GossipEvent

def eventsOf (past : List Request) : List GossipEvent := past.filterMap Request.event?

theorem handledSinceClear_of_unclear {past : List Request} (unclear : .clear ∉ past)
    {descriptor : Descriptor} {signature : Signature} :
    HandledSinceClear past descriptor signature ↔
      ∃ event ∈ eventsOf past, event.descriptor = descriptor ∧ event.signature = signature := by
  constructor
  · rintro ⟨before, request, after, event, rfl, isEvent, same, signed, -⟩
    exact ⟨event, List.mem_filterMap.mpr ⟨request, by simp, isEvent⟩, same, signed⟩
  · rintro ⟨event, delivered, same, signed⟩
    obtain ⟨request, member, isEvent⟩ := List.mem_filterMap.mp delivered
    obtain ⟨before, after, rfl⟩ := List.append_of_mem member
    have later : .clear ∉ after := fun inside => unclear (by simp [inside])
    exact ⟨before, request, after, event, rfl, isEvent, same, signed, later⟩

structure Outcome.DecidedByContent (outcome : Outcome) (earlier : List GossipEvent)
    (event : GossipEvent) : Prop where
  duplicate : outcome = .duplicate ↔
    ∃ other ∈ earlier, other.content = event.content ∧ other.signature = event.signature
  disparate : outcome = .disparateSignature ↔
    (∃ other ∈ earlier, other.content = event.content) ∧
      ∀ other ∈ earlier, other.content = event.content → other.signature ≠ event.signature
  accepted : outcome = .accepted ↔ ∀ other ∈ earlier, other.content ≠ event.content

theorem Outcome.DecidedBy.byContent {outcome : Outcome} {threshold : UInt64}
    {seen : Signature → Prop} {event : GossipEvent} {earlier : List GossipEvent}
    (decided : outcome.DecidedBy threshold seen event) (current : outcome ≠ .ancient)
    (seen_iff : ∀ signature, seen signature ↔
      ∃ other ∈ earlier, other.content = event.content ∧ other.signature = signature) :
    outcome.DecidedByContent earlier event := by
  have above : threshold ≤ event.descriptor.generation :=
    UInt64.not_lt.mp fun below => current (decided.ancient.mpr below)
  have some : (∃ signature, seen signature) ↔ ∃ other ∈ earlier, other.content = event.content := by
    simp only [seen_iff]
    constructor
    · intro ⟨_, other, member, same, _⟩
      exact ⟨other, member, same⟩
    · intro ⟨other, member, same⟩
      exact ⟨other.signature, other, member, same, rfl⟩
  constructor
  · rw [decided.duplicate, seen_iff]
    simp only [above, true_and]
  · rw [decided.disparate, some, seen_iff]
    simp only [above, true_and, not_exists, not_and]
    exact and_comm
  · rw [decided.accepted, ← not_exists, some]
    simp only [above, true_and, not_exists, not_and]

def Request.relayedBy (request : Request) (peer : NodeId) : Request :=
  match request with
  | .classify event => .classify (event.relayedBy peer)
  | .handle event => .handle (event.relayedBy peer)
  | .advance generation => .advance generation
  | .clear => .clear

def deliveredBy (past : List Request) (peers : Nat → NodeId) : List Request :=
  past.mapIdx fun place request => request.relayedBy (peers place)

theorem Request.Built.relayedBy {request : Request} (built : request.Built) (peer : NodeId) :
    (request.relayedBy peer).Built := by
  intro event isEvent
  cases request <;> cases isEvent
  · exact (built _ rfl).relayedBy peer
  · exact (built _ rfl).relayedBy peer

theorem built_deliveredBy {past : List Request} (built : ∀ request ∈ past, request.Built)
    (peers : Nat → NodeId) : ∀ request ∈ deliveredBy past peers, request.Built := by
  intro request member
  obtain ⟨place, inside, rfl⟩ := List.mem_mapIdx.mp member
  exact (built _ (List.getElem_mem inside)).relayedBy _

theorem factsAbout_deliveredBy (past : List Request) (peers : Nat → NodeId) (descriptor : Descriptor) :
    (deliveredBy past peers).filterMap (·.factAbout descriptor) =
      past.filterMap (·.factAbout descriptor) := by
  induction past generalizing peers with
  | nil => rfl
  | cons request rest ih =>
    have later := ih fun place => peers (place + 1)
    have same : (request.relayedBy (peers 0)).factAbout descriptor = request.factAbout descriptor := by
      cases request <;> rfl
    rw [deliveredBy, List.mapIdx_cons, List.filterMap_cons, List.filterMap_cons, same]
    rw [deliveredBy] at later
    rw [later]

/-- What is hashed determines the content, so where no digests collide the outcome is decided by the
    contents and signatures delivered before. The peers that delivered them do not matter. -/
theorem deduplicated_by_content :
    (∀ word : UInt64, (littleEndian word).length = 8 ∧
      Nat.ofDigits 256 ((littleEndian word).map UInt8.toNat) = word.toNat) ∧
    (∀ content : Content,
      content.preimage = littleEndian content.1.index ++ littleEndian content.2.1 ++ content.2.2) ∧
    Function.Injective Content.preimage ∧
    (∀ event : GossipEvent, event.OfPayload → event.descriptor =
      ⟨event.content.1, sha256 event.content.preimage, event.content.2.1⟩) ∧
    ∀ (accounting : Accounting) (metrics : Recorder) (past : List Request) (event : GossipEvent),
      (∀ delivered ∈ event :: eventsOf past, delivered.OfPayload) → .clear ∉ past →
      GossipEvent.NoCollision (event :: eventsOf past) →
      let run := (Intake.new accounting metrics).run past
      let outcome := (run.2.classify event).1
      (outcome = .ancient ↔ event.generation < largestThreshold run.1) ∧
      (outcome ≠ .ancient → outcome.DecidedByContent (eventsOf past) event) ∧
      ∀ (peers : Nat → NodeId) (peer : NodeId),
        (((Intake.new accounting metrics).run (deliveredBy past peers)).2.classify
          (event.relayedBy peer)).1 = outcome := by
  refine ⟨fun word => ⟨length_littleEndian word, ofDigits_littleEndian word⟩, fun _ => rfl,
    Content.preimage_injective, fun _ made => made.descriptor_eq, ?_⟩
  intro accounting metrics past event made unclear apart run outcome
  have built : ∀ request ∈ past, request.Built := fun request member delivered isEvent =>
    (made delivered (List.mem_cons_of_mem _
      (List.mem_filterMap.mpr ⟨request, member, isEvent⟩))).built
  have eventBuilt : event.Built := (made event List.mem_cons_self).built
  have decided : outcome.DecidedBy (largestThreshold run.1)
      (HandledSinceClear past event.descriptor) event :=
    decidedBy_history accounting metrics built eventBuilt
  refine ⟨?_, fun current => decided.byContent current fun signature => ?_, fun peers peer => ?_⟩
  · rw [decided.ancient, eventBuilt.coherent]
  · rw [handledSinceClear_of_unclear unclear]
    refine exists_congr fun other => and_congr_right fun delivered => and_congr_left' ?_
    exact GossipEvent.descriptor_eq_iff apart made (List.mem_cons_of_mem _ delivered)
      List.mem_cons_self
  · exact same_outcome accounting accounting metrics metrics (built_deliveredBy built peers) built
      (eventBuilt.relayedBy peer) eventBuilt rfl rfl (factsAbout_deliveredBy past peers _)

theorem deduplicated_by_content_second_signature :
    let first := GossipEvent.new ⟨1⟩ 256 [7, 0] [9] ⟨2⟩
    let exchanged := GossipEvent.new ⟨256⟩ 1 [7, 0] [8] ⟨2⟩
    let event := (first.withSignature [8]).relayedBy ⟨3⟩
    let past := [.advance 1, .classify exchanged, .handle first]
    let outcome := (((Intake.new .off .silent).run past).2.classify event).1
    (∀ delivered ∈ event :: eventsOf past, delivered.OfPayload) ∧ .clear ∉ past ∧
      GossipEvent.NoCollision (event :: eventsOf past) ∧ outcome = .disparateSignature ∧
      (((Intake.new .off .silent).run (deliveredBy past fun place => ⟨UInt64.ofNat place⟩)).2.classify
        event).1 = .disparateSignature := by
  intro first exchanged event past outcome
  have firstMade : first.OfPayload := .new _ _ _ _ _
  have made : ∀ delivered ∈ event :: eventsOf past, delivered.OfPayload := by
    intro delivered member
    simp only [eventsOf, past, Request.event?, List.filterMap_cons, List.filterMap_nil,
      List.mem_cons, List.not_mem_nil, or_false] at member
    rcases member with rfl | rfl | rfl
    · exact (firstMade.withSignature _).relayedBy _
    · exact .new _ _ _ _ _
    · exact firstMade
  have unclear : .clear ∉ past := by decide
  have differ : sha256 first.content.preimage ≠ sha256 exchanged.content.preimage := by
    decide +kernel
  have contents : ∀ delivered ∈ event :: eventsOf past,
      delivered.content = first.content ∨ delivered.content = exchanged.content := by decide
  have apart : GossipEvent.NoCollision (event :: eventsOf past) := by
    intro delivered member other otherMember distinct
    rcases contents delivered member with same | same <;>
      rcases contents other otherMember with otherSame | otherSame <;>
      rw [same, otherSame] at distinct ⊢
    · exact absurd rfl distinct
    · exact differ
    · exact differ.symm
    · exact absurd rfl distinct
  obtain ⟨ancient, byContent, peers⟩ :=
    deduplicated_by_content.2.2.2.2 .off .silent past event made unclear apart
  have current : outcome ≠ .ancient := by
    rw [ne_eq, ancient]
    decide +kernel
  have disparate : outcome = .disparateSignature :=
    (byContent current).disparate.mpr (by decide +kernel)
  exact ⟨made, unclear, apart, disparate, (peers _ event.sender).trans disparate⟩

end GossipIntake
