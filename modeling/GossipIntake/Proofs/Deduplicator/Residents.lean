import GossipIntake.Proofs.Deduplicator.History
import GossipIntake.Proofs.Window.Refinement

namespace GossipIntake

theorem ValueSet.mem_values {V : Type} [BEq V] [LawfulBEq V] {set : ValueSet V} {value : V} :
    value ∈ set.values ↔ set.contains value = true := by
  rw [Table.contains_iff]
  constructor
  · exact fun member => ⟨value, member, BEq.rfl⟩
  · rintro ⟨stored, member, same⟩
    exact eq_of_beq same ▸ member

theorem ValueSet.nodup_values {V : Type} [BEq V] [LawfulBEq V] (set : ValueSet V) :
    set.values.Nodup := set.nodup_keys

structure DescriptorState.Tells (state : DescriptorState) (signatures : Nat) : Prop where
  unseen : state = .unseen ↔ signatures = 0
  seenOnce : state = .seenOnce ↔ signatures = 1
  seenDisparate : ∀ count, state = .seenDisparate count ↔ signatures = count ∧ 2 ≤ count

theorem DescriptorState.tells_ofCount (signatures : Nat) : (ofCount signatures).Tells signatures := by
  match signatures with
  | 0 | 1 => constructor <;> simp [ofCount]
  | more + 2 => constructor <;> simp [ofCount]

theorem DescriptorState.Tells.unique {state other : DescriptorState} {signatures : Nat}
    (tells : state.Tells signatures) (also : other.Tells signatures) : state = other := by
  cases state with
  | unseen => exact (also.unseen.mpr (tells.unseen.mp rfl)).symm
  | seenOnce => exact (also.seenOnce.mpr (tells.seenOnce.mp rfl)).symm
  | seenDisparate count => exact ((also.seenDisparate count).mpr ((tells.seenDisparate count).mp rfl)).symm

namespace Deduplicator

variable {deduplicator other : Deduplicator} {threshold : UInt64}
  {handled : Descriptor → Signature → Prop}

theorem contains_eq_isSome_get? (deduplicator : Deduplicator) (descriptor : Descriptor) :
    deduplicator.observed.contains descriptor =
      (deduplicator.observed.get? descriptor).isSome :=
  Table.contains_eq_isSome_get? _ _

theorem descriptorState_eq_ofCount (deduplicator : Deduplicator) (descriptor : Descriptor) :
    deduplicator.descriptorState descriptor =
      .ofCount (deduplicator.signatures descriptor).size := by
  rw [descriptorState, signatures]
  cases deduplicator.observed.get? descriptor <;> rfl

/-- What was handled below the threshold does not matter. -/
theorem Remembers.restrict (remembers : deduplicator.Remembers threshold handled)
    {otherHandled : Descriptor → Signature → Prop}
    (same : ∀ descriptor signature, threshold ≤ descriptor.generation →
      (handled descriptor signature ↔ otherHandled descriptor signature)) :
    deduplicator.Remembers threshold otherHandled :=
  { remembers with
    known := fun descriptor signature current =>
      (remembers.known descriptor signature current).trans (same descriptor signature current) }

theorem Remembers.mem_values_signatures (remembers : deduplicator.Remembers threshold handled)
    (descriptor : Descriptor) (signature : Signature) :
    signature ∈ (deduplicator.signatures descriptor).values ↔
      threshold ≤ descriptor.generation ∧ handled descriptor signature := by
  rw [ValueSet.mem_values]
  by_cases current : threshold ≤ descriptor.generation
  · rw [remembers.known descriptor signature current]
    simp [current]
  · have absent : deduplicator.observed.get? descriptor = none := by
      have nonresident := mt (remembers.above descriptor) current
      simpa [contains_eq_isSome_get?] using nonresident
    rw [signatures, absent]
    simp only [current, false_and, iff_false]
    exact Bool.false_ne_true

theorem Remembers.contains_iff (remembers : deduplicator.Remembers threshold handled)
    (descriptor : Descriptor) :
    deduplicator.observed.contains descriptor = true ↔
      threshold ≤ descriptor.generation ∧ ∃ signature, handled descriptor signature := by
  constructor
  · intro resident
    have current := remembers.above descriptor resident
    refine ⟨current, ?_⟩
    rw [contains_eq_isSome_get?] at resident
    obtain ⟨set, found⟩ := Option.isSome_iff_exists.mp resident
    have some : (deduplicator.signatures descriptor).size ≠ 0 := by
      rw [signatures, found]
      exact remembers.occupied descriptor set found
    by_contra unseen
    exact some ((remembers.size_eq_zero_iff current).mpr fun signature seen =>
      unseen ⟨signature, seen⟩)
  · rintro ⟨current, signature, seen⟩
    have known := (remembers.mem_values_signatures descriptor signature).mpr ⟨current, seen⟩
    cases found : deduplicator.observed.get? descriptor with
    | none =>
      rw [signatures, found] at known
      cases known
    | some set => rw [contains_eq_isSome_get?, found, Option.isSome_some]

theorem Remembers.mem_values (remembers : deduplicator.Remembers threshold handled)
    {descriptor : Descriptor} {set : ValueSet Signature}
    (resident : deduplicator.observed.get? descriptor = some set) (signature : Signature) :
    signature ∈ set.values ↔ handled descriptor signature := by
  have reached : deduplicator.signatures descriptor = set := by rw [signatures, resident]; rfl
  have current : threshold ≤ descriptor.generation := by
    apply remembers.above
    rw [contains_eq_isSome_get?, resident, Option.isSome_some]
  rw [← reached, remembers.mem_values_signatures]
  simp [current]

theorem Remembers.descriptorState_tells (remembers : deduplicator.Remembers threshold handled)
    (descriptor : Descriptor) :
    ∃ signatures : Finset Signature,
      (∀ signature, signature ∈ signatures ↔
        threshold ≤ descriptor.generation ∧ handled descriptor signature) ∧
      (deduplicator.descriptorState descriptor).Tells signatures.card := by
  have distinct := (deduplicator.signatures descriptor).nodup_values
  refine ⟨(deduplicator.signatures descriptor).values.toFinset, fun signature => ?_, ?_⟩
  · rw [List.mem_toFinset, remembers.mem_values_signatures]
  · have card : (deduplicator.signatures descriptor).values.toFinset.card =
        (deduplicator.signatures descriptor).size := by
      rw [List.toFinset_card_of_nodup distinct]
      simp [ValueSet.values, Table.keys, Table.size]
    rw [descriptorState_eq_ofCount, card]
    exact DescriptorState.tells_ofCount _

theorem row_plain (deduplicator : Deduplicator) (descriptor : Descriptor) :
    deduplicator.observed.plain.row (classOf descriptor) =
      ((deduplicator.observed.get? descriptor).map ValueSet.classes).map (descriptor, ·) := by
  show (deduplicator.observed.entries.find? descriptor).map Window.rowOf = _
  rw [Window.get?, Table.get?]
  cases found : deduplicator.observed.entries.find? descriptor with
  | none => rfl
  | some entry =>
    have stored : entry.1 = descriptor := eq_of_beq (Table.find?_mem found).2
    simp [Window.rowOf, stored]

theorem Remembers.contains_congr (remembers : deduplicator.Remembers threshold handled)
    (also : other.Remembers threshold handled) (descriptor : Descriptor) :
    deduplicator.observed.contains descriptor = other.observed.contains descriptor := by
  rw [Bool.eq_iff_iff, remembers.contains_iff, also.contains_iff]

theorem Remembers.classes_eq (remembers : deduplicator.Remembers threshold handled)
    (also : other.Remembers threshold handled) (descriptor : Descriptor) :
    (deduplicator.observed.get? descriptor).map ValueSet.classes =
      (other.observed.get? descriptor).map ValueSet.classes := by
  have alike := remembers.contains_congr also descriptor
  rw [contains_eq_isSome_get?, contains_eq_isSome_get?] at alike
  cases mine : deduplicator.observed.get? descriptor with
  | none =>
    rw [mine, Option.isSome_none] at alike
    have theirs : other.observed.get? descriptor = none := by simpa using alike.symm
    rw [theirs]
  | some set =>
    rw [mine, Option.isSome_some] at alike
    obtain ⟨copy, theirs⟩ := Option.isSome_iff_exists.mp alike.symm
    have classes : set.classes = copy.classes := by
      ext c
      obtain ⟨signature, rfl⟩ := exists_classOf c
      rw [ValueSet.mem_classes, ValueSet.mem_classes, ← ValueSet.mem_values,
        ← ValueSet.mem_values, remembers.mem_values mine, also.mem_values theirs]
    rw [theirs, Option.map_some, Option.map_some, classes]

theorem Remembers.plain_eq (remembers : deduplicator.Remembers threshold handled)
    (also : other.Remembers threshold handled) :
    deduplicator.observed.plain = other.observed.plain := by
  apply PlainWindow.ext
  · exact remembers.inSync.trans also.inSync.symm
  · intro c
    obtain ⟨descriptor, rfl⟩ := exists_classOf c
    rw [row_plain, row_plain, remembers.classes_eq also]

/-- Whatever is asked of two deduplicators about their residents, they answer alike. -/
structure Agree (deduplicator other : Deduplicator) : Prop where
  threshold : deduplicator.threshold = other.threshold
  residents : ∀ descriptor,
    deduplicator.observed.contains descriptor = other.observed.contains descriptor
  signatures : ∀ descriptor signature,
    signature ∈ (deduplicator.signatures descriptor).values ↔
      signature ∈ (other.signatures descriptor).values
  observed : ∃ plain, deduplicator.observed.ReadsAs plain ∧ other.observed.ReadsAs plain
  descriptorState : ∀ descriptor,
    deduplicator.descriptorState descriptor = other.descriptorState descriptor
  trackedDescriptors : deduplicator.trackedDescriptors = other.trackedDescriptors
  observedSignatures : deduplicator.observedSignatures = other.observedSignatures

theorem Remembers.agree (remembers : deduplicator.Remembers threshold handled)
    (also : other.Remembers threshold handled) : deduplicator.Agree other := by
  have mine := remembers.indexed.shows.readsAs
  have theirs := also.indexed.shows.readsAs
  rw [← remembers.plain_eq also] at theirs
  constructor
  case threshold => exact remembers.current.trans also.current.symm
  case residents => exact remembers.contains_congr also
  case signatures =>
    intro descriptor signature
    rw [remembers.mem_values_signatures, also.mem_values_signatures]
  case observed => exact ⟨_, mine, theirs⟩
  case descriptorState =>
    intro descriptor
    obtain ⟨signatures, known, state⟩ := remembers.descriptorState_tells descriptor
    obtain ⟨others, alsoKnown, otherState⟩ := also.descriptorState_tells descriptor
    have equal : signatures = others := by
      ext signature
      rw [known, alsoKnown]
    rw [← equal] at otherState
    exact state.unique otherState
  case trackedDescriptors => exact mine.size.trans theirs.size.symm
  case observedSignatures => exact mine.valueCount.trans theirs.valueCount.symm

end Deduplicator

theorem not_handledSinceClear_nil (descriptor : Descriptor) (signature : Signature) :
    ¬ HandledSinceClear [] descriptor signature := by
  rintro ⟨before, request, after, event, split, -⟩
  cases before <;> cases split

theorem handledSinceClear_cons {request : Request} {rest : List Request} {descriptor : Descriptor}
    {signature : Signature} :
    HandledSinceClear (request :: rest) descriptor signature ↔
      (.clear ∉ rest ∧ ∃ event, request.event? = some event ∧ event.descriptor = descriptor ∧
        event.signature = signature) ∨
      HandledSinceClear rest descriptor signature := by
  constructor
  · rintro ⟨before, found, after, event, split, isEvent, same, signed, unclear⟩
    cases before with
    | nil =>
      cases split
      exact .inl ⟨unclear, event, isEvent, same, signed⟩
    | cons head before =>
      cases split
      exact .inr ⟨before, found, after, event, rfl, isEvent, same, signed, unclear⟩
  · rintro (⟨unclear, event, isEvent, same, signed⟩ | ⟨before, found, after, event, rfl, rest⟩)
    · exact ⟨[], request, rest, event, rfl, isEvent, same, signed, unclear⟩
    · exact ⟨request :: before, found, after, event, rfl, rest⟩

theorem remembers_run_threshold (accounting : Accounting) (metrics : Recorder)
    {past : List Request} (built : ∀ request ∈ past, request.Built) :
    let deduplicator := ((Intake.new accounting metrics).run past).2.deduplicator
    deduplicator.Remembers deduplicator.threshold (HandledSinceClear past) := by
  have remembers := remembers_run accounting metrics built
  have current := remembers.current
  rw [← current] at remembers
  exact remembers

/-- What is kept is decided by what was delivered since the last clear and by the threshold. -/
theorem residents_by_deliveries (accounting : Accounting) (metrics : Recorder)
    (past : List Request) (built : ∀ request ∈ past, request.Built) :
    let deduplicator := ((Intake.new accounting metrics).run past).2.deduplicator
    (∀ descriptor, deduplicator.observed.contains descriptor = true ↔
      deduplicator.threshold ≤ descriptor.generation ∧
        ∃ signature, HandledSinceClear past descriptor signature) ∧
    (∀ descriptor set, deduplicator.observed.get? descriptor = some set → ∀ signature,
      signature ∈ set.values ↔ HandledSinceClear past descriptor signature) ∧
    (∀ descriptor, ∃ signatures : Finset Signature,
      (∀ signature, signature ∈ signatures ↔ deduplicator.threshold ≤ descriptor.generation ∧
        HandledSinceClear past descriptor signature) ∧
      (deduplicator.descriptorState descriptor).Tells signatures.card) ∧
    ∀ (otherAccounting : Accounting) (otherMetrics : Recorder) (otherPast : List Request),
      (∀ request ∈ otherPast, request.Built) →
      let other := ((Intake.new otherAccounting otherMetrics).run otherPast).2.deduplicator
      deduplicator.threshold = other.threshold →
      (∀ descriptor signature, deduplicator.threshold ≤ descriptor.generation →
        (HandledSinceClear past descriptor signature ↔
          HandledSinceClear otherPast descriptor signature)) →
      deduplicator.Agree other := by
  intro deduplicator
  have remembers : deduplicator.Remembers deduplicator.threshold (HandledSinceClear past) :=
    remembers_run_threshold accounting metrics built
  refine ⟨remembers.contains_iff, fun _ _ => remembers.mem_values, remembers.descriptorState_tells, ?_⟩
  intro otherAccounting otherMetrics otherPast otherBuilt other sameThreshold samePairs
  have also : other.Remembers other.threshold (HandledSinceClear otherPast) :=
    remembers_run_threshold otherAccounting otherMetrics otherBuilt
  rw [← sameThreshold] at also
  exact (remembers.restrict samePairs).agree also

theorem residents_by_deliveries_reordered :
    let low : Descriptor := ⟨⟨1⟩, Vector.replicate 32 0, 3⟩
    let high : Descriptor := ⟨⟨1⟩, Vector.replicate 32 0, 6⟩
    let early := GossipEvent.ofDescriptor low [5] ⟨2⟩
    let first := GossipEvent.ofDescriptor high [7] ⟨2⟩
    let second := GossipEvent.ofDescriptor high [8] ⟨3⟩
    let deduplicator := ((Intake.new .off .silent).run
      [.handle early, .handle first, .advance 5, .handle second]).2.deduplicator
    let other := ((Intake.new .off (.tallying {})).run
      [.handle first, .clear, .advance 4, .handle second, .advance 5, .handle early,
        .handle second, .handle first, .advance 2]).2.deduplicator
    early.Built ∧ first.Built ∧ second.Built ∧ deduplicator.threshold = other.threshold ∧
      deduplicator.Agree other ∧ deduplicator.descriptorState high = .seenDisparate 2 ∧
      other.descriptorState low = .unseen := by
  have samePairs (early first second : GossipEvent) (descriptor : Descriptor)
      (signature : Signature) :
      HandledSinceClear [.handle early, .handle first, .advance 5, .handle second] descriptor
          signature ↔
        HandledSinceClear [.handle first, .clear, .advance 4, .handle second, .advance 5,
          .handle early, .handle second, .handle first, .advance 2] descriptor signature := by
    simp only [handledSinceClear_cons, not_handledSinceClear_nil]
    simp [Request.event?]
    tauto
  -- The events stay variables here, so that nothing but the shape of the runs is looked at.
  have agree (early first second : GossipEvent) (earlyBuilt : early.Built)
      (firstBuilt : first.Built) (secondBuilt : second.Built) :
      let past : List Request := [.handle early, .handle first, .advance 5, .handle second]
      let otherPast : List Request :=
        [.handle first, .clear, .advance 4, .handle second, .advance 5, .handle early,
          .handle second, .handle first, .advance 2]
      let deduplicator := ((Intake.new .off .silent).run past).2.deduplicator
      let other := ((Intake.new .off (.tallying {})).run otherPast).2.deduplicator
      deduplicator.threshold = other.threshold → deduplicator.Agree other := by
    intro past otherPast deduplicator other sameThreshold
    have built : ∀ request ∈ past, request.Built := by
      simp [past, Request.Built, Request.event?, earlyBuilt, firstBuilt, secondBuilt]
    have otherBuilt : ∀ request ∈ otherPast, request.Built := by
      simp [otherPast, Request.Built, Request.event?, earlyBuilt, firstBuilt, secondBuilt]
    exact (residents_by_deliveries .off .silent past built).2.2.2 .off (.tallying {}) otherPast
      otherBuilt sameThreshold fun descriptor signature _ =>
        samePairs early first second descriptor signature
  intro low high early first second deduplicator other
  have sameThreshold : deduplicator.threshold = other.threshold := by decide +kernel
  exact ⟨.ofDescriptor _ _ _, .ofDescriptor _ _ _, .ofDescriptor _ _ _, sameThreshold,
    agree early first second (.ofDescriptor _ _ _) (.ofDescriptor _ _ _) (.ofDescriptor _ _ _)
      sameThreshold, by decide +kernel, by decide +kernel⟩

end GossipIntake
