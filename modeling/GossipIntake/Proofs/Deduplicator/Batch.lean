import GossipIntake.Proofs.Deduplicator.Ledger
import GossipIntake.Proofs.Deduplicator.Residents
import Mathlib.Data.List.ReduceOption

namespace GossipIntake

def GossipEvent.pair (event : GossipEvent) : Descriptor × Signature :=
  (event.descriptor, event.signature)

namespace Deduplicator

variable {deduplicator : Deduplicator} {threshold : UInt64}
  {handled : Descriptor → Signature → Prop}

def residentPairs (deduplicator : Deduplicator) : List (Descriptor × Signature) :=
  deduplicator.observed.entries.entries.flatMap fun entry => entry.2.values.map fun signature =>
    (entry.1, signature)

theorem length_residentPairs (deduplicator : Deduplicator) :
    deduplicator.residentPairs.length = deduplicator.observedSignatures := by
  rw [residentPairs, List.length_flatMap]
  simp only [List.length_map, ValueSet.values, Table.keys]
  rfl

theorem mem_residentPairs {descriptor : Descriptor} {signature : Signature} :
    (descriptor, signature) ∈ deduplicator.residentPairs ↔
      signature ∈ (deduplicator.signatures descriptor).values := by
  have reached (entry : Descriptor × ValueSet Signature)
      (member : entry ∈ deduplicator.observed.entries.entries) :
      deduplicator.signatures entry.1 = entry.2 := by
    rw [signatures, Window.get?, Table.get?, Table.find?_of_mem member]
    rfl
  simp only [residentPairs, List.mem_flatMap, List.mem_map, Prod.mk.injEq]
  constructor
  · rintro ⟨entry, member, _, inside, rfl, rfl⟩
    rw [reached entry member]
    exact inside
  · intro inside
    cases found : deduplicator.observed.entries.find? descriptor with
    | none =>
      rw [signatures, Window.get?, Table.get?, found] at inside
      cases inside
    | some entry =>
      obtain ⟨member, same⟩ := Table.find?_mem found
      have equal : entry.1 = descriptor := eq_of_beq same
      subst equal
      rw [reached entry member] at inside
      exact ⟨entry, member, signature, inside, rfl, rfl⟩

theorem nodup_residentPairs (deduplicator : Deduplicator) : deduplicator.residentPairs.Nodup := by
  refine List.nodup_flatMap.mpr ⟨fun entry _ => ?_, ?_⟩
  · exact entry.2.nodup_values.map fun a b same => (Prod.mk.inj same).2
  · refine deduplicator.observed.entries.distinct.imp fun {a b} apart pair left right => ?_
    obtain ⟨_, -, rfl⟩ := List.mem_map.mp left
    obtain ⟨_, -, same⟩ := List.mem_map.mp right
    rw [(Prod.mk.inj same).1, BEq.rfl] at apart
    cases apart

theorem Remembers.trackedDescriptors_eq (remembers : deduplicator.Remembers threshold handled)
    {descriptors : Finset Descriptor}
    (exactly : ∀ descriptor, descriptor ∈ descriptors ↔
      threshold ≤ descriptor.generation ∧ ∃ signature, handled descriptor signature) :
    deduplicator.trackedDescriptors = descriptors.card := by
  have same : deduplicator.observed.entries.keys.toFinset = descriptors := by
    ext descriptor
    rw [List.mem_toFinset, exactly, ← remembers.contains_iff, Window.contains, Table.contains_iff]
    simp
  rw [← same, List.toFinset_card_of_nodup (Table.nodup_keys _), Table.keys, List.length_map]
  rfl

theorem Remembers.observedSignatures_eq (remembers : deduplicator.Remembers threshold handled)
    {pairs : Finset (Descriptor × Signature)}
    (exactly : ∀ descriptor signature, (descriptor, signature) ∈ pairs ↔
      threshold ≤ descriptor.generation ∧ handled descriptor signature) :
    deduplicator.observedSignatures = pairs.card := by
  have same : deduplicator.residentPairs.toFinset = pairs := by
    ext ⟨descriptor, signature⟩
    rw [List.mem_toFinset, mem_residentPairs, remembers.mem_values_signatures, exactly]
  rw [← same, List.toFinset_card_of_nodup deduplicator.nodup_residentPairs, length_residentPairs]

end Deduplicator

/-- Of all copies that are not ancient the first one goes on, and no other. -/
structure FirstCopies (threshold : UInt64) (batch forwarded : List GossipEvent) : Prop where
  inOrder : forwarded.Sublist batch
  once : (forwarded.map GossipEvent.pair).Nodup
  first : ∀ event, event ∈ forwarded ↔ threshold ≤ event.descriptor.generation ∧
    batch.find? (fun other => other.pair = event.pair) = some event

namespace FirstCopies

variable {threshold : UInt64} {batch forwarded : List GossipEvent}

theorem nil (threshold : UInt64) : FirstCopies threshold [] [] where
  inOrder := .slnil
  once := List.nodup_nil
  first event := by simp

theorem mem_pairs (copies : FirstCopies threshold batch forwarded)
    {pair : Descriptor × Signature} :
    pair ∈ forwarded.map GossipEvent.pair ↔
      threshold ≤ pair.1.generation ∧ pair ∈ batch.map GossipEvent.pair := by
  constructor
  · intro member
    obtain ⟨event, inside, rfl⟩ := List.mem_map.mp member
    exact ⟨((copies.first event).mp inside).1,
      List.mem_map_of_mem (copies.inOrder.subset inside)⟩
  · rintro ⟨current, member⟩
    obtain ⟨event, inside, rfl⟩ := List.mem_map.mp member
    obtain ⟨earliest, found⟩ : ∃ earliest,
        batch.find? (fun other => other.pair = event.pair) = some earliest :=
      Option.isSome_iff_exists.mp (List.find?_isSome.mpr ⟨event, inside, by simp⟩)
    have same : earliest.pair = event.pair := by simpa using List.find?_some found
    have alike : earliest.descriptor = event.descriptor := congrArg Prod.fst same
    rw [← same] at found current ⊢
    exact List.mem_map_of_mem ((copies.first earliest).mpr ⟨current, found⟩)

theorem concat (copies : FirstCopies threshold batch forwarded) (event : GossipEvent)
    {forwards : Bool} (decided : forwards = true ↔
      threshold ≤ event.descriptor.generation ∧ event.pair ∉ batch.map GossipEvent.pair) :
    FirstCopies threshold (batch ++ [event]) (forwarded ++ if forwards then [event] else []) := by
  refine ⟨copies.inOrder.append ?_, ?_, fun other => ?_⟩
  · split
    · exact .refl _
    · exact List.nil_sublist _
  · split
    · rename_i goesOn
      obtain ⟨-, unseen⟩ := decided.mp goesOn
      rw [List.map_append, List.map_singleton]
      refine List.nodup_append.mpr ⟨copies.once, List.nodup_singleton _, ?_⟩
      rintro pair member _ last rfl
      rw [List.mem_singleton.mp last] at member
      exact unseen (copies.mem_pairs.mp member).2
    · rw [List.append_nil]
      exact copies.once
  · rw [List.mem_append, copies.first other, List.find?_append]
    cases found : batch.find? (fun earlier => earlier.pair = other.pair) with
    | some earliest =>
      -- A copy came before, so if `other` is the new event it does not go on.
      have seen : other.pair ∈ batch.map GossipEvent.pair := by
        have same : earliest.pair = other.pair := by simpa using List.find?_some found
        exact same ▸ List.mem_map_of_mem (List.mem_of_find?_eq_some found)
      have apart : other ∉ if forwards then [event] else [] := by
        intro member
        split at member
        · rename_i goesOn
          rw [List.mem_singleton] at member
          rw [member] at seen
          exact (decided.mp goesOn).2 seen
        · cases member
      simp [apart]
    | none =>
      have unseen : other.pair ∉ batch.map GossipEvent.pair := by
        intro seen
        obtain ⟨copy, inside, same⟩ := List.mem_map.mp seen
        have differs := List.find?_eq_none.mp found copy inside
        simp [same] at differs
      by_cases same : event = other
      · subst same
        cases forwards with
        | true => simp [(decided.mp rfl).1]
        | false => simpa [unseen] using decided
      · have last : [event].find? (fun earlier => earlier.pair = other.pair) ≠ some other := by
          intro absurd
          exact same (List.mem_singleton.mp (List.mem_of_find?_eq_some absurd)).symm
        have apart : other ∉ if forwards then [event] else [] := by
          split
          · simpa [eq_comm] using same
          · simp
        simp only [apart, or_false, Option.none_or, last, and_false, reduceCtorEq]

end FirstCopies

theorem Tallies.toNat_ancient_record {tallies : Tallies}
    (room : tallies.ancient.toNat + 1 < UInt64.size) (outcome : Outcome) :
    (tallies.record outcome).ancient.toNat =
      tallies.ancient.toNat + if outcome = .ancient then 1 else 0 := by
  have more : (tallies.ancient + 1).toNat = tallies.ancient.toNat + 1 := toNat_add_one room
  cases outcome <;> simp [record, bump, more]

def Delivered (batch : List GossipEvent) (descriptor : Descriptor) (signature : Signature) : Prop :=
  (descriptor, signature) ∈ batch.map GossipEvent.pair

def Intake.handleAll (intake : Intake) (batch : List GossipEvent) : List (Option GossipEvent) × Intake :=
  runAll handle intake batch

def Intake.forwarded (intake : Intake) (batch : List GossipEvent) : List GossipEvent :=
  (intake.handleAll batch).1.reduceOption

structure Counted (threshold : UInt64) (batch : List GossipEvent) (intake : Intake)
    (tallies : Tallies) : Prop where
  remembers : intake.deduplicator.Remembers threshold (Delivered batch)
  metrics : intake.metrics = .tallying tallies
  ancient : tallies.ancient.toNat = batch.countP (·.descriptor.generation < threshold)
  outcomes : tallies.ancient.toNat + tallies.duplicate.toNat + tallies.nonDuplicate.toNat =
    batch.length
  signatures : tallies.nonDuplicate.toNat = intake.deduplicator.observedSignatures
  descriptors : tallies.nonDuplicate.toNat =
    tallies.disparateSignature.toNat + intake.deduplicator.trackedDescriptors

theorem Intake.handleAll_concat (intake : Intake) (batch : List GossipEvent) (event : GossipEvent) :
    intake.handleAll (batch ++ [event]) =
      ((intake.handleAll batch).1 ++ [((intake.handleAll batch).2.handle event).1],
        ((intake.handleAll batch).2.handle event).2) := by
  rw [handleAll, runAll_append]
  rfl

theorem Intake.forwarded_concat (intake : Intake) (batch : List GossipEvent) (event : GossipEvent) :
    intake.forwarded (batch ++ [event]) =
      intake.forwarded batch ++
        if ((intake.handleAll batch).2.deduplicator.classify event).1.forwards then [event] else [] := by
  rw [forwarded, handleAll_concat, List.reduceOption_append, ← forwarded, handle_fst]
  split <;> rfl

namespace Counted

variable {threshold : UInt64} {batch : List GossipEvent} {intake : Intake} {tallies : Tallies}

theorem concat (counted : Counted threshold batch intake tallies) {event : GossipEvent}
    (coherent : event.Coherent) (room : batch.length + 1 < UInt64.size) :
    Counted threshold (batch ++ [event]) (intake.handle event).2
      (tallies.record (intake.deduplicator.classify event).1) := by
  have decided := decidedBy_outcomeAmong counted.remembers coherent
  have total := counted.outcomes
  have held := counted.descriptors
  have tallyRoom : tallies.ancient.toNat + tallies.duplicate.toNat + tallies.nonDuplicate.toNat + 1 <
      UInt64.size := by omega
  have fewer : tallies.disparateSignature.toNat ≤ tallies.nonDuplicate.toNat := by omega
  obtain ⟨-, descriptors, signatures⟩ := counted.remembers.stocked.grows_classify event
  obtain ⟨more, letIn, fresh⟩ :=
    Tallies.toNat_record tallyRoom fewer (intake.deduplicator.classify event).1
  have ancientRoom : tallies.ancient.toNat + 1 < UInt64.size := by omega
  have ancient := Tallies.toNat_ancient_record ancientRoom (intake.deduplicator.classify event).1
  have next : (intake.handle event).2.deduplicator = (intake.deduplicator.classify event).2.1 :=
    intake.deduplicator_classify event
  refine ⟨?_, ?_, ?_, ?_, ?_, ?_⟩
  · rw [next]
    refine (counted.remembers.classify coherent).2.congr fun descriptor signature => ?_
    simp [Delivered, GossipEvent.pair, or_comm]
  · rw [Intake.handle_snd, Intake.metrics_classify, counted.metrics]
    rfl
  · rw [ancient, counted.ancient, List.countP_append, List.countP_singleton]
    simp only [decided.ancient, decide_eq_true_eq]
  · rw [more, total, List.length_append, List.length_singleton]
  · rw [letIn, next, signatures, counted.signatures]
  · rw [next, descriptors]
    omega

theorem initially (accounting : Accounting) (threshold : UInt64) :
    ((Intake.new accounting (.tallying {})).advance threshold).1 = .ok 0 ∧
      Counted threshold [] ((Intake.new accounting (.tallying {})).advance threshold).2 {} := by
  have nothing : (0 : UInt64) ≤ threshold := UInt64.le_iff_toNat_le.mpr (Nat.zero_le _)
  obtain ⟨evicted, done, remembers⟩ := Deduplicator.remembers_new.advance_allowed nothing
  obtain ⟨-, none⟩ := (Deduplicator.stocked_empty 0 0).shrinks_advance threshold
  have next : ((Intake.new accounting (.tallying {})).advance threshold).2.deduplicator =
      (Deduplicator.new.advance threshold).2.1 := Intake.deduplicator_advance _ _
  have noneEvicted : evicted = 0 := by
    rw [show (Deduplicator.mk 0 (Window.new 0)).advance threshold =
      Deduplicator.new.advance threshold from rfl, done] at none
    exact none
  rw [Intake.advance_fst]
  refine ⟨done.trans (by rw [noneEvicted]), ?_⟩
  have empty : ∀ descriptor, descriptor ∈ (∅ : Finset Descriptor) ↔
      threshold ≤ descriptor.generation ∧ ∃ signature : Signature, False := by simp
  have emptyPairs : ∀ (descriptor : Descriptor) (signature : Signature),
      (descriptor, signature) ∈ (∅ : Finset (Descriptor × Signature)) ↔
        threshold ≤ descriptor.generation ∧ False := by simp
  refine ⟨?_, Intake.metrics_advance _ _, rfl, rfl, ?_, ?_⟩
  · rw [next]
    exact remembers.congr fun descriptor signature => by simp [Delivered]
  · rw [next, remembers.observedSignatures_eq emptyPairs]
    rfl
  · rw [next, remembers.trackedDescriptors_eq empty]
    rfl

end Counted

theorem Outcome.DecidedBy.forwards_iff {outcome : Outcome} {threshold : UInt64}
    {seen : Signature → Prop} {event : GossipEvent}
    (decided : outcome.DecidedBy threshold seen event) :
    outcome.forwards = true ↔
      threshold ≤ event.descriptor.generation ∧ ¬ seen event.signature := by
  rw [Outcome.forwards_iff, decided.disparate, decided.accepted]
  constructor
  · rintro (⟨current, unseen, -⟩ | ⟨current, unseen⟩)
    · exact ⟨current, unseen⟩
    · exact ⟨current, unseen _⟩
  · rintro ⟨current, unseen⟩
    by_cases some : ∃ other, seen other
    · exact .inl ⟨current, unseen, some⟩
    · exact .inr ⟨current, fun other found => some ⟨other, found⟩⟩

theorem counted_handleAll {threshold : UInt64} {intake : Intake} {tallies : Tallies}
    (initially : Counted threshold [] intake tallies) {batch : List GossipEvent}
    (built : ∀ event ∈ batch, event.Built) (few : batch.length < UInt64.size) :
    (∃ tallies, Counted threshold batch (intake.handleAll batch).2 tallies) ∧
      FirstCopies threshold batch (intake.forwarded batch) := by
  induction batch using List.reverseRecOn with
  | nil => exact ⟨⟨tallies, initially⟩, .nil threshold⟩
  | append_singleton batch event ih =>
    rw [List.length_append, List.length_singleton] at few
    obtain ⟨⟨tallies, counted⟩, copies⟩ :=
      ih (fun earlier member => built earlier (List.mem_append_left _ member)) (by omega)
    have coherent := (built event (by simp)).coherent
    rw [Intake.handleAll_concat, Intake.forwarded_concat]
    exact ⟨⟨_, counted.concat coherent few⟩,
      copies.concat event (decidedBy_outcomeAmong counted.remembers coherent).forwards_iff⟩

/-- Two copies from different peers: whichever comes first goes on. -/
theorem order_decides_copy {threshold : UInt64} {intake : Intake} {tallies : Tallies}
    (initially : Counted threshold [] intake tallies) :
    ∃ batch other : List GossipEvent, (∀ event ∈ batch, event.Built) ∧ other.Perm batch ∧
      intake.forwarded other ≠ intake.forwarded batch := by
  let first := GossipEvent.ofDescriptor ⟨⟨0⟩, Vector.replicate 32 0, threshold⟩ [] ⟨0⟩
  let copy := first.relayedBy ⟨1⟩
  have built : first.Built := .ofDescriptor _ _ _
  have bothBuilt : ∀ event ∈ [first, copy], event.Built := by
    intro event member
    rcases List.mem_pair.mp member with rfl | rfl
    · exact built
    · exact built.relayedBy _
  have swapped : [copy, first].Perm [first, copy] := .swap _ _ _
  have otherBuilt : ∀ event ∈ [copy, first], event.Built :=
    fun event member => bothBuilt event (swapped.mem_iff.mp member)
  have few : 2 < UInt64.size := by decide
  obtain ⟨-, copies⟩ := counted_handleAll initially bothBuilt few
  obtain ⟨-, others⟩ := counted_handleAll initially otherBuilt few
  refine ⟨[first, copy], [copy, first], bothBuilt, swapped, fun same => ?_⟩
  have goesOn : first ∈ intake.forwarded [first, copy] :=
    (copies.first first).mpr ⟨UInt64.le_refl threshold, by simp⟩
  rw [← same] at goesOn
  have found := ((others.first first).mp goesOn).2
  rw [List.find?_cons_of_pos (by simp [copy, GossipEvent.pair, GossipEvent.relayedBy])] at found
  have sender : copy.sender = first.sender := congrArg GossipEvent.sender (Option.some.inj found)
  have apart : (⟨1⟩ : NodeId) ≠ ⟨0⟩ := by decide
  exact apart sender

theorem length_current_add_ancient (threshold : UInt64) (events : List GossipEvent) :
    events.countP (·.descriptor.generation < threshold) +
        (events.filter fun event => threshold ≤ event.descriptor.generation).length =
      events.length := by
  rw [List.length_eq_countP_add_countP (·.descriptor.generation < threshold) (l := events),
    ← List.countP_eq_length_filter]
  congr 1
  refine List.countP_congr fun event _ => ?_
  simp

theorem delivered_perm {events order : List GossipEvent} (reordered : order.Perm events)
    {descriptor : Descriptor} {signature : Signature} :
    Delivered order descriptor signature ↔ Delivered events descriptor signature :=
  (reordered.map _).mem_iff

theorem mem_currentPairs {threshold : UInt64} {events : List GossipEvent} {descriptor : Descriptor}
    {signature : Signature} :
    (descriptor, signature) ∈ ((events.filter fun event =>
        threshold ≤ event.descriptor.generation).map GossipEvent.pair).toFinset ↔
      threshold ≤ descriptor.generation ∧ Delivered events descriptor signature := by
  simp only [Delivered, GossipEvent.pair, List.mem_toFinset, List.mem_map, List.mem_filter,
    decide_eq_true_eq, Prod.mk.injEq]
  constructor
  · rintro ⟨event, ⟨member, current⟩, rfl, rfl⟩
    exact ⟨current, event, member, rfl, rfl⟩
  · rintro ⟨current, event, member, rfl, rfl⟩
    exact ⟨event, ⟨member, current⟩, rfl, rfl⟩

theorem mem_currentDescriptors {threshold : UInt64} {events : List GossipEvent}
    {descriptor : Descriptor} :
    descriptor ∈ ((events.filter fun event =>
        threshold ≤ event.descriptor.generation).map (·.descriptor)).toFinset ↔
      threshold ≤ descriptor.generation ∧ ∃ signature, Delivered events descriptor signature := by
  simp only [Delivered, GossipEvent.pair, List.mem_toFinset, List.mem_map, List.mem_filter,
    decide_eq_true_eq, Prod.mk.injEq]
  constructor
  · rintro ⟨event, ⟨member, current⟩, rfl⟩
    exact ⟨current, event.signature, event, member, rfl, rfl⟩
  · rintro ⟨current, signature, event, member, rfl, -⟩
    exact ⟨event, ⟨member, current⟩, rfl⟩

/-- However a batch is ordered, each outcome is met equally often and the same pairs go on. Only the
    copies that go on may be others. -/
theorem batch_counts (accounting : Accounting) (threshold : UInt64) (events order : List GossipEvent)
    (built : ∀ event ∈ events, event.Built) (few : events.length < UInt64.size)
    (reordered : order.Perm events) :
    let start := (Intake.new accounting (.tallying {})).advance threshold
    let intake := (start.2.handleAll order).2
    let current := events.filter fun event => threshold ≤ event.descriptor.generation
    let pairs := (current.map GossipEvent.pair).toFinset
    let descriptors := (current.map (·.descriptor)).toFinset
    start.1 = .ok 0 ∧
      (∃ tallies, intake.metrics = .tallying tallies ∧
        tallies.ancient.toNat = events.countP (·.descriptor.generation < threshold) ∧
        tallies.nonDuplicate.toNat = pairs.card ∧
        tallies.duplicate.toNat + pairs.card = current.length ∧
        tallies.disparateSignature.toNat + descriptors.card = pairs.card) ∧
      intake.deduplicator.trackedDescriptors = descriptors.card ∧
      intake.deduplicator.observedSignatures = pairs.card ∧
      FirstCopies threshold order (start.2.forwarded order) ∧
      ((start.2.forwarded order).map GossipEvent.pair).toFinset = pairs ∧
      ∃ batch other : List GossipEvent, (∀ event ∈ batch, event.Built) ∧ other.Perm batch ∧
        start.2.forwarded other ≠ start.2.forwarded batch := by
  intro start intake current pairs descriptors
  obtain ⟨fresh, initially⟩ := Counted.initially accounting threshold
  have orderBuilt : ∀ event ∈ order, event.Built :=
    fun event member => built event (reordered.mem_iff.mp member)
  obtain ⟨⟨tallies, counted⟩, copies⟩ :=
    counted_handleAll initially orderBuilt (reordered.length_eq ▸ few)
  have mem_pairs (descriptor : Descriptor) (signature : Signature) :
      (descriptor, signature) ∈ pairs ↔
        threshold ≤ descriptor.generation ∧ Delivered order descriptor signature := by
    rw [mem_currentPairs, delivered_perm reordered]
  have mem_descriptors (descriptor : Descriptor) :
      descriptor ∈ descriptors ↔
        threshold ≤ descriptor.generation ∧ ∃ signature, Delivered order descriptor signature := by
    rw [mem_currentDescriptors]
    simp only [delivered_perm reordered]
  have tracked : intake.deduplicator.trackedDescriptors = descriptors.card :=
    counted.remembers.trackedDescriptors_eq mem_descriptors
  have observed : intake.deduplicator.observedSignatures = pairs.card :=
    counted.remembers.observedSignatures_eq mem_pairs
  have letIn : tallies.nonDuplicate.toNat = pairs.card := counted.signatures.trans observed
  have known : pairs.card = tallies.disparateSignature.toNat + descriptors.card := by
    rw [← letIn, ← tracked]
    exact counted.descriptors
  have ancient : tallies.ancient.toNat = events.countP (·.descriptor.generation < threshold) :=
    counted.ancient.trans (reordered.countP_eq _)
  have total := counted.outcomes.trans reordered.length_eq
  have split : events.countP (·.descriptor.generation < threshold) + current.length = events.length :=
    length_current_add_ancient threshold events
  refine ⟨fresh, ⟨tallies, counted.metrics, ancient, letIn, by omega, known.symm⟩, tracked, observed,
    copies, ?_, order_decides_copy initially⟩
  ext ⟨descriptor, signature⟩
  rw [List.mem_toFinset, copies.mem_pairs, mem_pairs]
  rfl

theorem batch_counts_two_orders :
    let early := GossipEvent.ofDescriptor ⟨⟨1⟩, Vector.replicate 32 0, 3⟩ [5] ⟨2⟩
    let first := GossipEvent.ofDescriptor ⟨⟨1⟩, Vector.replicate 32 0, 6⟩ [7] ⟨2⟩
    let copy := first.relayedBy ⟨3⟩
    let second := first.withSignature [8]
    let events := [first, early, copy, second]
    let order := [second, copy, early, first]
    let start := ((Intake.new .off (.tallying {})).advance 5).2
    (∀ event ∈ events, event.Built) ∧ events.length < UInt64.size ∧ order.Perm events ∧
      (start.handleAll order).2.metrics = .tallying
        { duplicate := 1, nonDuplicate := 2, disparateSignature := 1, ancient := 1 } ∧
      start.forwarded events = [first, second] ∧ start.forwarded order = [second, copy] ∧
      FirstCopies 5 order [second, copy] := by
  intro early first copy second events order start
  have firstBuilt : first.Built := .ofDescriptor _ _ _
  have built : ∀ event ∈ events, event.Built := by
    intro event member
    simp only [events, List.mem_cons, List.not_mem_nil, or_false] at member
    rcases member with rfl | rfl | rfl | rfl
    · exact firstBuilt
    · exact .ofDescriptor _ _ _
    · exact firstBuilt.relayedBy _
    · exact firstBuilt.withSignature _
  have few : events.length < UInt64.size := by decide
  have reordered : order.Perm events := by decide
  obtain ⟨-, -, -, -, copies, -⟩ := batch_counts .off 5 events order built few reordered
  have forwarded : start.forwarded order = [second, copy] := by decide +kernel
  rw [← forwarded]
  exact ⟨built, few, reordered, by decide +kernel, by decide +kernel, rfl, copies⟩

end GossipIntake
