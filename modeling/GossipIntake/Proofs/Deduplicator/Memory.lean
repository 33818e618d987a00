import GossipIntake.Proofs.Window.Index
import GossipIntake.Deduplicator.Basic

namespace GossipIntake.Deduplicator

def signatures (deduplicator : Deduplicator) (descriptor : Descriptor) : ValueSet Signature :=
  (deduplicator.observed.get? descriptor).getD ∅

/-- Every resident descriptor is in the index and has a signature. -/
structure Stocked (deduplicator : Deduplicator) : Prop where
  indexed : deduplicator.observed.Indexed
  occupied : ∀ descriptor set, deduplicator.observed.get? descriptor = some set → set.size ≠ 0

theorem stocked_empty (threshold floor : UInt64) : Stocked ⟨threshold, Window.new floor⟩ where
  indexed := Window.indexed_new floor
  occupied _ _ absurd := by cases absurd

theorem Stocked.update {deduplicator : Deduplicator} (stocked : deduplicator.Stocked)
    {descriptor : Descriptor} {signature : Signature} {sighting : Sighting}
    {observed : ObservedEvents}
    (done : deduplicator.observed.update descriptor (sight signature) = .ok (sighting, observed)) :
    { deduplicator with observed }.Stocked where
  indexed := stocked.indexed.update done
  occupied other set resident := by
    have found : observed.get? other =
        if descriptor == other then
          some ((deduplicator.signatures descriptor).insert signature).2
        else deduplicator.observed.get? other := Window.get?_update done other
    rw [found] at resident
    split at resident
    · cases resident
      rw [ValueSet.size_insert]
      split
      · rename_i known
        intro none
        rw [Table.contains_of_size_eq_zero none] at known
        cases known
      · omega
    · exact stocked.occupied other set resident

theorem Stocked.shift {deduplicator : Deduplicator} (stocked : deduplicator.Stocked)
    {generation : UInt64} {evicted : Nat} {observed : ObservedEvents}
    (done : deduplicator.observed.shift generation = .ok (evicted, observed)) :
    Stocked ⟨generation, observed⟩ where
  indexed := stocked.indexed.shift done
  occupied descriptor set resident := by
    have found : observed.get? descriptor =
        if generation ≤ descriptor.generation then deduplicator.observed.get? descriptor else none :=
      stocked.indexed.get?_shift done descriptor
    rw [found] at resident
    split at resident
    · exact stocked.occupied descriptor set resident
    · cases resident

/-- Evicted descriptors are below the threshold, so what was handled with them no longer matters. -/
structure Remembers (deduplicator : Deduplicator) (threshold : UInt64)
    (handled : Descriptor → Signature → Prop) : Prop where
  current : deduplicator.threshold = threshold
  inSync : deduplicator.observed.floor = threshold
  indexed : deduplicator.observed.Indexed
  known : ∀ descriptor signature, threshold ≤ descriptor.generation →
    ((deduplicator.signatures descriptor).contains signature = true ↔ handled descriptor signature)
  above : ∀ descriptor, deduplicator.observed.contains descriptor = true →
    threshold ≤ descriptor.generation
  occupied : ∀ descriptor set, deduplicator.observed.get? descriptor = some set → set.size ≠ 0

variable {deduplicator : Deduplicator} {threshold : UInt64}
  {handled : Descriptor → Signature → Prop}

theorem Remembers.stocked (remembers : deduplicator.Remembers threshold handled) :
    deduplicator.Stocked := ⟨remembers.indexed, remembers.occupied⟩

theorem remembers_new : Deduplicator.new.Remembers 0 fun _ _ => False where
  current := rfl
  inSync := rfl
  indexed := Window.indexed_new 0
  known _ _ _ := ⟨fun absurd => (by cases absurd), False.elim⟩
  above _ absurd := by cases absurd
  occupied _ _ absurd := by cases absurd

theorem Remembers.congr (remembers : deduplicator.Remembers threshold handled)
    {other : Descriptor → Signature → Prop}
    (same : ∀ descriptor signature, handled descriptor signature ↔ other descriptor signature) :
    deduplicator.Remembers threshold other := by
  have equal : handled = other := by
    funext descriptor signature
    exact propext (same descriptor signature)
  exact equal ▸ remembers

theorem Remembers.clear (remembers : deduplicator.Remembers threshold handled) :
    deduplicator.clear.1.Remembers threshold fun _ _ => False where
  current := remembers.current
  inSync := remembers.inSync
  indexed := Window.indexed_clear _
  known _ _ _ := ⟨fun absurd => (by cases absurd), False.elim⟩
  above _ absurd := by cases absurd
  occupied _ _ absurd := by cases absurd

theorem Remembers.advance_refused (remembers : deduplicator.Remembers threshold handled)
    {generation : UInt64} (below : generation < threshold) :
    (deduplicator.advance generation).1 = .error (.floorRegression threshold generation) ∧
      (deduplicator.advance generation).2.1 = deduplicator := by
  have refused : deduplicator.observed.shift generation =
      .error (.floorRegression deduplicator.observed.floor generation) :=
    Window.shift_error_iff.mpr ⟨by rw [remembers.inSync]; exact below, rfl⟩
  simp only [advance, refused, remembers.current, and_self]

theorem Remembers.advance_allowed (remembers : deduplicator.Remembers threshold handled)
    {generation : UInt64} (allowed : threshold ≤ generation) :
    ∃ evicted, (deduplicator.advance generation).1 = .ok evicted ∧
      (deduplicator.advance generation).2.1.Remembers generation handled := by
  have notBelow : ¬ generation < deduplicator.observed.floor := by
    rw [remembers.inSync]
    exact UInt64.not_lt.mpr allowed
  obtain ⟨evicted, next, done⟩ : ∃ evicted next,
      deduplicator.observed.shift generation = .ok (evicted, next) :=
    ⟨_, _, remembers.indexed.shift_allowed notBelow⟩
  have found : ∀ descriptor, next.get? descriptor =
      if generation ≤ descriptor.generation then deduplicator.observed.get? descriptor else none :=
    remembers.indexed.get?_shift done
  have floor := Window.floor_shift done
  refine ⟨evicted, by simp only [advance, done], ?_⟩
  simp only [advance, done]
  have stocked := remembers.stocked.shift done
  refine ⟨rfl, floor, stocked.indexed, ?_, ?_, stocked.occupied⟩
  · intro descriptor signature current
    have kept : next.get? descriptor = deduplicator.observed.get? descriptor := by
      rw [found, if_pos current]
    rw [signatures, kept]
    exact remembers.known descriptor signature (UInt64.le_trans allowed current)
  · intro descriptor resident
    rw [Window.contains, Table.contains_eq_isSome_get?] at resident
    by_cases kept : generation ≤ descriptor.generation
    · exact kept
    · rw [show next.entries.get? descriptor = next.get? descriptor from rfl, found,
        if_neg kept] at resident
      cases resident

theorem classify_ancient {event : GossipEvent} (ancient : event.generation < deduplicator.threshold) :
    deduplicator.classify event = (.ancient, deduplicator, []) := by
  rw [classify, if_pos ancient]

def outcomeAmong (signature : Signature) (seen : ValueSet Signature) : Outcome :=
  if seen.contains signature then .duplicate
  else if seen.size = 0 then .accepted
  else .disparateSignature

theorem classify_of_update {event : GossipEvent}
    (notAncient : ¬ event.generation < deduplicator.threshold) {sighting : Sighting}
    {observed : ObservedEvents}
    (done : deduplicator.observed.update event.descriptor (sight event.signature) =
      .ok (sighting, observed)) :
    (deduplicator.classify event).1 =
        outcomeAmong event.signature (deduplicator.signatures event.descriptor) ∧
      (deduplicator.classify event).2.1 = { deduplicator with observed } := by
  have seen : sighting = (sight event.signature (deduplicator.signatures event.descriptor)).1 :=
    Window.result_update done
  subst seen
  simp only [classify, if_neg notAncient, done]
  simp only [sight, ValueSet.insert_fst, ValueSet.size_insert, Bool.not_not, outcomeAmong]
  by_cases known : (deduplicator.signatures event.descriptor).contains event.signature = true
  · simp [known]
  · by_cases none : (deduplicator.signatures event.descriptor).size = 0
    · simp [known, none]
    · have several : 1 < (deduplicator.signatures event.descriptor).size + 1 := by omega
      simp [known, none, several]

theorem Remembers.classify_current (remembers : deduplicator.Remembers threshold handled)
    {event : GossipEvent} (coherent : event.Coherent)
    (current : threshold ≤ event.descriptor.generation) :
    ∃ observed,
      deduplicator.observed.update event.descriptor (sight event.signature) =
        .ok ((sight event.signature (deduplicator.signatures event.descriptor)).1, observed) ∧
      (deduplicator.classify event).1 =
        outcomeAmong event.signature (deduplicator.signatures event.descriptor) ∧
      (deduplicator.classify event).2.1 = { deduplicator with observed } := by
  have notAncient : ¬ event.generation < deduplicator.threshold := by
    rw [remembers.current, coherent]
    exact UInt64.not_lt.mpr current
  have notBelow : ¬ Sequenced.sequence event.descriptor < deduplicator.observed.floor := by
    rw [remembers.inSync]
    exact UInt64.not_lt.mpr current
  obtain ⟨observed, done⟩ : ∃ observed,
      deduplicator.observed.update event.descriptor (sight event.signature) =
        .ok ((sight event.signature (deduplicator.signatures event.descriptor)).1, observed) := by
    rw [Window.update_allowed notBelow, Window.reached_snd]
    exact ⟨_, rfl⟩
  exact ⟨observed, done, classify_of_update notAncient done⟩

theorem Remembers.classify (remembers : deduplicator.Remembers threshold handled)
    {event : GossipEvent} (coherent : event.Coherent) :
    (deduplicator.classify event).1 =
        (if event.descriptor.generation < threshold then .ancient
          else outcomeAmong event.signature (deduplicator.signatures event.descriptor)) ∧
      (deduplicator.classify event).2.1.Remembers threshold fun descriptor signature =>
        (descriptor = event.descriptor ∧ signature = event.signature) ∨
          handled descriptor signature := by
  by_cases ancient : event.descriptor.generation < threshold
  · have below : event.generation < deduplicator.threshold := by
      rw [remembers.current, coherent]
      exact ancient
    rw [classify_ancient below, if_pos ancient]
    refine ⟨rfl, { remembers with known := fun descriptor signature current => ?_ }⟩
    rw [remembers.known descriptor signature current]
    refine ⟨Or.inr, fun either => either.resolve_left ?_⟩
    rintro ⟨rfl, -⟩
    exact UInt64.not_lt.mpr current ancient
  · have current := UInt64.not_lt.mp ancient
    obtain ⟨observed, done, outcome, next⟩ := remembers.classify_current coherent current
    have found : ∀ descriptor, observed.get? descriptor =
        if event.descriptor == descriptor then
          some ((deduplicator.signatures event.descriptor).insert event.signature).2
        else deduplicator.observed.get? descriptor := Window.get?_update done
    rw [outcome, next, if_neg ancient]
    have stocked := remembers.stocked.update done
    refine ⟨rfl, remembers.current, ?_, stocked.indexed, ?_, ?_, stocked.occupied⟩
    · rw [Window.floor_update done]
      exact remembers.inSync
    · intro descriptor signature above
      rw [signatures, found]
      by_cases same : event.descriptor = descriptor
      · subst same
        rw [if_pos BEq.rfl, Option.getD_some, ValueSet.contains_insert, Bool.or_eq_true, beq_iff_eq,
          remembers.known _ _ above, eq_comm]
        simp
      · have apart : ¬ descriptor = event.descriptor := fun equal => same equal.symm
        rw [if_neg (by simpa using same), ← signatures, remembers.known _ _ above]
        simp [apart]
    · intro descriptor resident
      rw [Window.contains, Table.contains_eq_isSome_get?] at resident
      by_cases same : event.descriptor = descriptor
      · exact same ▸ current
      · refine remembers.above descriptor ?_
        rw [show observed.entries.get? descriptor = observed.get? descriptor from rfl, found,
          if_neg (by simpa using same)] at resident
        rw [Window.contains, Table.contains_eq_isSome_get?]
        exact resident

theorem Remembers.size_eq_zero_iff (remembers : deduplicator.Remembers threshold handled)
    {descriptor : Descriptor} (current : threshold ≤ descriptor.generation) :
    (deduplicator.signatures descriptor).size = 0 ↔ ∀ signature, ¬ handled descriptor signature := by
  constructor
  · intro none signature seen
    have known := (remembers.known descriptor signature current).mpr seen
    rw [Table.contains_of_size_eq_zero none] at known
    cases known
  · intro unseen
    have empty : (deduplicator.signatures descriptor).values = [] := by
      refine List.eq_nil_iff_forall_not_mem.mpr fun signature member => ?_
      refine unseen signature ((remembers.known descriptor signature current).mp ?_)
      exact Table.contains_iff.mpr ⟨signature, member, BEq.rfl⟩
    simpa [ValueSet.values, Table.keys, Table.size] using empty

end GossipIntake.Deduplicator
