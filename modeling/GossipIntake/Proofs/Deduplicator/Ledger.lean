import GossipIntake.Proofs.Accounting.InFlight
import GossipIntake.Proofs.Deduplicator.Memory
import GossipIntake.Proofs.Deduplicator.Requests
import GossipIntake.Proofs.Window.Counts
import Mathlib.Data.List.Induction

namespace GossipIntake

theorem Tallies.toNat_record {tallies : Tallies}
    (room : tallies.ancient.toNat + tallies.duplicate.toNat + tallies.nonDuplicate.toNat + 1 <
      UInt64.size)
    (fewer : tallies.disparateSignature.toNat ≤ tallies.nonDuplicate.toNat) (outcome : Outcome) :
    (tallies.record outcome).ancient.toNat + (tallies.record outcome).duplicate.toNat +
        (tallies.record outcome).nonDuplicate.toNat =
      tallies.ancient.toNat + tallies.duplicate.toNat + tallies.nonDuplicate.toNat + 1 ∧
    (tallies.record outcome).nonDuplicate.toNat =
      tallies.nonDuplicate.toNat + (if outcome.forwards then 1 else 0) ∧
    (tallies.record outcome).nonDuplicate.toNat + tallies.disparateSignature.toNat =
      (tallies.record outcome).disparateSignature.toNat + tallies.nonDuplicate.toNat +
        (if outcome = .accepted then 1 else 0) := by
  have ancient : (tallies.ancient + 1).toNat = tallies.ancient.toNat + 1 := toNat_add_one (by omega)
  have duplicate : (tallies.duplicate + 1).toNat = tallies.duplicate.toNat + 1 :=
    toNat_add_one (by omega)
  have nonDuplicate : (tallies.nonDuplicate + 1).toNat = tallies.nonDuplicate.toNat + 1 :=
    toNat_add_one (by omega)
  have disparate : (tallies.disparateSignature + 1).toNat = tallies.disparateSignature.toNat + 1 :=
    toNat_add_one (by omega)
  cases outcome with
  | accepted => simp [record, bump, Outcome.forwards, nonDuplicate]; omega
  | disparateSignature => simp [record, bump, Outcome.forwards, nonDuplicate, disparate]; omega
  | duplicate => simp [record, bump, Outcome.forwards, duplicate]; omega
  | ancient => simp [record, bump, Outcome.forwards, ancient]; omega

def PeerCounter.pass (counter : PeerCounter) (peer : NodeId) (stays : Bool) : PeerCounter :=
  if stays then counter.enter peer else ((counter.enter peer).exit peer).2

theorem PeerCounter.toNat_inFlight_pass {counter : PeerCounter} {peer : NodeId}
    (room : (counter.inFlight peer).toNat + 1 < UInt64.size) (stays : Bool) (other : NodeId) :
    ((counter.pass peer stays).inFlight other).toNat =
      (counter.inFlight other).toNat + if stays ∧ peer = other then 1 else 0 := by
  cases stays with
  | true =>
    rw [pass, if_pos rfl, toNat_inFlight_enter room]
    simp
  | false =>
    rw [pass, if_neg Bool.false_ne_true, toNat_inFlight_enter_exit room]
    simp

namespace Intake

variable (intake : Intake)

theorem deduplicator_deliver (event : GossipEvent) :
    (intake.deliver event).2.deduplicator = (intake.deduplicator.classify event).2.1 :=
  deduplicator_classify (intake.enter event.sender) event

theorem metrics_deliver {tallies : Tallies} (recorder : intake.metrics = .tallying tallies)
    (event : GossipEvent) :
    (intake.deliver event).2.metrics =
      .tallying (tallies.record (intake.deduplicator.classify event).1) := by
  have recorded := metrics_classify (intake.enter event.sender) event
  rw [show (intake.enter event.sender).metrics = .tallying tallies from recorder] at recorded
  exact recorded

theorem accounting_deliver {counter : PeerCounter} (known : intake.accounting = .perPeer counter)
    (event : GossipEvent) :
    (intake.deliver event).2.accounting =
      .perPeer (counter.pass event.sender (intake.deduplicator.classify event).1.forwards) := by
  have entered : (intake.enter event.sender).accounting = .perPeer (counter.enter event.sender) := by
    rw [enter, known, Accounting.enter]
  have settled := accounting_classify (intake.enter event.sender) event
  rw [entered] at settled
  rw [deliver, handle_snd, settled, PeerCounter.pass, classify_fst, deduplicator_enter]
  split <;> rfl

theorem idleExits_deliver {counter : PeerCounter} (known : intake.accounting = .perPeer counter)
    {event : GossipEvent} (room : (counter.inFlight event.sender).toNat + 1 < UInt64.size) :
    (intake.deliver event).2.idleExits = intake.idleExits := by
  have some := PeerCounter.inFlight_enter_ne_zero room
  have counted : ((intake.enter event.sender).accounting.exit event.sender).1 = .counted := by
    rw [enter, known, Accounting.enter, Accounting.exit, PeerCounter.exit_of_inFlight_ne_zero some]
  exact idleExits_classify (.inr counted)

end Intake

namespace Deduplicator

variable {deduplicator : Deduplicator}

theorem Stocked.contains_iff (stocked : deduplicator.Stocked) (descriptor : Descriptor) :
    deduplicator.observed.contains descriptor = true ↔
      (deduplicator.signatures descriptor).size ≠ 0 := by
  rw [Window.contains, Table.contains_eq_isSome_get?, signatures, Window.get?]
  cases found : deduplicator.observed.entries.get? descriptor with
  | none => exact ⟨fun absurd => (by cases absurd), fun absurd => (absurd rfl).elim⟩
  | some set => exact iff_of_true rfl (stocked.occupied descriptor set found)

structure Grows (before : Deduplicator) (outcome : Outcome) (after : Deduplicator) : Prop where
  stocked : after.Stocked
  descriptors : after.trackedDescriptors =
    before.trackedDescriptors + if outcome = .accepted then 1 else 0
  signatures : after.observedSignatures =
    before.observedSignatures + if outcome.forwards then 1 else 0

theorem Stocked.grows_update (stocked : deduplicator.Stocked) {event : GossipEvent}
    {sighting : Sighting} {observed : ObservedEvents}
    (done : deduplicator.observed.update event.descriptor (sight event.signature) =
      .ok (sighting, observed)) :
    deduplicator.Grows (outcomeAmong event.signature (deduplicator.signatures event.descriptor))
      { deduplicator with observed } := by
  have resident := stocked.contains_iff event.descriptor
  have size : observed.size =
      if deduplicator.observed.contains event.descriptor then deduplicator.observed.size
      else deduplicator.observed.size + 1 := Window.size_update done
  have values : observed.valueCount + (deduplicator.signatures event.descriptor).size =
      deduplicator.observed.valueCount +
        ((deduplicator.signatures event.descriptor).insert event.signature).2.size :=
    Window.valueCount_update done
  rw [ValueSet.size_insert] at values
  refine ⟨stocked.update done, ?_, ?_⟩
  · simp only [trackedDescriptors, size, outcomeAmong]
    by_cases known : (deduplicator.signatures event.descriptor).contains event.signature = true
    · have some : (deduplicator.signatures event.descriptor).size ≠ 0 := by
        intro none
        rw [Table.contains_of_size_eq_zero none] at known
        cases known
      simp [known, resident.mpr some]
    · by_cases none : (deduplicator.signatures event.descriptor).size = 0
      · have absent : ¬ deduplicator.observed.contains event.descriptor = true :=
          fun stored => resident.mp stored none
        simp [known, none, absent]
      · simp [known, none, resident.mpr none]
  · simp only [observedSignatures, outcomeAmong]
    by_cases known : (deduplicator.signatures event.descriptor).contains event.signature = true
    · simp only [known, if_true] at values ⊢
      simp only [Outcome.forwards, Bool.false_eq_true, if_false]
      omega
    · by_cases none : (deduplicator.signatures event.descriptor).size = 0
      · simp only [known, none, Bool.false_eq_true, if_false] at values ⊢
        simp only [Outcome.forwards, if_true]
        omega
      · simp only [known, none, Bool.false_eq_true, if_false] at values ⊢
        simp only [Outcome.forwards, if_true]
        omega

/-- Nothing is asked of the event here: one that the window refuses is dropped like an ancient one. -/
theorem Stocked.grows_classify (stocked : deduplicator.Stocked) (event : GossipEvent) :
    deduplicator.Grows (deduplicator.classify event).1 (deduplicator.classify event).2.1 := by
  have same : deduplicator.Grows .ancient deduplicator := ⟨stocked, rfl, rfl⟩
  by_cases ancient : event.generation < deduplicator.threshold
  · rw [classify_ancient ancient]
    exact same
  · cases done : deduplicator.observed.update event.descriptor (sight event.signature) with
    | error error =>
      have refused : deduplicator.classify event =
          (.ancient, deduplicator, [.descriptorRejected event.descriptor error]) := by
        rw [classify, if_neg ancient, done]
      rw [refused]
      exact same
    | ok result =>
      obtain ⟨outcome, next⟩ := classify_of_update ancient done
      rw [outcome, next]
      exact stocked.grows_update done

structure Shrinks (before after : Deduplicator) : Prop where
  stocked : after.Stocked
  descriptors : after.trackedDescriptors + (before.observed.removed after.observed).length =
    before.trackedDescriptors
  signatures : after.observedSignatures +
      Window.valuesIn (before.observed.removed after.observed) =
    before.observedSignatures

theorem Stocked.shrinks_self (stocked : deduplicator.Stocked) : deduplicator.Shrinks deduplicator := by
  have all : deduplicator.observed.entries =
      deduplicator.observed.entries.filter fun _ _ => true :=
    Table.ext (List.filter_eq_self.mpr fun _ _ => rfl).symm
  have split := Window.removed_perm (fun _ => true) all
  exact ⟨stocked, Window.size_add_removed split, Window.valueCount_add_removed split⟩

theorem Stocked.shrinks_advance (stocked : deduplicator.Stocked) (generation : UInt64) :
    deduplicator.Shrinks (deduplicator.advance generation).2.1 ∧
      (deduplicator.advance generation).1.toOption.getD 0 =
        (deduplicator.observed.removed (deduplicator.advance generation).2.1.observed).length := by
  have unchanged := stocked.shrinks_self
  have noneRemoved : (deduplicator.observed.removed deduplicator.observed).length = 0 := by
    have size := unchanged.descriptors
    omega
  unfold advance
  split
  · exact ⟨unchanged, noneRemoved.symm⟩
  · rename_i count observed shifted
    obtain ⟨split, counted⟩ := stocked.indexed.removed_shift shifted
    exact ⟨⟨stocked.shift shifted, Window.size_add_removed split, Window.valueCount_add_removed split⟩,
      counted⟩

theorem shrinks_clear (deduplicator : Deduplicator) : deduplicator.Shrinks deduplicator.clear.1 := by
  have split := deduplicator.observed.removed_clear
  exact ⟨stocked_empty _ _, Window.size_add_removed split, Window.valueCount_add_removed split⟩

end Deduplicator

inductive Operation where
  | deliver (event : GossipEvent)
  | advance (generation : UInt64)
  | clear
deriving DecidableEq

def Operation.isDelivery : Operation → Bool
  | .deliver _ => true
  | .advance _ | .clear => false

def deliveries (operations : List Operation) : Nat := operations.countP Operation.isDelivery

def Intake.perform (intake : Intake) : Operation → Response × Intake
  | .deliver event =>
    let delivered := intake.deliver event
    (.handled delivered.1, delivered.2)
  | .advance generation =>
    let advanced := intake.advance generation
    (.advanced advanced.1, advanced.2)
  | .clear => (.cleared, intake.clear)

structure Turn where
  before : Intake
  operation : Operation
  response : Response
  after : Intake

namespace Turn

def forwarded? (turn : Turn) : Option GossipEvent :=
  match turn.response with
  | .handled forwarded => forwarded
  | _ => none

/-- The count that an advance returns; a refused one returns none. -/
def evicted (turn : Turn) : Nat :=
  match turn.response with
  | .advanced result => result.toOption.getD 0
  | _ => 0

def removed (turn : Turn) : List (Descriptor × ValueSet Signature) :=
  match turn.operation with
  | .deliver _ => []
  | .advance _ | .clear =>
    turn.before.deduplicator.observed.removed turn.after.deduplicator.observed

def signaturesRemoved (turn : Turn) : Nat := Window.valuesIn turn.removed

def dropped (turn : Turn) : Nat :=
  match turn.operation with
  | .clear => turn.removed.length
  | .deliver _ | .advance _ => 0

end Turn

namespace Intake

def turn (intake : Intake) (operation : Operation) : Turn where
  before := intake
  operation
  response := (intake.perform operation).1
  after := (intake.perform operation).2

def turns (intake : Intake) (operations : List Operation) : List Turn × Intake :=
  runAll (fun intake operation => (intake.turn operation, (intake.turn operation).after)) intake
    operations

theorem turns_concat (intake : Intake) (operations : List Operation) (operation : Operation) :
    intake.turns (operations ++ [operation]) =
      ((intake.turns operations).1 ++ [(intake.turns operations).2.turn operation],
        ((intake.turns operations).2.turn operation).after) := by
  rw [turns, runAll_append]
  rfl

end Intake

theorem deliveries_concat (operations : List Operation) (operation : Operation) :
    deliveries (operations ++ [operation]) =
      deliveries operations + if operation.isDelivery then 1 else 0 := by
  rw [deliveries, List.countP_append, List.countP_singleton]
  rfl

theorem sum_concat (amount : Turn → Nat) (turns : List Turn) (turn : Turn) :
    ((turns ++ [turn]).map amount).sum = (turns.map amount).sum + amount turn := by
  simp

theorem forwarded_concat (turns : List Turn) (turn : Turn) :
    (turns ++ [turn]).filterMap Turn.forwarded? =
      turns.filterMap Turn.forwarded? ++ turn.forwarded?.toList := by
  rw [List.filterMap_append]
  cases found : turn.forwarded? <;> simp [found]

structure Ledger (operations : List Operation) (turns : List Turn) (intake : Intake)
    (tallies : Tallies) (counter : PeerCounter) : Prop where
  metrics : intake.metrics = .tallying tallies
  accounting : intake.accounting = .perPeer counter
  outcomes : tallies.ancient.toNat + tallies.duplicate.toNat + tallies.nonDuplicate.toNat =
    deliveries operations
  signatures : tallies.nonDuplicate.toNat =
    intake.deduplicator.observedSignatures + (turns.map Turn.signaturesRemoved).sum
  descriptors : tallies.nonDuplicate.toNat =
    tallies.disparateSignature.toNat + intake.deduplicator.trackedDescriptors +
      (turns.map Turn.evicted).sum + (turns.map Turn.dropped).sum
  forwarded : tallies.nonDuplicate.toNat = (turns.filterMap Turn.forwarded?).length
  inFlight : ∀ peer, (counter.inFlight peer).toNat = sentBy peer (turns.filterMap Turn.forwarded?)
  noIdleExit : intake.idleExits = []

namespace Ledger

variable {operations : List Operation} {turns : List Turn} {intake : Intake} {tallies : Tallies}
  {counter : PeerCounter}

theorem new : Ledger [] [] (Intake.new (.perPeer .empty) (.tallying {})) {} .empty where
  metrics := rfl
  accounting := rfl
  outcomes := rfl
  signatures := rfl
  descriptors := rfl
  forwarded := rfl
  inFlight _ := rfl
  noIdleExit := rfl

theorem inFlight_le (ledger : Ledger operations turns intake tallies counter) (peer : NodeId) :
    (counter.inFlight peer).toNat ≤ deliveries operations := by
  have sent : sentBy peer (turns.filterMap Turn.forwarded?) ≤
      (turns.filterMap Turn.forwarded?).length := List.countP_le_length
  have total := ledger.outcomes
  rw [ledger.inFlight peer]
  rw [← ledger.forwarded] at sent
  omega

theorem deliver (ledger : Ledger operations turns intake tallies counter)
    (stocked : intake.deduplicator.Stocked) (event : GossipEvent)
    (room : deliveries operations + 1 < UInt64.size) :
    ∃ tallies' counter', Ledger (operations ++ [.deliver event])
      (turns ++ [intake.turn (.deliver event)]) (intake.turn (.deliver event)).after tallies'
      counter' := by
  have few := ledger.outcomes
  have held := ledger.descriptors
  have bounded := ledger.inFlight_le event.sender
  have peerRoom : (counter.inFlight event.sender).toNat + 1 < UInt64.size := by omega
  have tallyRoom : tallies.ancient.toNat + tallies.duplicate.toNat + tallies.nonDuplicate.toNat + 1 <
      UInt64.size := by omega
  have fewer : tallies.disparateSignature.toNat ≤ tallies.nonDuplicate.toNat := by omega
  have deduplicator : (intake.turn (.deliver event)).after.deduplicator =
      (intake.deduplicator.classify event).2.1 := intake.deduplicator_deliver event
  have answer : (intake.turn (.deliver event)).forwarded? =
      if (intake.deduplicator.classify event).1.forwards then some event else none := rfl
  have nothingRemoved : (intake.turn (.deliver event)).signaturesRemoved = 0 := rfl
  have noneEvicted : (intake.turn (.deliver event)).evicted = 0 := rfl
  have noneDropped : (intake.turn (.deliver event)).dropped = 0 := rfl
  have inFlight := PeerCounter.toNat_inFlight_pass peerRoom
    (intake.deduplicator.classify event).1.forwards
  obtain ⟨-, descriptors, signatures⟩ := stocked.grows_classify event
  obtain ⟨counted, letIn, fresh⟩ :=
    Tallies.toNat_record tallyRoom fewer (intake.deduplicator.classify event).1
  refine ⟨tallies.record (intake.deduplicator.classify event).1,
    counter.pass event.sender (intake.deduplicator.classify event).1.forwards, ?_, ?_, ?_, ?_, ?_, ?_,
    ?_, ?_⟩
  · exact intake.metrics_deliver ledger.metrics event
  · exact intake.accounting_deliver ledger.accounting event
  · rw [deliveries_concat, counted, few]
    rfl
  · have before := ledger.signatures
    rw [sum_concat, deduplicator, nothingRemoved]
    omega
  · rw [sum_concat, sum_concat, deduplicator, noneEvicted, noneDropped]
    omega
  · have before := ledger.forwarded
    rw [forwarded_concat, answer, List.length_append, letIn, before]
    split <;> rfl
  · intro peer
    rw [forwarded_concat, answer, sentBy_append, inFlight, ledger.inFlight]
    cases (intake.deduplicator.classify event).1.forwards <;> simp
  · rw [← ledger.noIdleExit]
    exact intake.idleExits_deliver ledger.accounting peerRoom

/-- An operation that delivers nothing leaves the counters alone, so what it removes from the residents
    is what its turn adds to the sums. -/
theorem remove (ledger : Ledger operations turns intake tallies counter) {operation : Operation}
    (quiet : operation.isDelivery = false)
    (metrics : (intake.turn operation).after.metrics = intake.metrics)
    (accounting : (intake.turn operation).after.accounting = intake.accounting)
    (idle : (intake.turn operation).after.idleExits = intake.idleExits)
    (nothing : (intake.turn operation).forwarded? = none)
    (signatures : (intake.turn operation).after.deduplicator.observedSignatures +
      (intake.turn operation).signaturesRemoved = intake.deduplicator.observedSignatures)
    (descriptors : (intake.turn operation).after.deduplicator.trackedDescriptors +
      (intake.turn operation).evicted + (intake.turn operation).dropped =
        intake.deduplicator.trackedDescriptors) :
    Ledger (operations ++ [operation]) (turns ++ [intake.turn operation])
      (intake.turn operation).after tallies counter where
  metrics := by rw [metrics, ledger.metrics]
  accounting := by rw [accounting, ledger.accounting]
  outcomes := by rw [ledger.outcomes, deliveries_concat, quiet]; rfl
  signatures := by
    have before := ledger.signatures
    rw [sum_concat]
    omega
  descriptors := by
    have before := ledger.descriptors
    rw [sum_concat, sum_concat]
    omega
  forwarded := by rw [ledger.forwarded, forwarded_concat, nothing, Option.toList, List.append_nil]
  inFlight peer := by
    rw [ledger.inFlight, forwarded_concat, nothing, Option.toList, List.append_nil]
  noIdleExit := by rw [idle, ledger.noIdleExit]

theorem advance (ledger : Ledger operations turns intake tallies counter)
    (stocked : intake.deduplicator.Stocked) (generation : UInt64) :
    Ledger (operations ++ [.advance generation]) (turns ++ [intake.turn (.advance generation)])
      (intake.turn (.advance generation)).after tallies counter := by
  have deduplicator : (intake.turn (.advance generation)).after.deduplicator =
      (intake.deduplicator.advance generation).2.1 := intake.deduplicator_advance generation
  have taken : (intake.turn (.advance generation)).removed =
      intake.deduplicator.observed.removed
        (intake.turn (.advance generation)).after.deduplicator.observed := rfl
  have noneDropped : (intake.turn (.advance generation)).dropped = 0 := rfl
  have evicted : (intake.turn (.advance generation)).evicted =
      (intake.deduplicator.advance generation).1.toOption.getD 0 := rfl
  obtain ⟨⟨-, descriptors, signatures⟩, counted⟩ := stocked.shrinks_advance generation
  refine ledger.remove rfl (intake.metrics_advance generation) (intake.accounting_advance generation)
    (intake.idleExits_advance generation) rfl ?_ ?_
  · rw [Turn.signaturesRemoved, taken, deduplicator, signatures]
  · rw [deduplicator, evicted, counted, noneDropped, Nat.add_zero, descriptors]

theorem clear (ledger : Ledger operations turns intake tallies counter) :
    Ledger (operations ++ [.clear]) (turns ++ [intake.turn .clear]) (intake.turn .clear).after
      tallies counter := by
  have deduplicator : (intake.turn .clear).after.deduplicator = intake.deduplicator.clear.1 :=
    intake.deduplicator_clear
  have taken : (intake.turn .clear).removed =
      intake.deduplicator.observed.removed (intake.turn .clear).after.deduplicator.observed := rfl
  have noneEvicted : (intake.turn .clear).evicted = 0 := rfl
  have dropped : (intake.turn .clear).dropped = (intake.turn .clear).removed.length := rfl
  obtain ⟨-, descriptors, signatures⟩ := intake.deduplicator.shrinks_clear
  refine ledger.remove rfl intake.metrics_clear intake.accounting_clear intake.idleExits_clear rfl
    ?_ ?_
  · rw [Turn.signaturesRemoved, taken, deduplicator, signatures]
  · rw [dropped, taken, deduplicator, noneEvicted, Nat.add_zero, descriptors]

end Ledger

theorem Intake.stocked_turn {intake : Intake} (stocked : intake.deduplicator.Stocked)
    (operation : Operation) : (intake.turn operation).after.deduplicator.Stocked := by
  cases operation with
  | deliver event =>
    have after := (stocked.grows_classify event).stocked
    rw [← intake.deduplicator_deliver event] at after
    exact after
  | advance generation =>
    have after := (stocked.shrinks_advance generation).1.stocked
    rw [← intake.deduplicator_advance generation] at after
    exact after
  | clear =>
    have after := intake.deduplicator.shrinks_clear.stocked
    rw [← intake.deduplicator_clear] at after
    exact after

theorem Ledger.turn {operations : List Operation} {turns : List Turn} {intake : Intake}
    {tallies : Tallies} {counter : PeerCounter}
    (ledger : Ledger operations turns intake tallies counter)
    (stocked : intake.deduplicator.Stocked) {operation : Operation}
    (few : deliveries (operations ++ [operation]) < UInt64.size) :
    ∃ tallies' counter', Ledger (operations ++ [operation]) (turns ++ [intake.turn operation])
      (intake.turn operation).after tallies' counter' := by
  rw [deliveries_concat] at few
  cases operation with
  | deliver event => exact ledger.deliver stocked event few
  | advance generation => exact ⟨tallies, counter, ledger.advance stocked generation⟩
  | clear => exact ⟨tallies, counter, ledger.clear⟩

theorem stocked_turns (accounting : Accounting) (metrics : Recorder) (operations : List Operation) :
    ((Intake.new accounting metrics).turns operations).2.deduplicator.Stocked := by
  induction operations using List.reverseRecOn with
  | nil => exact Deduplicator.stocked_empty 0 0
  | append_singleton operations operation ih =>
    rw [Intake.turns_concat]
    exact Intake.stocked_turn ih operation

/-- The books of a fresh deduplicator, with fresh counters, balance after every run. -/
theorem ledger_balances (operations : List Operation) (few : deliveries operations < UInt64.size) :
    let run := (Intake.new (.perPeer .empty) (.tallying {})).turns operations
    ∃ tallies counter, Ledger operations run.1 run.2 tallies counter := by
  induction operations using List.reverseRecOn with
  | nil => exact ⟨{}, .empty, Ledger.new⟩
  | append_singleton operations operation ih =>
    have earlier : deliveries operations < UInt64.size := by
      rw [deliveries_concat] at few
      omega
    obtain ⟨tallies, counter, ledger⟩ := ih earlier
    have stocked := stocked_turns (.perPeer .empty) (.tallying {}) operations
    rw [Intake.turns_concat]
    exact ledger.turn stocked few

theorem ledger_balances_every_outcome :
    let early := GossipEvent.ofDescriptor ⟨⟨1⟩, Vector.replicate 32 0, 3⟩ [5] ⟨2⟩
    let late := GossipEvent.ofDescriptor ⟨⟨1⟩, Vector.replicate 32 0, 6⟩ [7] ⟨2⟩
    let operations : List Operation :=
      [.deliver early, .deliver (early.relayedBy ⟨3⟩), .deliver (early.withSignature [6]),
        .deliver late, .advance 5, .advance 4, .deliver early, .clear, .deliver (late.relayedBy ⟨3⟩)]
    let run := (Intake.new (.perPeer .empty) (.tallying {})).turns operations
    deliveries operations = 6 ∧ deliveries operations < UInt64.size ∧
      run.2.deduplicator.trackedDescriptors = 1 ∧ run.2.deduplicator.observedSignatures = 1 ∧
      run.1.map Turn.evicted = [0, 0, 0, 0, 1, 0, 0, 0, 0] ∧
      run.1.map Turn.dropped = [0, 0, 0, 0, 0, 0, 0, 1, 0] ∧
      run.1.map Turn.signaturesRemoved = [0, 0, 0, 0, 2, 0, 0, 1, 0] ∧
      run.2.accounting.inFlight? ⟨2⟩ = some 3 ∧ run.2.accounting.inFlight? ⟨3⟩ = some 1 ∧
      ∃ counter, Ledger operations run.1 run.2
        { duplicate := 1, nonDuplicate := 4, disparateSignature := 1, ancient := 1 } counter := by
  intro early late operations run
  have few : deliveries operations < UInt64.size := by decide
  obtain ⟨tallies, counter, ledger⟩ := ledger_balances operations few
  have recorded : run.2.metrics = .tallying
      { duplicate := 1, nonDuplicate := 4, disparateSignature := 1, ancient := 1 } := by decide
  have same := ledger.metrics.symm.trans recorded
  cases same
  exact ⟨by decide, few, by decide, by decide, by decide, by decide, by decide, by decide, by decide,
    counter, ledger⟩

end GossipIntake
