import GossipIntake.Proofs.Stage.Balance
import GossipIntake.Proofs.Stage.Ending

namespace GossipIntake

theorem Intake.Counts.inFlight?_eq {intake other : Intake} {initial held : NodeId → Nat}
    (mine : intake.Counts initial held) (theirs : other.Counts initial held) (peer : NodeId) :
    intake.accounting.inFlight? peer = other.accounting.inFlight? peer := by
  obtain ⟨counter, perPeer, balance⟩ := mine
  obtain ⟨otherCounter, alsoPerPeer, alsoBalance⟩ := theirs
  have equal : counter.inFlight peer = otherCounter.inFlight peer := by
    apply UInt64.toNat_inj.mp
    rw [balance, alsoBalance]
  rw [perPeer, alsoPerPeer]
  exact congrArg some equal

namespace Stage

variable {stage other next : Stage} {input : Input}

/-- A producer hands in an input; an event is counted in first. -/
def supply (stage : Stage) : Input → Sent × Stage
  | .event event => (stage.enter event.sender).submit event
  | .advance generation => stage.submitAdvance generation
  | .clear => stage.submitClear

def turn (stage : Stage) (input : Input) (runs : Bool) : Stage :=
  if runs then (stage.supply input).2.settle else (stage.supply input).2

def pace (stage : Stage) : List (Input × Bool) → Stage
  | [] => stage.settle
  | (input, runs) :: rest => (stage.turn input runs).pace rest

/-- No producer has to wait for space, and no count outgrows a word. -/
def Unblocked (stage : Stage) : List (Input × Bool) → Prop
  | [] => True
  | (input, runs) :: rest =>
    ((stage.supply input).1 ≠ .full ∧
      ∀ event ∈ input.event?, stage.intake.accounting.hasRoom event.sender = true) ∧
    (stage.turn input runs).Unblocked rest

instance decidableUnblocked (stage : Stage) :
    (turns : List (Input × Bool)) → Decidable (stage.Unblocked turns)
  | [] => inferInstanceAs (Decidable True)
  | (input, runs) :: rest =>
    have := decidableUnblocked (stage.turn input runs) rest
    inferInstanceAs (Decidable (_ ∧ _))

def facing (stage : Stage) : Consumer → Stage
  | .listening => stage
  | .closed => stage.closeOutput
  | .gone => stage.dropOutput

theorem bare_supply (stage : Stage) (input : Input) :
    (stage.supply input).1 = (stage.offer input).1 ∧
      (stage.supply input).2.bare = (stage.offer input).2.bare := by
  cases input with
  | event event =>
    have entered : (stage.enter event.sender).bare = stage.bare := rfl
    obtain ⟨sent, reached⟩ := bare_submit (stage.enter event.sender) event
    obtain ⟨sameSent, sameReached⟩ := offer_congr entered (.event event)
    exact ⟨sent.trans sameSent, reached.trans sameReached⟩
  | advance | clear => exact ⟨rfl, rfl⟩

theorem supply_congr (same : stage.bare = other.bare) (input : Input) :
    (stage.supply input).2.bare = (other.supply input).2.bare := by
  rw [(bare_supply stage input).2, (bare_supply other input).2]
  exact (offer_congr same input).2

theorem pace_congr (same : stage.bare = other.bare) (turns : List (Input × Bool)) :
    (stage.pace turns).bare = (other.pace turns).bare := by
  induction turns generalizing stage other with
  | nil => exact bare_settle_congr same
  | cons head rest ih =>
    obtain ⟨input, runs⟩ := head
    apply ih
    have supplied := supply_congr same input
    cases runs with
    | false => exact supplied
    | true => exact bare_settle_congr supplied

def enqueue (stage : Stage) (input : Input) : Stage := { stage with queue := stage.queue ++ [input] }

theorem process_enqueue (stage : Stage) (calm : stage.crashAt = none) (head input : Input) :
    (stage.enqueue input).process head = (stage.process head).enqueue input := by
  cases head with
  | event event =>
    simp only [process, processEvent, enqueue, calm]
    split
    · rename_i absurd
      cases absurd
    · split <;> rfl
  | advance generation =>
    simp only [process, enqueue]
    split <;> rfl
  | clear => rfl

theorem forward_enqueue (stage : Stage) (event : GossipEvent) (input : Input) :
    (stage.enqueue input).forward event = (stage.forward event).enqueue input := by
  simp only [forward, enqueue]
  split <;> rfl

theorem step?_enqueue (taking : stage.accepts = true) (calm : stage.crashAt = none)
    (handle : stage.hasHandle = true) (done : stage.step? = some next) (input : Input) :
    (stage.enqueue input).step? = some (next.enqueue input) := by
  cases phase : stage.phase with
  | processing =>
    cases waiting : stage.queue with
    | nil =>
      rw [step?_idle phase waiting] at done
      simp [inputEnded, handle] at done
    | cons head rest =>
      rw [step?_processing phase waiting] at done
      cases done
      have behind : (stage.enqueue input).queue = head :: (rest ++ [input]) := by
        rw [enqueue, waiting, List.cons_append]
      rw [step?_processing (show (stage.enqueue input).phase = .processing from phase) behind]
      exact congrArg some (process_enqueue { stage with queue := rest } calm head input)
  | holding event =>
    rw [step?_holding phase] at done
    rw [step?_holding (show (stage.enqueue input).phase = .holding event from phase),
      forward_enqueue]
    obtain ⟨ready, ⟨⟩⟩ := Option.ite_none_right_eq_some.mp done
    exact if_pos ready
  | draining | finished | crashed =>
    rw [accepts, phase] at taking
    cases taking

structure Attended (stage : Stage) : Prop where
  conclusive : stage.Conclusive
  handle : stage.hasHandle = true
  unreserved : stage.reserved = 0

/-- Until it ends, a stage whose handle is held either takes inputs or has failed. -/
theorem Attended.failure?_of_refusing (attended : stage.Attended) (closed : stage.accepts = false) :
    ∃ error, stage.failure? = some error := by
  cases phase : stage.phase with
  | processing | holding =>
    rw [accepts, phase] at closed
    cases closed
  | draining error count => exact ⟨error, by rw [failure?, phase]⟩
  | finished result =>
    cases result with
    | error error => exact ⟨error, by rw [failure?, phase]⟩
    | ok report =>
      have senderless := attended.conclusive.senderless report phase
      rw [hasSender, attended.handle] at senderless
      cases senderless
  | crashed => exact absurd phase attended.conclusive.uncrashed

theorem Attended.step (attended : stage.Attended) (done : stage.step? = some next) :
    next.Attended := by
  have step := taskStep_of_step? done
  obtain ⟨handle, reserved, -⟩ := step.frame
  exact ⟨step.conclusive attended.conclusive, handle.trans attended.handle,
    reserved.trans attended.unreserved⟩

theorem Attended.enqueue (attended : stage.Attended) (taking : stage.accepts = true)
    (input : Input) : (stage.enqueue input).Attended where
  conclusive :=
    { attended.conclusive with
      orderly := (clientStep_queued taking input).orderly attended.conclusive.orderly }
  handle := attended.handle
  unreserved := attended.unreserved

theorem offer_of_accepts (taking : stage.accepts = true) (room : stage.hasRoom = true) (input : Input) :
    stage.offer input = (.queued, stage.enqueue input) := by
  rw [offer, if_pos taking, if_pos room]
  rfl

theorem hasRoom_of_step? (room : stage.hasRoom = true) (done : stage.step? = some next) :
    next.hasRoom = true := by
  obtain ⟨-, reserved, capacity, shorter⟩ := (taskStep_of_step? done).frame
  have before : stage.queue.length + stage.reserved < stage.capacity := of_decide_eq_true room
  apply decide_eq_true
  omega

/-- Whether an input comes before or after a run of the task, another run leads to the same end. -/
theorem bare_settle_offer (attended : stage.Attended) (input : Input)
    (fits : (stage.offer input).1 ≠ .full) :
    (stage.offer input).2.settle.bare = (stage.settle.offer input).2.settle.bare := by
  induction stage using settle.induct with
  | case1 stage stuck => rw [settle_of_step?_eq_none stuck]
  | case2 stage next done ih =>
    have onward := attended.step done
    have later : (next.offer input).1 ≠ .full →
        (next.offer input).2.settle.bare = (stage.settle.offer input).2.settle.bare := by
      rw [settle_of_step?_eq_some done]
      exact ih onward
    cases taking : stage.accepts with
    | true =>
      have room : stage.hasRoom = true := by
        by_contra none
        apply fits
        rw [offer, if_pos taking, if_neg none]
      have step := step?_enqueue taking attended.conclusive.orderly.calm attended.handle done input
      rw [offer_of_accepts taking room, settle_of_step?_eq_some step]
      cases still : next.accepts with
      | true =>
        rw [offer_of_accepts still (hasRoom_of_step? room done)] at later
        exact later (by simp)
      | false =>
        -- The step failed. What is queued behind the failure only gets released.
        obtain ⟨error, failed⟩ := onward.failure?_of_refusing still
        rw [offer_of_refusing still] at later
        have behind := (attended.enqueue taking input).step step
        obtain ⟨drained, -⟩ :=
          settle_of_failure? failed onward.unreserved onward.conclusive.orderly
        have alsoFailed : (next.enqueue input).failure? = some error := failed
        obtain ⟨alsoDrained, -⟩ :=
          settle_of_failure? alsoFailed behind.unreserved behind.conclusive.orderly
        rw [← later (by simp), drained]
        exact alsoDrained
    | false =>
      obtain ⟨error, failed⟩ := attended.failure?_of_refusing taking
      have closed : next.accepts = false := by
        rcases step?_of_failure? failed done with ⟨_, _, _, -, rfl⟩ | ⟨-, -, _, rfl⟩ <;> rfl
      rw [offer_of_refusing closed] at later
      have settled : stage.settle.bare = next.settle.bare := by rw [settle_of_step?_eq_some done]
      rw [offer_of_refusing taking]
      exact settled.trans (later (by simp))

theorem supply_event (handle : stage.hasHandle = true) (event : GossipEvent) :
    (stage.supply (.event event)).2 = (stage.perform (.countIn event)).perform (.submit event) := by
  simp [supply, perform, after?, enter, handle]

theorem supply_advance (handle : stage.hasHandle = true) (generation : UInt64) :
    (stage.supply (.advance generation)).2 = stage.perform (.advance generation) := by
  simp [supply, perform, after?, handle]

theorem supply_clear (handle : stage.hasHandle = true) :
    (stage.supply .clear).2 = stage.perform .clear := by
  simp [supply, perform, after?, handle]

theorem frame_supply (stage : Stage) (input : Input) :
    (stage.supply input).2.hasHandle = stage.hasHandle ∧
      (stage.supply input).2.reserved = stage.reserved := by
  have handle : (stage.offer input).2.hasHandle = stage.hasHandle :=
    offer_snd (P := fun next => next.hasHandle = stage.hasHandle) input rfl fun _ => rfl
  have reserved : (stage.offer input).2.reserved = stage.reserved :=
    offer_snd (P := fun next => next.reserved = stage.reserved) input rfl fun _ => rfl
  have alike := (bare_supply stage input).2
  exact ⟨(congrArg Stage.hasHandle alike).trans handle,
    (congrArg Stage.reserved alike).trans reserved⟩

theorem Attended.supply (attended : stage.Attended) (input : Input) :
    (stage.supply input).2.Attended := by
  obtain ⟨conclusive, handle, unreserved⟩ := attended
  obtain ⟨sameHandle, sameReserved⟩ := stage.frame_supply input
  refine ⟨?_, sameHandle.trans handle, sameReserved.trans unreserved⟩
  cases input with
  | event event =>
    rw [supply_event handle]
    exact conclusive_perform (conclusive_perform conclusive _) _
  | advance generation =>
    rw [supply_advance handle]
    exact conclusive_perform conclusive _
  | clear =>
    rw [supply_clear handle]
    exact conclusive_perform conclusive _

theorem Attended.settle (attended : stage.Attended) : stage.settle.Attended :=
  settle_induct (P := Attended) (fun attended done => attended.step done) attended

theorem settle_turn (stage : Stage) (input : Input) (runs : Bool) :
    (stage.turn input runs).settle = (stage.supply input).2.settle := by
  cases runs with
  | false => rfl
  | true => exact settle_settle _

theorem bare_pace (attended : stage.Attended) {turns : List (Input × Bool)}
    (unblocked : stage.Unblocked turns) :
    (stage.pace turns).bare =
      (stage.settle.pace ((turns.map Prod.fst).map fun input => (input, true))).bare := by
  induction turns generalizing stage with
  | nil => exact congrArg bare (settle_settle stage).symm
  | cons head rest ih =>
    obtain ⟨input, runs⟩ := head
    obtain ⟨⟨fits, -⟩, unblockedRest⟩ := unblocked
    have onward : (stage.turn input runs).Attended := by
      cases runs with
      | false => exact attended.supply input
      | true => exact (attended.supply input).settle
    have fitsToo : (stage.offer input).1 ≠ .full := by rwa [← (bare_supply stage input).1]
    have sameTurn : (stage.supply input).2.settle.bare =
        (stage.settle.supply input).2.settle.bare := by
      rw [bare_settle_congr (bare_supply stage input).2,
        bare_settle_congr (bare_supply stage.settle input).2]
      exact bare_settle_offer attended input fitsToo
    calc ((stage.turn input runs).pace rest).bare
        = ((stage.turn input runs).settle.pace ((rest.map Prod.fst).map (·, true))).bare :=
          ih onward unblockedRest
      _ = ((stage.supply input).2.settle.pace ((rest.map Prod.fst).map (·, true))).bare := by
          rw [settle_turn]
      _ = ((stage.settle.supply input).2.settle.pace ((rest.map Prod.fst).map (·, true))).bare :=
          pace_congr sameTurn _

section Counts

variable {initial : NodeId → Nat} {idle : List Notice}

theorem balanced_supply (handle : stage.hasHandle = true)
    (balanced : stage.Balanced {} initial idle) (fits : (stage.supply input).1 ≠ .full)
    (room : ∀ event ∈ input.event?, stage.intake.accounting.hasRoom event.sender = true) :
    (stage.supply input).2.Balanced {} initial idle := by
  cases input with
  | event event =>
    have counted : (stage.perform (.countIn event)).Balanced { waiting := [event] } initial idle :=
      balanced_perform (show Books.Allow {} stage (.countIn event) from room event rfl) balanced
    have member : event ∈ ({ waiting := [event] } : Books).waiting := List.mem_singleton_self event
    have submitted : ((stage.perform (.countIn event)).perform (.submit event)).Balanced
        (Books.extend { waiting := [event] } (stage.perform (.countIn event)) (.submit event))
        initial idle := balanced_perform member counted
    have sent : Books.extend { waiting := [event] } (stage.perform (.countIn event))
        (.submit event) = {} := by
      have held : (stage.perform (.countIn event)).hasHandle = true := handle
      have taken : ((stage.perform (.countIn event)).submit event).1 ≠ .full := fits
      simp [Books.extend, held, taken, Books.offered]
    rw [sent, ← supply_event handle] at submitted
    exact submitted
  | advance generation =>
    rw [supply_advance handle]
    exact balanced_perform (show Books.Allow {} stage (.advance generation) from trivial) balanced
  | clear =>
    rw [supply_clear handle]
    exact balanced_perform (show Books.Allow {} stage .clear from trivial) balanced

theorem balanced_settle (balanced : stage.Balanced {} initial idle) :
    stage.settle.Balanced {} initial idle := by
  apply settle_induct (P := fun stage => stage.Balanced {} initial idle) _ balanced
  intro stage next balanced done
  have onward := balanced_perform (show Books.Allow {} stage .task from trivial) balanced
  rw [perform, after?, done] at onward
  exact onward

theorem balanced_pace {turns : List (Input × Bool)} (attended : stage.Attended)
    (balanced : stage.Balanced {} initial idle) (unblocked : stage.Unblocked turns) :
    (stage.pace turns).Balanced {} initial idle := by
  induction turns generalizing stage with
  | nil => exact balanced_settle balanced
  | cons head rest ih =>
    obtain ⟨input, runs⟩ := head
    obtain ⟨⟨fits, room⟩, unblockedRest⟩ := unblocked
    have supplied := balanced_supply attended.handle balanced fits room
    cases runs with
    | false => exact ih (attended.supply input) supplied unblockedRest
    | true => exact ih (attended.supply input).settle (balanced_settle supplied) unblockedRest

theorem held_bare (books : Books) (stage : Stage) (peer : NodeId) :
    books.held stage.bare peer = books.held stage peer := by
  rw [Books.held, Books.held, inHand?_bare]
  rfl

end Counts

/-- What can be told of a stage from outside and from its parts, its log apart. -/
structure SameEnd (stage other : Stage) : Prop where
  output : stage.output = other.output
  inHand : stage.inHand? = other.inHand?
  queue : stage.queue = other.queue
  deduplicator : stage.intake.deduplicator = other.intake.deduplicator
  metrics : stage.intake.metrics = other.intake.metrics
  inFlight : ∀ peer,
    stage.intake.accounting.inFlight? peer = other.intake.accounting.inFlight? peer
  hasEnded : stage.hasEnded = other.hasEnded
  failure : stage.failure? = other.failure?
  result : stage.result? = other.result?
  report : stage.report = other.report

theorem sameEnd_of_bare {initial : NodeId → Nat} {idle : List Notice} (same : stage.bare = other.bare)
    (mine : stage.Balanced {} initial idle) (theirs : other.Balanced {} initial idle) :
    stage.SameEnd other := by
  have held : Books.held {} stage = Books.held {} other := by
    funext peer
    rw [← held_bare, same, held_bare]
  have counts := theirs.counts
  rw [← held] at counts
  have output : stage.bare.output = other.bare.output := congrArg Stage.output same
  have inHand : stage.bare.inHand? = other.bare.inHand? := congrArg inHand? same
  have queue : stage.bare.queue = other.bare.queue := congrArg Stage.queue same
  have deduplicator : stage.bare.intake.deduplicator = other.bare.intake.deduplicator :=
    congrArg (·.intake.deduplicator) same
  have metrics : stage.bare.intake.metrics = other.bare.intake.metrics :=
    congrArg (·.intake.metrics) same
  have hasEnded : stage.bare.hasEnded = other.bare.hasEnded := congrArg Stage.hasEnded same
  have failure : stage.bare.failure? = other.bare.failure? := congrArg failure? same
  have result : stage.bare.result? = other.bare.result? := congrArg result? same
  have report : stage.bare.report = other.bare.report := congrArg Stage.report same
  simp only [inHand?_bare, hasEnded_bare, failure?_bare, result?_bare] at inHand hasEnded failure result
  exact ⟨output, inHand, queue, deduplicator, metrics, mine.counts.inFlight?_eq counts, hasEnded,
    failure, result, report⟩

theorem attended_facing (intake : Intake) (node : NodeId) (inputCapacity outputCapacity : Nat)
    (consumer : Consumer) :
    ((spawn intake node inputCapacity outputCapacity none).facing consumer).Attended := by
  have fresh := conclusive_spawn intake node inputCapacity outputCapacity
  cases consumer with
  | listening => exact ⟨fresh, rfl, rfl⟩
  | closed => exact ⟨conclusive_perform fresh .closeOutput, rfl, rfl⟩
  | gone => exact ⟨conclusive_perform fresh .dropOutput, rfl, rfl⟩

theorem balanced_facing (intake : Intake) (counter : PeerCounter) (node : NodeId)
    (inputCapacity outputCapacity : Nat) (consumer : Consumer) :
    ((spawn { intake with accounting := .perPeer counter } node inputCapacity outputCapacity
      none).facing consumer).Balanced {} (fun peer => (counter.inFlight peer).toNat)
      intake.idleExits := by
  have counts : Intake.Counts { intake with accounting := .perPeer counter }
      (fun peer => (counter.inFlight peer).toNat) fun _ => 0 := ⟨counter, rfl, fun _ => rfl⟩
  cases consumer <;> exact ⟨⟨rfl, fun absurd => (by cases absurd)⟩, counts, rfl⟩

/-- When the task gets to run makes no difference in the end, as long as no producer has to wait:
    what a failed stage still finds in its queue is released, and so is what it refuses. -/
theorem schedule_unobservable (intake : Intake) (counter : PeerCounter) (node : NodeId)
    (inputCapacity outputCapacity : Nat) (consumer : Consumer) (turns others : List (Input × Bool))
    (sameInputs : turns.map Prod.fst = others.map Prod.fst)
    (unblocked : ((spawn { intake with accounting := .perPeer counter } node inputCapacity
      outputCapacity none).facing consumer).Unblocked turns)
    (alsoUnblocked : ((spawn { intake with accounting := .perPeer counter } node inputCapacity
      outputCapacity none).facing consumer).Unblocked others) :
    let start := (spawn { intake with accounting := .perPeer counter } node inputCapacity
      outputCapacity none).facing consumer
    (start.pace turns).SameEnd (start.pace others) := by
  intro start
  have attended : start.Attended := attended_facing _ _ _ _ _
  have balanced : start.Balanced {} (fun peer => (counter.inFlight peer).toNat) intake.idleExits :=
    balanced_facing _ _ _ _ _ _
  apply sameEnd_of_bare
  · rw [bare_pace attended unblocked, bare_pace attended alsoUnblocked, sameInputs]
  · exact balanced_pace attended balanced unblocked
  · exact balanced_pace attended balanced alsoUnblocked

theorem schedule_unobservable_refused_advance :
    let first := GossipEvent.ofDescriptor ⟨⟨1⟩, Vector.replicate 32 0, 6⟩ [7] ⟨2⟩
    let second := GossipEvent.ofDescriptor ⟨⟨1⟩, Vector.replicate 32 0, 8⟩ [8] ⟨3⟩
    let counter := PeerCounter.empty.enter ⟨3⟩
    let intake := Intake.new .off (.tallying {})
    let start := (spawn { intake with accounting := .perPeer counter } ⟨0⟩ 5 0 none).facing .listening
    let eager : List (Input × Bool) :=
      [(.event first, true), (.advance 5, true), (.advance 4, true), (.event second, true),
        (.clear, false)]
    let late : List (Input × Bool) :=
      [(.event first, false), (.advance 5, false), (.advance 4, false), (.event second, false),
        (.clear, false)]
    start.Unblocked eager ∧ start.Unblocked late ∧
      (((start.turn (.event first) true).turn (.advance 5) true).turn (.advance 4) true).accepts =
        false ∧
      (((start.turn (.event first) false).turn (.advance 5) false).turn (.advance 4) false).accepts =
        true ∧
      (start.pace eager).SameEnd (start.pace late) ∧
      (start.pace late).failure? = some (.floorRegression 5 4) ∧
      (start.pace late).intake.accounting.inFlight? ⟨3⟩ = some 1 := by
  intro first second counter intake start eager late
  have unblocked : start.Unblocked eager := by decide +kernel
  have alsoUnblocked : start.Unblocked late := by decide +kernel
  have sameEnd : (start.pace eager).SameEnd (start.pace late) :=
    schedule_unobservable intake counter ⟨0⟩ 5 0 .listening eager late rfl unblocked alsoUnblocked
  exact ⟨unblocked, alsoUnblocked, by decide +kernel, by decide +kernel, sameEnd,
    by decide +kernel, by decide +kernel⟩

end Stage

end GossipIntake
