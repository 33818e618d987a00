import GossipIntake.Proofs.Accounting.InFlight
import GossipIntake.Proofs.Stage.Run

namespace GossipIntake

theorem sentBy_input (peer : NodeId) (input : Input) (inputs : List Input) :
    sentBy peer ((input :: inputs).filterMap Input.event?) =
      sentBy peer (inputs.filterMap Input.event?) + sentBy peer input.event?.toList := by
  cases found : input.event? with
  | none => simp [found]
  | some event => simp [found]

theorem sentBy_erase_input (peer : NodeId) {input : Input} {inputs : List Input}
    (member : input ∈ inputs) :
    sentBy peer (inputs.filterMap Input.event?) =
      sentBy peer ((inputs.erase input).filterMap Input.event?) + sentBy peer input.event?.toList := by
  have moved : (inputs.filterMap Input.event?).Perm
      ((input :: inputs.erase input).filterMap Input.event?) :=
    (List.perm_cons_erase member).filterMap _
  rw [sentBy, moved.countP_eq, ← sentBy, sentBy_input]

def Accounting.hasRoom (accounting : Accounting) (peer : NodeId) : Bool :=
  match accounting.inFlight? peer with
  | some count => count.toNat + 1 < UInt64.size
  | none => true

structure Books where
  waiting : List GossipEvent := []
  received : List GossipEvent := []
  /-- Left on the output queue when the output was dropped. -/
  lost : List GossipEvent := []

namespace Books

def offered (books : Books) : Input → Books
  | .event event => { books with waiting := books.waiting.erase event }
  | _ => books

def extend (books : Books) (stage : Stage) : Action → Books
  | .countIn event => { books with waiting := event :: books.waiting }
  | .countOut event => { books with received := books.received.erase event }
  | .submit event =>
    if stage.hasHandle && (stage.submit event).1 != .full then books.offered (.event event) else books
  | .sendRaw input =>
    if stage.hasSender && (stage.sendRaw input).1 != .full then books.offered input else books
  | .sendReserved input => if 0 < stage.reserved then books.offered input else books
  | .receive =>
    match stage.receive.1 with
    | .event event => { books with received := event :: books.received }
    | _ => books
  | .dropOutput => { books with lost := stage.output.queue ++ books.lost }
  | _ => books

/-- What the clients promise: to offer an event after counting it in, once, to count an event out
    after receiving it, once, and to keep every count below the size of a word. -/
def Allow (books : Books) (stage : Stage) : Action → Prop
  | .countIn event => stage.intake.accounting.hasRoom event.sender = true
  | .countOut event => event ∈ books.received
  | .submit event => event ∈ books.waiting
  | .sendRaw input | .sendReserved input => ∀ event ∈ input.event?, event ∈ books.waiting
  | _ => True

instance (books : Books) (stage : Stage) (action : Action) : Decidable (books.Allow stage action) :=
  match action with
  | .countIn event => inferInstanceAs (Decidable (stage.intake.accounting.hasRoom event.sender = true))
  | .countOut event => inferInstanceAs (Decidable (event ∈ books.received))
  | .submit event => inferInstanceAs (Decidable (event ∈ books.waiting))
  | .sendRaw input | .sendReserved input =>
    inferInstanceAs (Decidable (∀ event ∈ input.event?, event ∈ books.waiting))
  | .advance _ | .clear | .releaseRejected _ | .reserve | .dropReserved | .holdSender | .dropSender
  | .dropHandle | .receive | .closeOutput | .dropOutput | .task => inferInstanceAs (Decidable True)

def held (books : Books) (stage : Stage) (peer : NodeId) : Nat :=
  sentBy peer books.waiting + sentBy peer (stage.queue.filterMap Input.event?) +
    sentBy peer stage.inHand?.toList + sentBy peer (stage.rejected.filterMap Input.event?) +
    (sentBy peer stage.output.queue + sentBy peer books.received + sentBy peer books.lost)

theorem held_offered {books : Books} (stage : Stage) (input : Input)
    (allowed : ∀ event ∈ input.event?, event ∈ books.waiting) (peer : NodeId) :
    books.held stage peer =
      (books.offered input).held stage peer + sentBy peer input.event?.toList := by
  cases input with
  | event event =>
    have moved := sentBy_erase peer (allowed event rfl)
    simp only [held, offered, Input.event?, Option.toList_some, sentBy_cons, sentBy_nil]
    omega
  | advance generation => rfl
  | clear => rfl

theorem held_queued (books : Books) (stage : Stage) (input : Input) (peer : NodeId) :
    books.held { stage with queue := stage.queue ++ [input] } peer =
      books.held stage peer + sentBy peer input.event?.toList := by
  have grown := sentBy_input peer input []
  simp only [held, List.filterMap_append, sentBy_append, grown, Stage.inHand?, List.filterMap_nil,
    sentBy_nil]
  omega

theorem held_rejected (books : Books) (stage : Stage) (input : Input) (peer : NodeId) :
    books.held { stage with rejected := stage.rejected ++ [input] } peer =
      books.held stage peer + sentBy peer input.event?.toList := by
  have grown := sentBy_input peer input []
  simp only [held, List.filterMap_append, sentBy_append, grown, Stage.inHand?, List.filterMap_nil,
    sentBy_nil]
  omega

end Books

/-- How an action moves events: within the pipeline, into it or out of it. -/
inductive Flow (before after : Intake) (held next : NodeId → Nat) : Prop
  | within (same : after.accounting = before.accounting) (quiet : after.idleExits = before.idleExits)
      (kept : ∀ peer, next peer = held peer)
  | entered (sender : NodeId) (counted : after.accounting = before.accounting.enter sender)
      (quiet : after.idleExits = before.idleExits)
      (room : before.accounting.hasRoom sender = true)
      (more : ∀ peer, next peer = held peer + if sender = peer then 1 else 0)
  | left (sender : NodeId) (counted : after.accounting = (before.accounting.exit sender).2)
      (quiet : (before.accounting.exit sender).1 = .counted → after.idleExits = before.idleExits)
      (fewer : ∀ peer, held peer = next peer + if sender = peer then 1 else 0)

def Intake.Counts (intake : Intake) (initial held : NodeId → Nat) : Prop :=
  ∃ counter, intake.accounting = .perPeer counter ∧
    ∀ peer, (counter.inFlight peer).toNat = initial peer + held peer

theorem Flow.counts {before after : Intake} {initial held next : NodeId → Nat}
    (flow : Flow before after held next) (counts : before.Counts initial held) :
    after.Counts initial next ∧ after.idleExits = before.idleExits := by
  obtain ⟨counter, perPeer, balance⟩ := counts
  cases flow with
  | within same quiet kept =>
    refine ⟨⟨counter, same.trans perPeer, fun peer => ?_⟩, quiet⟩
    rw [balance, kept]
  | entered sender counted quiet room more =>
    refine ⟨⟨counter.enter sender, ?_, fun peer => ?_⟩, quiet⟩
    · rw [counted, perPeer]
      rfl
    · rw [perPeer] at room
      have below : (counter.inFlight sender).toNat + 1 < UInt64.size := of_decide_eq_true room
      rw [PeerCounter.toNat_inFlight_enter below, balance, more, Nat.add_assoc]
  | left sender counted quiet fewer =>
    -- The event that leaves is still held, so the count is not zero.
    have some : counter.inFlight sender ≠ 0 := by
      intro zero
      have before := balance sender
      have positive := fewer sender
      rw [zero, UInt64.toNat_zero] at before
      rw [if_pos rfl] at positive
      omega
    have exits := PeerCounter.exit_of_inFlight_ne_zero some
    refine ⟨⟨(counter.exit sender).2, ?_, fun peer => ?_⟩, quiet ?_⟩
    · rw [counted, perPeer]
      rfl
    · have before := balance peer
      have exited := PeerCounter.toNat_inFlight_exit some peer
      rw [fewer] at before
      omega
    · rw [perPeer]
      exact congrArg Prod.fst exits

theorem Flow.log {before after : Intake} {held next : NodeId → Nat}
    (flow : Flow before after held next) {notice : Notice} (harmless : notice.isIdleExit = false) :
    Flow before (after.log notice) held next := by
  have quiet := Intake.idleExits_log after harmless
  cases flow with
  | within same silent kept => exact .within same (quiet.trans silent) kept
  | entered sender counted silent room more =>
    exact .entered sender counted (quiet.trans silent) room more
  | left sender counted silent fewer =>
    exact .left sender counted (fun exited => quiet.trans (silent exited)) fewer

namespace Stage

variable {stage next : Stage}

theorem TaskStep.flow (step : stage.TaskStep next) (calm : stage.crashAt = none) (books : Books) :
    Flow stage.intake next.intake (books.held stage) (books.held next) := by
  cases step with
  | crashed processing waiting crash =>
    rw [calm] at crash
    cases crash
  | @accepted event rest processing waiting forwards =>
    refine .within ?_ ?_ fun peer => ?_
    · rw [Intake.handle_snd, Intake.accounting_classify, if_pos forwards]
    · rw [Intake.handle_snd, Intake.idleExits_classify (.inl forwards)]
    · simp [Books.held, inHand?, processing, waiting, Input.event?]
      omega
  | @dropped event rest processing waiting drops =>
    refine .left event.sender ?_ (fun counted => ?_) fun peer => ?_
    · rw [Intake.handle_snd, Intake.accounting_classify, drops]
      rfl
    · rw [Intake.handle_snd, Intake.idleExits_classify (.inr counted)]
    · simp [Books.held, inHand?, processing, waiting, Input.event?]
      omega
  | @advanced generation rest evicted processing waiting allowed =>
    refine .within (Intake.accounting_advance _ _) (Intake.idleExits_advance _ _) fun peer => ?_
    simp [Books.held, inHand?, processing, waiting, List.filterMap_cons, Input.event?]
  | @refused generation rest error processing waiting refusal =>
    have quiet : (stage.intake.advance generation).2.idleExits = stage.intake.idleExits :=
      Intake.idleExits_advance _ _
    refine Flow.log (.within (Intake.accounting_advance _ _) quiet fun peer => ?_) rfl
    simp [Books.held, fail, inHand?, processing, waiting, List.filterMap_cons, Input.event?]
  | cleared processing waiting =>
    refine .within (Intake.accounting_clear _) (Intake.idleExits_clear _) fun peer => ?_
    simp [Books.held, inHand?, processing, waiting, List.filterMap_cons, Input.event?]
  | finished processing idle ended =>
    refine Flow.log (.within rfl rfl fun peer => ?_) rfl
    simp [Books.held, finish, inHand?, processing]
  | put holding listening room =>
    refine .within rfl rfl fun peer => ?_
    simp [Books.held, inHand?, holding, Output.push]
    omega
  | @undelivered event holding deaf =>
    refine Flow.log (.left event.sender (Intake.accounting_exit _ _) Intake.idleExits_exit
      fun peer => ?_) rfl
    simp [Books.held, fail, inHand?, holding]
    omega
  | @abandoned error count input rest draining waiting =>
    cases input with
    | event event =>
      refine .left event.sender (Intake.accounting_exit _ _) Intake.idleExits_exit fun peer => ?_
      simp [Books.held, abandon, inHand?, draining, waiting, Input.event?]
      omega
    | advance generation =>
      refine .within rfl rfl fun peer => ?_
      simp [Books.held, abandon, inHand?, draining, waiting, List.filterMap_cons, Input.event?]
    | clear =>
      refine .within rfl rfl fun peer => ?_
      simp [Books.held, abandon, inHand?, draining, waiting, List.filterMap_cons, Input.event?]
  | @stopped error count draining idle returned =>
    have kept : ∀ peer, books.held (stage.finishFailed error count) peer = books.held stage peer := by
      intro peer
      simp [Books.held, finishFailed, inHand?, draining]
    by_cases some : 0 < count
    · have logged : (stage.finishFailed error count).intake =
          stage.intake.log (.eventsAbandoned stage.node count.toNat) := by
        simp only [finishFailed, if_pos some]
      rw [logged]
      exact Flow.log (.within rfl rfl kept) rfl
    · have same : (stage.finishFailed error count).intake = stage.intake := by
        simp only [finishFailed, if_neg some]
      rw [same]
      exact .within rfl rfl kept

theorem flow_release (stage : Stage) (input : Input) {held next : NodeId → Nat}
    (fewer : ∀ peer, held peer = next peer + sentBy peer input.event?.toList) :
    Flow stage.intake (stage.release input).intake held next := by
  cases input with
  | event event =>
    refine .left event.sender (Intake.accounting_exit _ _) Intake.idleExits_exit fun peer => ?_
    rw [fewer]
    simp [Input.event?]
  | advance generation | clear => exact .within rfl rfl fun peer => (fewer peer).symm

theorem flow_submit {books : Books} {event : GossipEvent} (member : event ∈ books.waiting) :
    Flow stage.intake (stage.submit event).2.intake (books.held stage)
      ((if (stage.submit event).1 != .full then books.offered (.event event) else books).held
        (stage.submit event).2) := by
  have offered := Books.held_offered stage (.event event) fun other same => by
    cases same
    exact member
  unfold submit
  rcases stage.offer_cases (.event event) with ⟨taking, -, queued⟩ | full | ⟨-, refused⟩
  · rw [queued]
    exact .within rfl rfl fun peer => (Books.held_queued _ _ _ _).trans (offered peer).symm
  · rw [full]
    exact .within rfl rfl fun _ => rfl
  · rw [refused]
    exact flow_release stage (.event event) offered

theorem flow_offer_uncounted {books : Books} {input : Input} (uncounted : input.event? = none) :
    Flow stage.intake (stage.offer input).2.intake (books.held stage)
      (books.held (stage.offer input).2) := by
  rcases stage.offer_cases input with ⟨taking, -, queued⟩ | full | ⟨-, refused⟩
  · rw [queued]
    refine .within rfl rfl fun peer => ?_
    rw [Books.held_queued, uncounted]
    rfl
  · rw [full]
    exact .within rfl rfl fun _ => rfl
  · rw [refused]
    exact .within rfl rfl fun _ => rfl

theorem flow_sendRaw {books : Books} {input : Input}
    (allowed : ∀ event ∈ input.event?, event ∈ books.waiting) :
    Flow stage.intake (stage.sendRaw input).2.intake (books.held stage)
      ((if (stage.sendRaw input).1 != .full then books.offered input else books).held
        (stage.sendRaw input).2) := by
  have offered := Books.held_offered stage input allowed
  unfold sendRaw
  rcases stage.offer_cases input with ⟨taking, -, queued⟩ | full | ⟨-, refused⟩
  · rw [queued]
    exact .within rfl rfl fun peer => (Books.held_queued _ _ _ _).trans (offered peer).symm
  · rw [full]
    exact .within rfl rfl fun _ => rfl
  · rw [refused]
    exact .within rfl rfl fun peer => (Books.held_rejected _ _ _ _).trans (offered peer).symm

theorem flow_releaseRejected {input : Input} (books : Books) (member : input ∈ stage.rejected) :
    let next := { stage with rejected := stage.rejected.erase input }.release input
    Flow stage.intake next.intake (books.held stage) (books.held next) := by
  refine flow_release { stage with rejected := stage.rejected.erase input } input fun peer => ?_
  have moved := sentBy_erase_input peer member
  cases input with
  | event event =>
    simp only [Books.held, release, exit, inHand?] at moved ⊢
    omega
  | advance generation | clear =>
    simp only [Books.held, release, inHand?] at moved ⊢
    omega

theorem flow_sendReserved {books : Books} {input : Input}
    (allowed : ∀ event ∈ input.event?, event ∈ books.waiting) (orderly : stage.Orderly)
    (sent : stage.sendReserved? input = some next) :
    Flow stage.intake next.intake (books.held stage)
      ((if 0 < stage.reserved then books.offered input else books).held next) := by
  have offered := Books.held_offered stage input allowed
  unfold sendReserved? at sent
  split at sent
  · cases sent
  · rename_i reserved several
    have positive : 0 < stage.reserved := by omega
    -- A task that has ended would lose the input, but it ends only when no permit is out.
    have running : ¬ stage.hasEnded = true := fun ended => by
      have none := (orderly.ended ended).2
      omega
    rw [if_neg running] at sent
    cases sent
    rw [if_pos positive]
    exact .within rfl rfl fun peer => (Books.held_queued _ stage _ _).trans (offered peer).symm

theorem flow_receive (books : Books) :
    Flow stage.intake stage.receive.2.intake (books.held stage)
      ((books.extend stage .receive).held stage.receive.2) := by
  rcases stage.receive_cases with ⟨event, rest, waiting, received⟩ | ⟨nothing, same⟩
  · rw [Books.extend, received]
    refine .within rfl rfl fun peer => ?_
    simp [Books.held, leave, inHand?, waiting]
    omega
  · have unchanged : books.extend stage .receive = books := by
      rw [Books.extend]
      split
      · rename_i event received
        exact absurd received (nothing event)
      · rfl
    rw [unchanged, same]
    exact .within rfl rfl fun _ => rfl

theorem extend_of_after?_eq_none {action : Action} (books : Books)
    (impossible : stage.after? action = none) : books.extend stage action = books := by
  cases action with
  | submit event =>
    have gone : stage.hasHandle = false := by simpa [after?] using impossible
    simp [Books.extend, gone]
  | sendRaw input =>
    have gone : stage.hasSender = false := by simpa [after?] using impossible
    simp [Books.extend, gone]
  | sendReserved input =>
    have none : stage.reserved = 0 := by
      simp only [after?, sendReserved?] at impossible
      split at impossible
      · assumption
      · cases impossible
    simp [Books.extend, none]
  | countIn | countOut | receive | dropOutput => cases impossible
  | _ => rfl

theorem flow_of_after? {action : Action} {books : Books} (allowed : books.Allow stage action)
    (orderly : stage.Orderly) (done : stage.after? action = some next) :
    Flow stage.intake next.intake (books.held stage) ((books.extend stage action).held next) := by
  cases action with
  | countIn event =>
    cases done
    refine .entered event.sender rfl rfl allowed fun peer => ?_
    simp [Books.held, Books.extend, enter, inHand?]
    omega
  | countOut event =>
    cases done
    refine .left event.sender (Intake.accounting_exit _ _) Intake.idleExits_exit fun peer => ?_
    have moved := sentBy_erase peer allowed
    simp [Books.held, Books.extend, exit, inHand?]
    omega
  | submit event =>
    obtain ⟨handle, ⟨⟩⟩ := Option.ite_none_right_eq_some.mp done
    simp only [Books.extend, handle, Bool.true_and]
    exact flow_submit allowed
  | advance generation =>
    obtain ⟨-, ⟨⟩⟩ := Option.ite_none_right_eq_some.mp done
    exact flow_offer_uncounted rfl
  | clear =>
    obtain ⟨-, ⟨⟩⟩ := Option.ite_none_right_eq_some.mp done
    exact flow_offer_uncounted rfl
  | sendRaw input =>
    obtain ⟨sender, ⟨⟩⟩ := Option.ite_none_right_eq_some.mp done
    simp only [Books.extend, sender, Bool.true_and]
    exact flow_sendRaw allowed
  | releaseRejected input =>
    obtain ⟨member, ⟨⟩⟩ := Option.ite_none_right_eq_some.mp done
    exact flow_releaseRejected books member
  | reserve =>
    obtain ⟨-, ⟨⟩⟩ := Option.ite_none_right_eq_some.mp done
    unfold reserve
    refine .within ?_ ?_ fun peer => ?_ <;> split <;> first | rfl | (split <;> rfl)
  | sendReserved input => exact flow_sendReserved allowed orderly done
  | dropReserved =>
    simp only [after?, dropReserved?] at done
    split at done <;> cases done
    exact .within rfl rfl fun _ => rfl
  | holdSender =>
    obtain ⟨-, ⟨⟩⟩ := Option.ite_none_right_eq_some.mp done
    exact .within rfl rfl fun _ => rfl
  | dropSender =>
    simp only [after?, dropSender?] at done
    split at done <;> cases done
    exact .within rfl rfl fun _ => rfl
  | dropHandle =>
    cases done
    exact .within rfl rfl fun _ => rfl
  | receive =>
    cases done
    exact flow_receive books
  | closeOutput =>
    cases done
    unfold closeOutput
    split <;> exact .within rfl rfl fun _ => rfl
  | dropOutput =>
    cases done
    refine .within rfl rfl fun peer => ?_
    simp [Books.held, Books.extend, dropOutput, inHand?]
    omega
  | task => exact (taskStep_of_step? done).flow orderly.calm books

def Disciplined (stage : Stage) (books : Books) : List Action → Prop
  | [] => True
  | action :: rest =>
    books.Allow stage action ∧ (stage.perform action).Disciplined (books.extend stage action) rest

instance decidableDisciplined (stage : Stage) (books : Books) :
    (actions : List Action) → Decidable (stage.Disciplined books actions)
  | [] => inferInstanceAs (Decidable True)
  | action :: rest =>
    have := decidableDisciplined (stage.perform action) (books.extend stage action) rest
    inferInstanceAs (Decidable (_ ∧ _))

def keepBooks (stage : Stage) (books : Books) (actions : List Action) : Stage × Books :=
  actions.foldl (fun state action => (state.1.perform action, state.2.extend state.1 action))
    (stage, books)

structure Balanced (stage : Stage) (books : Books) (initial : NodeId → Nat) (idle : List Notice) :
    Prop where
  orderly : stage.Orderly
  counts : stage.intake.Counts initial (books.held stage)
  quiet : stage.intake.idleExits = idle

theorem balanced_perform {books : Books} {initial : NodeId → Nat} {idle : List Notice}
    {action : Action} (allowed : books.Allow stage action)
    (balanced : stage.Balanced books initial idle) :
    (stage.perform action).Balanced (books.extend stage action) initial idle := by
  obtain ⟨orderly, counts, quiet⟩ := balanced
  have next := orderly_perform orderly action
  unfold perform at next ⊢
  cases done : stage.after? action with
  | none =>
    rw [extend_of_after?_eq_none books done]
    exact ⟨orderly, counts, quiet⟩
  | some reached =>
    rw [done] at next
    obtain ⟨counted, silent⟩ := (flow_of_after? allowed orderly done).counts counts
    exact ⟨next, counted, silent.trans quiet⟩

theorem balanced_keepBooks {books : Books} {initial : NodeId → Nat} {idle : List Notice}
    {actions : List Action} (disciplined : stage.Disciplined books actions)
    (balanced : stage.Balanced books initial idle) :
    (stage.keepBooks books actions).1.Balanced (stage.keepBooks books actions).2 initial idle := by
  induction actions generalizing stage books with
  | nil => exact balanced
  | cons action rest ih => exact ih disciplined.2 (balanced_perform disciplined.1 balanced)

/-- As long as the clients keep their promises, a peer's count tells how many of its events are still
    held, and no exit ever finds nothing to count out. -/
theorem in_flight_balanced (intake : Intake) (counter : PeerCounter) (node : NodeId)
    (inputCapacity outputCapacity : Nat) (actions : List Action)
    (disciplined : (spawn { intake with accounting := .perPeer counter } node inputCapacity
      outputCapacity none).Disciplined {} actions) :
    let start := spawn { intake with accounting := .perPeer counter } node inputCapacity
      outputCapacity none
    let stage := (start.keepBooks {} actions).1
    let books := (start.keepBooks {} actions).2
    (∀ peer, (stage.intake.accounting.inFlight? peer).map UInt64.toNat =
      some ((counter.inFlight peer).toNat +
        (sentBy peer books.waiting + sentBy peer (stage.queue.filterMap Input.event?) +
          sentBy peer stage.inHand?.toList + sentBy peer (stage.rejected.filterMap Input.event?) +
          (sentBy peer stage.output.queue + sentBy peer books.received + sentBy peer books.lost)))) ∧
      stage.intake.idleExits = intake.idleExits := by
  intro start stage books
  have initially : start.Balanced {} (fun peer => (counter.inFlight peer).toNat) intake.idleExits :=
    ⟨orderly_spawn _ _ _ _, ⟨counter, rfl, fun _ => rfl⟩, rfl⟩
  obtain ⟨-, ⟨current, perPeer, balance⟩, quiet⟩ := balanced_keepBooks disciplined initially
  refine ⟨fun peer => ?_, quiet⟩
  rw [perPeer]
  exact congrArg some (balance peer)

theorem in_flight_balanced_dropped_output :
    let descriptor : Descriptor := ⟨⟨1⟩, Vector.replicate 32 0, 4⟩
    let first := GossipEvent.ofDescriptor descriptor [7] ⟨2⟩
    let second := GossipEvent.ofDescriptor descriptor [8] ⟨3⟩
    let counter := PeerCounter.empty.enter ⟨2⟩
    let intake := Intake.new .off .silent
    let start := spawn { intake with accounting := .perPeer counter } ⟨0⟩ 2 1 none
    let actions : List Action :=
      [.countIn first, .submit first, .task, .task, .countIn first, .sendRaw (.event first), .task,
        .countIn second, .submit second, .reserve, .task, .countIn first, .dropOutput, .task,
        .sendReserved (.event first), .countIn second, .sendRaw (.event second), .task, .task,
        .countIn second, .submit second, .releaseRejected (.event second)]
    let run := start.keepBooks {} actions
    start.Disciplined {} actions ∧ run.1.hasEnded = true ∧ run.2.lost = [first] ∧
      (run.1.intake.accounting.inFlight? ⟨2⟩).map UInt64.toNat = some 2 ∧
      (run.1.intake.accounting.inFlight? ⟨3⟩).map UInt64.toNat = some 0 ∧
      run.1.intake.idleExits = [] := by
  intro descriptor first second counter intake start actions run
  have disciplined : start.Disciplined {} actions := by decide +kernel
  obtain ⟨balance, quiet⟩ := in_flight_balanced intake counter ⟨0⟩ 2 1 actions disciplined
  refine ⟨disciplined, by decide +kernel, by decide +kernel, ?_, ?_, ?_⟩
  · rw [balance]
    decide +kernel
  · rw [balance]
    decide +kernel
  · exact quiet.trans rfl

end Stage

end GossipIntake
