import GossipIntake.Proofs.Intake
import GossipIntake.Stage.Client

namespace GossipIntake

def Input.event? : Input → Option GossipEvent
  | .event gossip => some gossip
  | _ => none

def Input.generation? : Input → Option UInt64
  | .advance generation => some generation
  | _ => none

/-- Whatever producers, consumer and task may do next, in any order. A producer that waits for space
    is one that tries again. -/
inductive Action where
  | countIn (event : GossipEvent)
  | countOut (event : GossipEvent)
  | submit (event : GossipEvent)
  | advance (generation : UInt64)
  | clear
  | sendRaw (input : Input)
  | releaseRejected (input : Input)
  | reserve
  | sendReserved (input : Input)
  | dropReserved
  | holdSender
  | dropSender
  | dropHandle
  | receive
  | closeOutput
  | dropOutput
  | task
deriving DecidableEq

namespace Stage

def hasSender (stage : Stage) : Bool := stage.hasHandle || 0 < stage.senders

def after? (stage : Stage) : Action → Option Stage
  | .countIn event => some (stage.enter event.sender)
  | .countOut event => some (stage.exit event.sender)
  | .submit event => if stage.hasHandle then some (stage.submit event).2 else none
  | .advance generation => if stage.hasHandle then some (stage.submitAdvance generation).2 else none
  | .clear => if stage.hasHandle then some stage.submitClear.2 else none
  | .sendRaw input => if stage.hasSender then some (stage.sendRaw input).2 else none
  | .releaseRejected input =>
    if input ∈ stage.rejected then
      some ({ stage with rejected := stage.rejected.erase input }.release input)
    else none
  | .reserve => if stage.hasSender then some stage.reserve.2 else none
  | .sendReserved input => stage.sendReserved? input
  | .dropReserved => stage.dropReserved?
  | .holdSender => if stage.hasSender then some { stage with senders := stage.senders + 1 } else none
  | .dropSender => stage.dropSender?
  | .dropHandle => some stage.dropHandle
  | .receive => some stage.receive.2
  | .closeOutput => some stage.closeOutput
  | .dropOutput => some stage.dropOutput
  | .task => stage.step?

def perform (stage : Stage) (action : Action) : Stage := (stage.after? action).getD stage

variable {stage next : Stage}

/-- The oldest rejected input is released by an action, as any other may be. -/
theorem releaseRejected?_eq_some (done : stage.releaseRejected? = some next) :
    ∃ input, stage.after? (.releaseRejected input) = some next := by
  unfold releaseRejected? at done
  split at done
  · cases done
  · rename_i input rest rejected
    refine ⟨input, ?_⟩
    simpa [after?, rejected] using done

/-- A sender that is made from the handle is made by an action. -/
theorem holdSender?_eq_some (done : stage.holdSender? = some next) :
    stage.after? .holdSender = some next := by
  unfold holdSender? at done
  split at done
  · rename_i handle
    simpa [after?, hasSender, handle] using done
  · cases done

theorem phase_of_result? {report : Report} (result : stage.result? = some (.ok report)) :
    stage.phase = .finished (.ok report) := by
  unfold result? at result
  split at result
  · rename_i finished
    rw [finished, Option.some.inj result]
  · cases result
  · cases result

theorem phase_of_inHand? {event : GossipEvent} (inHand : stage.inHand? = some event) :
    stage.phase = .holding event := by
  unfold inHand? at inHand
  split at inHand
  · rename_i same holding
    rw [holding, Option.some.inj inHand]
  · cases inHand

inductive TaskStep (stage : Stage) : Stage → Prop
  | crashed {event : GossipEvent} {rest : List Input} (processing : stage.phase = .processing)
      (waiting : stage.queue = .event event :: rest) (crash : stage.crashAt = some event.generation) :
      TaskStep stage { stage with queue := [], phase := .crashed }
  | accepted {event : GossipEvent} {rest : List Input} (processing : stage.phase = .processing)
      (waiting : stage.queue = .event event :: rest)
      (forwards : (stage.intake.classify event).1.forwards = true) :
      TaskStep stage
        { stage with
          queue := rest
          intake := (stage.intake.handle event).2
          report := { stage.report with received := stage.report.received + 1 }
          phase := .holding event }
  | dropped {event : GossipEvent} {rest : List Input} (processing : stage.phase = .processing)
      (waiting : stage.queue = .event event :: rest)
      (drops : (stage.intake.classify event).1.forwards = false) :
      TaskStep stage
        { stage with
          queue := rest
          intake := (stage.intake.handle event).2
          report := { stage.report with received := stage.report.received + 1 } }
  | advanced {generation : UInt64} {rest : List Input} {evicted : Nat}
      (processing : stage.phase = .processing) (waiting : stage.queue = .advance generation :: rest)
      (allowed : (stage.intake.advance generation).1 = .ok evicted) :
      TaskStep stage
        { stage with
          queue := rest
          intake := (stage.intake.advance generation).2
          report := { stage.report with shifts := stage.report.shifts + 1 } }
  | refused {generation : UInt64} {rest : List Input} {error : IntakeError}
      (processing : stage.phase = .processing) (waiting : stage.queue = .advance generation :: rest)
      (refusal : (stage.intake.advance generation).1 = .error error) :
      TaskStep stage
        ({ stage with queue := rest, intake := (stage.intake.advance generation).2 }.fail error)
  | cleared {rest : List Input} (processing : stage.phase = .processing)
      (waiting : stage.queue = .clear :: rest) :
      TaskStep stage
        { stage with
          queue := rest
          intake := stage.intake.clear
          report := { stage.report with clears := stage.report.clears + 1 } }
  | finished (processing : stage.phase = .processing) (idle : stage.queue = [])
      (ended : stage.inputEnded = true) : TaskStep stage stage.finish
  | put {event : GossipEvent} (holding : stage.phase = .holding event)
      (listening : stage.output.consumer = .listening) (room : stage.output.hasRoom = true) :
      TaskStep stage
        { stage with
          output := stage.output.push event
          phase := .processing
          report := { stage.report with forwarded := stage.report.forwarded + 1 } }
  | undelivered {event : GossipEvent} (holding : stage.phase = .holding event)
      (deaf : stage.output.consumer ≠ .listening) :
      TaskStep stage
        ({ stage with
          intake := stage.intake.exit event.sender
          output := { stage.output with promised := false } }.fail .downstreamClosed)
  | abandoned {error : IntakeError} {count : UInt64} {input : Input} {rest : List Input}
      (draining : stage.phase = .draining error count) (waiting : stage.queue = input :: rest) :
      TaskStep stage ({ stage with queue := rest }.abandon error count input)
  | stopped {error : IntakeError} {count : UInt64} (draining : stage.phase = .draining error count)
      (idle : stage.queue = []) (returned : stage.reserved = 0) :
      TaskStep stage (stage.finishFailed error count)

theorem phase_abandon (stage : Stage) {error : IntakeError} {count : UInt64}
    (draining : stage.phase = .draining error count) (input : Input) :
    (stage.abandon error count input).phase =
      .draining error (count + .ofNat input.event?.toList.length) := by
  cases input with
  | event event => rfl
  | advance | clear => simpa [abandon, Input.event?] using draining

@[simp]
theorem queue_abandon (stage : Stage) (error : IntakeError) (count : UInt64) (input : Input) :
    (stage.abandon error count input).queue = stage.queue := by
  cases input <;> rfl

@[simp]
theorem crashAt_abandon (stage : Stage) (error : IntakeError) (count : UInt64) (input : Input) :
    (stage.abandon error count input).crashAt = stage.crashAt := by
  cases input <;> rfl

@[simp]
theorem output_abandon (stage : Stage) (error : IntakeError) (count : UInt64) (input : Input) :
    (stage.abandon error count input).output = stage.output := by
  cases input <;> rfl

@[simp]
theorem report_abandon (stage : Stage) (error : IntakeError) (count : UInt64) (input : Input) :
    (stage.abandon error count input).report = stage.report := by
  cases input <;> rfl

@[simp]
theorem metrics_abandon (stage : Stage) (error : IntakeError) (count : UInt64) (input : Input) :
    (stage.abandon error count input).intake.metrics = stage.intake.metrics := by
  cases input <;> simp [abandon]

@[simp]
theorem deduplicator_abandon (stage : Stage) (error : IntakeError) (count : UInt64) (input : Input) :
    (stage.abandon error count input).intake.deduplicator = stage.intake.deduplicator := by
  cases input <;> simp [abandon]

theorem taskStep_forward {event : GossipEvent} (holding : stage.phase = .holding event)
    (ready : stage.output.isReady = true) : stage.TaskStep (stage.forward event) := by
  unfold forward
  split
  · rename_i listening
    refine .put holding listening ?_
    simpa [Output.isReady, listening] using ready
  · rename_i deaf
    exact .undelivered holding deaf

theorem taskStep_process {input : Input} {rest : List Input} (processing : stage.phase = .processing)
    (waiting : stage.queue = input :: rest) :
    stage.TaskStep ({ stage with queue := rest }.process input) := by
  cases input with
  | event event =>
    simp only [process, processEvent, Intake.handle_fst]
    split
    · rename_i crash
      exact .crashed processing waiting crash
    · by_cases forwards : (stage.intake.deduplicator.classify event).1.forwards = true
      · simp only [forwards, if_true]
        exact .accepted processing waiting forwards
      · simp only [forwards]
        exact .dropped processing waiting (Bool.not_eq_true _ ▸ forwards)
  | advance generation =>
    simp only [process]
    split
    · rename_i evicted intake result
      have allowed : (stage.intake.advance generation).1 = .ok evicted := by rw [result]
      have reached : (stage.intake.advance generation).2 = intake := by rw [result]
      subst reached
      exact .advanced processing waiting allowed
    · rename_i error intake result
      have refusal : (stage.intake.advance generation).1 = .error error := by rw [result]
      have reached : (stage.intake.advance generation).2 = intake := by rw [result]
      subst reached
      exact .refused processing waiting refusal
  | clear => exact .cleared processing waiting

theorem taskStep_of_step? (done : stage.step? = some next) : stage.TaskStep next := by
  unfold step? at done
  split at done
  · rename_i processing
    split at done
    · rename_i input rest waiting
      cases done
      exact taskStep_process processing waiting
    · rename_i idle
      split at done
      · rename_i ended
        cases done
        exact .finished processing idle ended
      · cases done
  · rename_i event holding
    split at done
    · rename_i ready
      cases done
      exact taskStep_forward holding ready
    · cases done
  · rename_i error count draining
    split at done
    · rename_i input rest waiting
      cases done
      exact .abandoned draining waiting
    · rename_i idle
      split at done
      · rename_i returned
        cases done
        exact .stopped draining idle returned
      · cases done
  · cases done
  · cases done

theorem step?_processing {input : Input} {rest : List Input} (processing : stage.phase = .processing)
    (waiting : stage.queue = input :: rest) :
    stage.step? = some ({ stage with queue := rest }.process input) := by
  simp [step?, processing, waiting]

theorem step?_idle (processing : stage.phase = .processing) (idle : stage.queue = []) :
    stage.step? = if stage.inputEnded then some stage.finish else none := by
  simp [step?, processing, idle]

theorem step?_holding {event : GossipEvent} (holding : stage.phase = .holding event) :
    stage.step? = if stage.output.isReady then some (stage.forward event) else none := by
  simp [step?, holding]

theorem step?_draining {error : IntakeError} {count : UInt64} {input : Input} {rest : List Input}
    (draining : stage.phase = .draining error count) (waiting : stage.queue = input :: rest) :
    stage.step? = some ({ stage with queue := rest }.abandon error count input) := by
  simp [step?, draining, waiting]

theorem step?_drained {error : IntakeError} {count : UInt64}
    (draining : stage.phase = .draining error count) (idle : stage.queue = []) :
    stage.step? = if stage.reserved = 0 then some (stage.finishFailed error count) else none := by
  simp [step?, draining, idle]

theorem TaskStep.frame (step : stage.TaskStep next) :
    next.hasHandle = stage.hasHandle ∧ next.reserved = stage.reserved ∧
      next.capacity = stage.capacity ∧ next.queue.length ≤ stage.queue.length := by
  cases step with
  | crashed | put | undelivered | finished | stopped => simp [fail, finish, finishFailed]
  | accepted _ waiting | dropped _ waiting | advanced _ waiting | refused _ waiting
  | cleared _ waiting => simp [fail, waiting]
  | @abandoned error count input rest draining waiting => cases input <;> simp [abandon, waiting]

theorem step?_settle (stage : Stage) : stage.settle.step? = none := by
  induction stage using settle.induct with
  | case1 stage stuck =>
    rw [settle_of_step?_eq_none stuck]
    exact stuck
  | case2 stage next done ih =>
    rw [settle_of_step?_eq_some done]
    exact ih

theorem settle_settle (stage : Stage) : stage.settle.settle = stage.settle :=
  settle_of_step?_eq_none stage.step?_settle

theorem settle_induct {P : Stage → Prop} (kept : ∀ {stage next}, P stage → stage.step? = some next → P next)
    (initially : P stage) : P stage.settle := by
  induction stage using settle.induct with
  | case1 stage stuck =>
    rw [settle_of_step?_eq_none stuck]
    exact initially
  | case2 stage next done ih =>
    rw [settle_of_step?_eq_some done]
    exact ih (kept initially done)

theorem queue_eq_nil_of_stuck (stuck : stage.step? = none) (running : stage.hasEnded = false)
    (emptyHanded : stage.inHand? = none) : stage.queue = [] := by
  cases waiting : stage.queue with
  | nil => rfl
  | cons input rest =>
    cases phase : stage.phase with
    | processing | draining => simp [step?, phase, waiting] at stuck
    | holding => simp [inHand?, phase] at emptyHanded
    | finished | crashed => simp [hasEnded, phase] at running

inductive ClientMove (stage : Stage) : Stage → Prop
  | unchanged : ClientMove stage stage
  | entered (peer : NodeId) : ClientMove stage (stage.enter peer)
  | left (peer : NodeId) : ClientMove stage (stage.exit peer)
  | queued (input : Input) (taking : stage.accepts = true) (room : stage.hasRoom = true) :
      ClientMove stage { stage with queue := stage.queue ++ [input] }
  | returned (input : Input) : ClientMove stage { stage with rejected := stage.rejected ++ [input] }
  | released (input : Input) :
      ClientMove stage ({ stage with rejected := stage.rejected.erase input }.release input)
  | reserved (taking : stage.accepts = true) (room : stage.hasRoom = true) :
      ClientMove stage { stage with reserved := stage.reserved + 1 }
  | sent {reserved : Nat} (input : Input) (permit : stage.reserved = reserved + 1)
      (running : stage.hasEnded = false) :
      ClientMove stage { stage with reserved, queue := stage.queue ++ [input] }
  | permitLost {reserved : Nat} (permit : stage.reserved = reserved + 1) :
      ClientMove stage { stage with reserved }
  | senderHeld (sender : stage.hasSender = true) :
      ClientMove stage { stage with senders := stage.senders + 1 }
  | senderDropped {senders : Nat} (several : stage.senders = senders + 1) :
      ClientMove stage { stage with senders }
  | handleDropped : ClientMove stage stage.dropHandle
  | received {event : GossipEvent} {rest : List GossipEvent}
      (waiting : stage.output.queue = event :: rest) : ClientMove stage (stage.leave rest)
  | outputClosed (listening : stage.output.consumer = .listening) :
      ClientMove stage { stage with output := { stage.output with consumer := .closed } }
  | outputDropped : ClientMove stage stage.dropOutput

theorem offer_cases (stage : Stage) (input : Input) :
    (stage.accepts = true ∧ stage.hasRoom = true ∧
        stage.offer input = (.queued, { stage with queue := stage.queue ++ [input] })) ∨
      stage.offer input = (.full, stage) ∨
      (stage.accepts = false ∧ stage.offer input = (.refused, stage)) := by
  unfold offer
  by_cases taking : stage.accepts = true
  · by_cases room : stage.hasRoom = true
    · exact .inl ⟨taking, room, by rw [if_pos taking, if_pos room]⟩
    · exact .inr (.inl (by rw [if_pos taking, if_neg room]))
  · exact .inr (.inr ⟨Bool.not_eq_true _ ▸ taking, by rw [if_neg taking]⟩)

theorem offer_of_refusing (closed : stage.accepts = false) (input : Input) :
    stage.offer input = (.refused, stage) := by
  rw [offer, closed]
  rfl

theorem receive_cases (stage : Stage) :
    (∃ event rest, stage.output.queue = event :: rest ∧
        stage.receive = (.event event, stage.leave rest)) ∨
      ((∀ event, stage.receive.1 ≠ .event event) ∧ stage.receive.2 = stage) := by
  unfold receive
  split
  · exact .inr ⟨by simp, rfl⟩
  · rename_i event rest waiting _
    exact .inl ⟨event, rest, waiting, rfl⟩
  · refine .inr ⟨fun event => ?_, rfl⟩
    dsimp only
    split <;> simp
  · refine .inr ⟨fun event => ?_, rfl⟩
    dsimp only
    split <;> simp

theorem clientMove_offer (stage : Stage) (input : Input) :
    stage.ClientMove (stage.offer input).2 := by
  rcases stage.offer_cases input with ⟨taking, room, queued⟩ | full | ⟨-, refused⟩
  · rw [queued]
    exact .queued input taking room
  · rw [full]
    exact .unchanged
  · rw [refused]
    exact .unchanged

theorem clientMove_submit (stage : Stage) (event : GossipEvent) :
    stage.ClientMove (stage.submit event).2 := by
  unfold submit
  rcases stage.offer_cases (.event event) with ⟨taking, room, queued⟩ | full | ⟨-, refused⟩
  · rw [queued]
    exact .queued (.event event) taking room
  · rw [full]
    exact .unchanged
  · rw [refused]
    exact .left event.sender

theorem clientMove_sendRaw (stage : Stage) (input : Input) :
    stage.ClientMove (stage.sendRaw input).2 := by
  unfold sendRaw
  rcases stage.offer_cases input with ⟨taking, room, queued⟩ | full | ⟨-, refused⟩
  · rw [queued]
    exact .queued input taking room
  · rw [full]
    exact .unchanged
  · rw [refused]
    exact .returned input

theorem clientMove_reserve (stage : Stage) : stage.ClientMove stage.reserve.2 := by
  unfold reserve
  split
  · rename_i taking
    split
    · rename_i room
      exact .reserved taking room
    · exact .unchanged
  · exact .unchanged

theorem clientMove_sendReserved {input : Input} (sent : stage.sendReserved? input = some next) :
    stage.ClientMove next := by
  unfold sendReserved? at sent
  split at sent
  · cases sent
  · rename_i reserved permit
    split at sent
    · cases sent
      exact .permitLost permit
    · rename_i running
      cases sent
      exact .sent input permit (Bool.not_eq_true _ ▸ running)

theorem clientMove_receive (stage : Stage) : stage.ClientMove stage.receive.2 := by
  rcases stage.receive_cases with ⟨event, rest, waiting, received⟩ | ⟨-, same⟩
  · rw [received]
    exact .received waiting
  · rw [same]
    exact .unchanged

theorem clientMove_closeOutput (stage : Stage) : stage.ClientMove stage.closeOutput := by
  unfold closeOutput
  split
  · rename_i listening
    exact .outputClosed listening
  · exact .unchanged

theorem clientMove_of_after? {action : Action} (client : action ≠ .task)
    (done : stage.after? action = some next) : stage.ClientMove next := by
  cases action with
  | countIn event =>
    cases done
    exact .entered event.sender
  | countOut event =>
    cases done
    exact .left event.sender
  | submit event =>
    obtain ⟨-, ⟨⟩⟩ := Option.ite_none_right_eq_some.mp done
    exact clientMove_submit stage event
  | advance generation =>
    obtain ⟨-, ⟨⟩⟩ := Option.ite_none_right_eq_some.mp done
    exact clientMove_offer stage (.advance generation)
  | clear =>
    obtain ⟨-, ⟨⟩⟩ := Option.ite_none_right_eq_some.mp done
    exact clientMove_offer stage .clear
  | sendRaw input =>
    obtain ⟨-, ⟨⟩⟩ := Option.ite_none_right_eq_some.mp done
    exact clientMove_sendRaw stage input
  | releaseRejected input =>
    obtain ⟨-, ⟨⟩⟩ := Option.ite_none_right_eq_some.mp done
    exact .released input
  | reserve =>
    obtain ⟨-, ⟨⟩⟩ := Option.ite_none_right_eq_some.mp done
    exact clientMove_reserve stage
  | sendReserved input => exact clientMove_sendReserved done
  | dropReserved =>
    simp only [after?, dropReserved?] at done
    split at done
    · cases done
    · rename_i reserved permit
      cases done
      exact .permitLost permit
  | holdSender =>
    obtain ⟨sender, ⟨⟩⟩ := Option.ite_none_right_eq_some.mp done
    exact .senderHeld sender
  | dropSender =>
    simp only [after?, dropSender?] at done
    split at done
    · cases done
    · rename_i senders several
      cases done
      exact .senderDropped several
  | dropHandle =>
    cases done
    exact .handleDropped
  | receive =>
    cases done
    exact clientMove_receive stage
  | closeOutput =>
    cases done
    exact clientMove_closeOutput stage
  | dropOutput =>
    cases done
    exact .outputDropped
  | task => exact absurd rfl client

theorem offer_snd {P : Stage → Prop} (input : Input) (same : P stage)
    (queued : stage.accepts = true → P { stage with queue := stage.queue ++ [input] }) :
    P (stage.offer input).2 := by
  rcases stage.offer_cases input with ⟨taking, -, accepted⟩ | full | ⟨-, refused⟩
  · rw [accepted]
    exact queued taking
  · rw [full]
    exact same
  · rw [refused]
    exact same

/-- What producers and the consumer leave alone. They add to the input queue, and only while the task
    runs. -/
structure ClientStep (stage next : Stage) : Prop where
  deduplicator : next.intake.deduplicator = stage.intake.deduplicator
  phase : next.phase = stage.phase
  report : next.report = stage.report
  crashAt : next.crashAt = stage.crashAt
  queue : ∃ sent, next.queue = stage.queue ++ sent
  ended : stage.hasEnded = true → next.queue = stage.queue
  permits : stage.accepts = false → next.reserved ≤ stage.reserved

theorem ClientStep.unqueued (deduplicator : next.intake.deduplicator = stage.intake.deduplicator)
    (phase : next.phase = stage.phase) (report : next.report = stage.report)
    (crashAt : next.crashAt = stage.crashAt) (queue : next.queue = stage.queue)
    (permits : next.reserved ≤ stage.reserved) : stage.ClientStep next :=
  ⟨deduplicator, phase, report, crashAt, ⟨[], by rw [queue, List.append_nil]⟩, fun _ => queue,
    fun _ => permits⟩

theorem ClientStep.refl (stage : Stage) : stage.ClientStep stage :=
  .unqueued rfl rfl rfl rfl rfl (Nat.le_refl _)

theorem hasEnded_of_accepts (taking : stage.accepts = true) : stage.hasEnded = false := by
  unfold accepts at taking
  unfold hasEnded
  split at taking <;> simp_all

theorem clientStep_queued (taking : stage.accepts = true) (input : Input) :
    stage.ClientStep { stage with queue := stage.queue ++ [input] } := by
  refine ⟨rfl, rfl, rfl, rfl, ⟨[input], rfl⟩, fun ended => ?_, fun _ => Nat.le_refl _⟩
  rw [hasEnded_of_accepts taking] at ended
  cases ended

theorem clientStep_release (stage : Stage) (input : Input) : stage.ClientStep (stage.release input) := by
  cases input with
  | event event => exact .unqueued (Intake.deduplicator_exit _ _) rfl rfl rfl rfl (Nat.le_refl _)
  | advance generation => exact .refl stage
  | clear => exact .refl stage

theorem ClientMove.clientStep (move : stage.ClientMove next) : stage.ClientStep next := by
  cases move with
  | unchanged => exact .refl stage
  | entered | returned | senderHeld | senderDropped | handleDropped | received | outputClosed
  | outputDropped => exact .unqueued rfl rfl rfl rfl rfl (Nat.le_refl _)
  | left => exact .unqueued (Intake.deduplicator_exit _ _) rfl rfl rfl rfl (Nat.le_refl _)
  | queued input taking => exact clientStep_queued taking input
  | released input =>
    obtain ⟨deduplicator, phase, report, crashAt, queue, ended, permits⟩ :=
      clientStep_release { stage with rejected := stage.rejected.erase input } input
    exact ⟨deduplicator, phase, report, crashAt, queue, ended, permits⟩
  | reserved taking =>
    refine ⟨rfl, rfl, rfl, rfl, ⟨[], by simp⟩, fun _ => rfl, fun closed => ?_⟩
    rw [taking] at closed
    cases closed
  | @sent reserved input permit running =>
    refine ⟨rfl, rfl, rfl, rfl, ⟨[input], rfl⟩, fun ended => ?_, fun _ => by simp only; omega⟩
    rw [running] at ended
    cases ended
  | permitLost permit => exact .unqueued rfl rfl rfl rfl rfl (by simp only; omega)

theorem perform_task (stage : Stage) :
    stage.perform .task = stage ∧ stage.step? = none ∨ stage.TaskStep (stage.perform .task) := by
  unfold perform after?
  cases done : stage.step? with
  | none => exact .inl ⟨rfl, rfl⟩
  | some next => exact .inr (taskStep_of_step? done)

theorem perform_move (stage : Stage) {action : Action} (client : action ≠ .task) :
    stage.ClientMove (stage.perform action) := by
  unfold perform
  cases done : stage.after? action with
  | none => exact .unchanged
  | some next => exact clientMove_of_after? client done

theorem perform_client (stage : Stage) {action : Action} (client : action ≠ .task) :
    stage.ClientStep (stage.perform action) := (stage.perform_move client).clientStep

/-- A task that is stuck leaves the stage as a client would that does nothing. -/
theorem perform_cases (stage : Stage) (action : Action) :
    stage.TaskStep (stage.perform action) ∨ stage.ClientMove (stage.perform action) := by
  by_cases client : action = .task
  · subst client
    rcases stage.perform_task with ⟨same, -⟩ | step
    · rw [same]
      exact .inr .unchanged
    · exact .inl step
  · exact .inr (stage.perform_move client)

/-- Without a crash the task ends only after its queue is empty and all permits have come back. -/
structure Orderly (stage : Stage) : Prop where
  calm : stage.crashAt = none
  ended : stage.hasEnded = true → stage.queue = [] ∧ stage.reserved = 0

theorem orderly_spawn (intake : Intake) (node : NodeId) (inputCapacity outputCapacity : Nat) :
    (spawn intake node inputCapacity outputCapacity none).Orderly :=
  ⟨rfl, fun absurd => (by cases absurd)⟩

theorem accepts_of_hasEnded (ended : stage.hasEnded = true) : stage.accepts = false := by
  cases taking : stage.accepts with
  | false => rfl
  | true =>
    rw [hasEnded_of_accepts taking] at ended
    cases ended

theorem ClientStep.orderly (client : stage.ClientStep next) (orderly : stage.Orderly) :
    next.Orderly := by
  refine ⟨client.crashAt.trans orderly.calm, fun ended => ?_⟩
  rw [hasEnded, client.phase, ← hasEnded] at ended
  obtain ⟨empty, returned⟩ := orderly.ended ended
  have permits := client.permits (accepts_of_hasEnded ended)
  exact ⟨(client.ended ended).trans empty, by omega⟩

theorem TaskStep.orderly (step : stage.TaskStep next) (orderly : stage.Orderly) : next.Orderly := by
  have calm := orderly.calm
  cases step with
  | crashed processing waiting crash =>
    rw [calm] at crash
    cases crash
  | accepted => exact ⟨calm, fun absurd => (by cases absurd)⟩
  | dropped processing | advanced processing | cleared processing =>
    refine ⟨calm, fun ended => ?_⟩
    simp [hasEnded, processing] at ended
  | refused => exact ⟨calm, fun absurd => (by cases absurd)⟩
  | finished processing idle ended =>
    refine ⟨calm, fun _ => ⟨idle, ?_⟩⟩
    simp only [inputEnded, Bool.and_eq_true, beq_iff_eq] at ended
    exact ended.2
  | put => exact ⟨calm, fun absurd => (by cases absurd)⟩
  | undelivered => exact ⟨calm, fun absurd => (by cases absurd)⟩
  | @abandoned error count input rest draining waiting =>
    have phase := phase_abandon { stage with queue := rest } draining input
    refine ⟨by rw [crashAt_abandon]; exact calm, fun ended => ?_⟩
    rw [hasEnded, phase] at ended
    cases ended
  | stopped draining idle returned => exact ⟨calm, fun _ => ⟨idle, returned⟩⟩

theorem orderly_perform (orderly : stage.Orderly) (action : Action) :
    (stage.perform action).Orderly := by
  rcases stage.perform_cases action with step | move
  · exact step.orderly orderly
  · exact move.clientStep.orderly orderly

end Stage

end GossipIntake
