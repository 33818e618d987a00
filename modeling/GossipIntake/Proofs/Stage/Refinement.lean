import GossipIntake.Proofs.Deduplicator.Requests
import GossipIntake.Proofs.Stage.Run

namespace GossipIntake

def Input.request : Input → Request
  | .event gossip => .handle gossip
  | .advance generation => .advance generation
  | .clear => .clear

def Intake.feed (intake : Intake) (inputs : List Input) : List (Request × Response) × Intake :=
  intake.run (inputs.map Input.request)

def returned? : Request × Response → Option GossipEvent
  | (_, .handled forwarded) => forwarded
  | _ => none

def Intake.returned (intake : Intake) (inputs : List Input) : List GossipEvent :=
  (intake.feed inputs).1.filterMap returned?

theorem Intake.feed_concat (intake : Intake) (inputs : List Input) (input : Input) :
    (intake.feed (inputs ++ [input])).2 = ((intake.feed inputs).2.answer input.request).2 := by
  rw [feed, List.map_append, List.map_singleton, run_concat, ← feed]

theorem Intake.filterMap_feed_concat {α : Type} (intake : Intake) (inputs : List Input)
    (input : Input) (pick : Request × Response → Option α) :
    (intake.feed (inputs ++ [input])).1.filterMap pick =
      (intake.feed inputs).1.filterMap pick ++
        (pick (input.request, ((intake.feed inputs).2.answer input.request).1)).toList := by
  rw [feed, List.map_append, List.map_singleton, run_concat, ← feed, List.filterMap_append,
    List.filterMap_cons]
  split <;> simp_all

theorem Intake.returned_concat (intake : Intake) (inputs : List Input) (input : Input) :
    intake.returned (inputs ++ [input]) =
      intake.returned inputs ++
        (returned? (input.request, ((intake.feed inputs).2.answer input.request).1)).toList :=
  intake.filterMap_feed_concat inputs input returned?

/-- Words count modulo their size. -/
def Report.counting (taken : List Input) (forwarded : Nat) : Report where
  received := .ofNat (taken.filterMap Input.event?).length
  forwarded := .ofNat forwarded
  shifts := .ofNat (taken.filterMap Input.generation?).length
  clears := .ofNat (taken.count .clear)

theorem Report.counting_event (taken : List Input) (event : GossipEvent) (forwarded : Nat) :
    Report.counting (taken ++ [.event event]) forwarded =
      { Report.counting taken forwarded with
        received := (Report.counting taken forwarded).received + 1 } := by
  simp [Report.counting, List.filterMap_cons, Input.event?, Input.generation?, UInt64.ofNat_add]

theorem Report.counting_advance (taken : List Input) (generation : UInt64) (forwarded : Nat) :
    Report.counting (taken ++ [.advance generation]) forwarded =
      { Report.counting taken forwarded with
        shifts := (Report.counting taken forwarded).shifts + 1 } := by
  simp [Report.counting, List.filterMap_cons, Input.event?, Input.generation?, UInt64.ofNat_add]

theorem Report.counting_clear (taken : List Input) (forwarded : Nat) :
    Report.counting (taken ++ [.clear]) forwarded =
      { Report.counting taken forwarded with
        clears := (Report.counting taken forwarded).clears + 1 } := by
  simp [Report.counting, List.filterMap_cons, Input.event?, Input.generation?, UInt64.ofNat_add]

theorem Report.counting_put (taken : List Input) (forwarded : Nat) :
    Report.counting taken (forwarded + 1) =
      { Report.counting taken forwarded with
        forwarded := (Report.counting taken forwarded).forwarded + 1 } := by
  simp [Report.counting, UInt64.ofNat_add]

/-- What an observer of the queues writes down. -/
structure Transcript where
  accepted : List Input := []
  taken : List Input := []
  /-- Inputs that a failed stage took only to release them. -/
  drained : List Input := []
  put : List GossipEvent := []
  /-- The event whose forward failed. -/
  undelivered : Option GossipEvent := none

def Transcript.extend (transcript : Transcript) (stage : Stage) (action : Action) : Transcript :=
  let reached := stage.perform action
  match action, stage.phase with
  | .task, .processing => { transcript with taken := transcript.taken ++ stage.queue.take 1 }
  | .task, .draining _ _ => { transcript with drained := transcript.drained ++ stage.queue.take 1 }
  | .task, .holding event =>
    { transcript with
      put := transcript.put ++ reached.output.queue.drop stage.output.queue.length
      undelivered := if reached.accepts then transcript.undelivered else some event }
  | .task, .finished _ | .task, .crashed => transcript
  | _, _ =>
    { transcript with
      accepted := transcript.accepted ++ reached.queue.drop stage.queue.length }

def Stage.observe (stage : Stage) (actions : List Action) : Stage × Transcript :=
  actions.foldl (fun state action => (state.1.perform action, state.2.extend state.1 action))
    (stage, {})

namespace Stage

theorem observe_concat (stage : Stage) (actions : List Action) (action : Action) :
    stage.observe (actions ++ [action]) =
      ((stage.observe actions).1.perform action,
        (stage.observe actions).2.extend (stage.observe actions).1 action) := by
  rw [observe, List.foldl_append, ← observe]
  rfl

variable {stage next : Stage} {transcript : Transcript} {reference : Intake}

def unfailed (stage : Stage) : Bool :=
  match stage.phase with
  | .processing | .holding _ | .finished (.ok _) => true
  | _ => false

/-- The stage, and what was seen of it, agree with the reference that was fed the inputs taken. -/
structure Mirrors (stage : Stage) (transcript : Transcript) (reference : Intake) : Prop where
  orderly : stage.Orderly
  deduplicator : stage.intake.deduplicator = (reference.feed transcript.taken).2.deduplicator
  output : transcript.put ++ stage.inHand?.toList ++ transcript.undelivered.toList =
    reference.returned transcript.taken
  accepted : transcript.accepted = transcript.taken ++ transcript.drained ++ stage.queue
  unfailed : stage.unfailed = true → transcript.drained = [] ∧ transcript.undelivered = none ∧
    stage.report = .counting transcript.taken transcript.put.length
  finished : ∀ report, stage.phase = .finished (.ok report) → stage.report = report

theorem mirrors_start {intake reference : Intake} (node : NodeId)
    (inputCapacity outputCapacity : Nat) (same : reference.deduplicator = intake.deduplicator) :
    (spawn intake node inputCapacity outputCapacity none).Mirrors {} reference where
  orderly := orderly_spawn _ _ _ _
  deduplicator := same.symm
  output := rfl
  accepted := rfl
  unfailed _ := ⟨rfl, rfl, rfl⟩
  finished _ absurd := by cases absurd

theorem mirrors_spawn (accounting : Accounting) (metrics : Recorder) (node : NodeId)
    (inputCapacity outputCapacity : Nat) {reference : Intake}
    (fresh : reference.deduplicator = Deduplicator.new) :
    (spawn (Intake.new accounting metrics) node inputCapacity outputCapacity none).Mirrors {}
      reference :=
  mirrors_start node inputCapacity outputCapacity fresh

theorem ClientStep.mirrors (client : stage.ClientStep next)
    (mirrors : stage.Mirrors transcript reference) :
    next.Mirrors
      { transcript with accepted := transcript.accepted ++ next.queue.drop stage.queue.length }
      reference := by
  obtain ⟨sent, queue⟩ := client.queue
  have inHand : next.inHand? = stage.inHand? := by rw [inHand?, inHand?, client.phase]
  have failure : next.unfailed = stage.unfailed := by rw [Stage.unfailed, Stage.unfailed, client.phase]
  refine ⟨client.orderly mirrors.orderly, ?_, ?_, ?_, ?_, ?_⟩
  · rw [client.deduplicator]
    exact mirrors.deduplicator
  · rw [inHand]
    exact mirrors.output
  · simp only [queue, List.drop_left, mirrors.accepted, List.append_assoc]
  · rw [failure, client.report]
    exact mirrors.unfailed
  · intro report phase
    rw [client.phase] at phase
    rw [client.report]
    exact mirrors.finished report phase

theorem extend_processing (transcript : Transcript) (processing : stage.phase = .processing) :
    transcript.extend stage .task =
      { transcript with taken := transcript.taken ++ stage.queue.take 1 } := by
  simp only [Transcript.extend, processing]

theorem extend_draining (transcript : Transcript) {error : IntakeError} {count : UInt64}
    (draining : stage.phase = .draining error count) :
    transcript.extend stage .task =
      { transcript with drained := transcript.drained ++ stage.queue.take 1 } := by
  simp only [Transcript.extend, draining]

theorem extend_holding (transcript : Transcript) {event : GossipEvent}
    (holding : stage.phase = .holding event) :
    transcript.extend stage .task =
      { transcript with
        put := transcript.put ++
          (stage.perform .task).output.queue.drop stage.output.queue.length
        undelivered :=
          if (stage.perform .task).accepts then transcript.undelivered else some event } := by
  simp only [Transcript.extend, holding]

theorem Mirrors.emptyHanded (mirrors : stage.Mirrors transcript reference)
    (processing : stage.phase = .processing) :
    transcript.drained = [] ∧ transcript.undelivered = none ∧
      stage.report = .counting transcript.taken transcript.put.length ∧
      transcript.put = reference.returned transcript.taken := by
  have unfailed : stage.unfailed = true := by rw [Stage.unfailed, processing]
  have inHand : stage.inHand? = none := by rw [inHand?, processing]
  obtain ⟨undrained, delivered, counted⟩ := mirrors.unfailed unfailed
  have output := mirrors.output
  rw [inHand, delivered, Option.toList_none, List.append_nil, List.append_nil] at output
  exact ⟨undrained, delivered, counted, output⟩

theorem Mirrors.inHand {event : GossipEvent} (mirrors : stage.Mirrors transcript reference)
    (holding : stage.phase = .holding event) :
    transcript.drained = [] ∧ transcript.undelivered = none ∧
      stage.report = .counting transcript.taken transcript.put.length ∧
      transcript.put ++ [event] = reference.returned transcript.taken := by
  have unfailed : stage.unfailed = true := by rw [Stage.unfailed, holding]
  have inHand : stage.inHand? = some event := by rw [inHand?, holding]
  obtain ⟨undrained, delivered, counted⟩ := mirrors.unfailed unfailed
  have output := mirrors.output
  rw [inHand, delivered, Option.toList_none, List.append_nil] at output
  exact ⟨undrained, delivered, counted, output⟩

theorem Mirrors.take {input : Input} {rest : List Input}
    (mirrors : stage.Mirrors transcript reference) (processing : stage.phase = .processing)
    (waiting : stage.queue = input :: rest) (orderly : next.Orderly) (queue : next.queue = rest)
    (deduplicator : next.intake.deduplicator = (stage.intake.answer input.request).2.deduplicator)
    (inHand : next.inHand? = returned? (input.request, (stage.intake.answer input.request).1))
    (running : next.hasEnded = false)
    (report : next.unfailed = true → stage.report = .counting transcript.taken transcript.put.length →
      next.report = .counting (transcript.taken ++ [input]) transcript.put.length) :
    next.Mirrors { transcript with taken := transcript.taken ++ stage.queue.take 1 } reference := by
  have taken : stage.queue.take 1 = [input] := by rw [waiting, List.take_succ_cons, List.take_zero]
  -- The hand is empty before, so all that was returned so far is on the output queue.
  obtain ⟨undrained, delivered, counted, before⟩ := mirrors.emptyHanded processing
  obtain ⟨answer, remembered⟩ := Intake.answer_congr mirrors.deduplicator input.request
  rw [taken]
  refine ⟨orderly, ?_, ?_, ?_, ?_, ?_⟩
  · rw [deduplicator, remembered, Intake.feed_concat]
  · simp only [inHand, delivered, Option.toList_none, List.append_nil]
    rw [Intake.returned_concat, ← before, answer]
  · rw [mirrors.accepted, undrained, waiting, queue]
    simp only [List.append_nil, List.append_assoc, List.singleton_append]
  · exact fun still => ⟨undrained, delivered, report still counted⟩
  · intro report phase
    rw [hasEnded, phase] at running
    cases running

theorem TaskStep.mirrors (step : stage.TaskStep next) (reached : stage.perform .task = next)
    (mirrors : stage.Mirrors transcript reference) :
    next.Mirrors (transcript.extend stage .task) reference := by
  have orderly := step.orderly mirrors.orderly
  cases step with
  | crashed processing waiting crash =>
    rw [mirrors.orderly.calm] at crash
    cases crash
  | @accepted event rest processing waiting forwards =>
    rw [Intake.classify_fst] at forwards
    rw [extend_processing transcript processing]
    refine mirrors.take processing waiting orderly rfl rfl ?_ rfl ?_
    · simp [inHand?, Input.request, Intake.answer, returned?, Intake.handle_fst, forwards]
    · intro _ counted
      rw [Report.counting_event, ← counted]
  | @dropped event rest processing waiting drops =>
    rw [Intake.classify_fst] at drops
    rw [extend_processing transcript processing]
    refine mirrors.take processing waiting orderly rfl rfl ?_ (by simp [hasEnded, processing]) ?_
    · simp [inHand?, processing, Input.request, Intake.answer, returned?, Intake.handle_fst, drops]
    · intro _ counted
      rw [Report.counting_event, ← counted]
  | @advanced generation rest evicted processing waiting allowed =>
    rw [extend_processing transcript processing]
    refine mirrors.take processing waiting orderly rfl rfl ?_ (by simp [hasEnded, processing]) ?_
    · simp [inHand?, processing, Input.request, Intake.answer, returned?]
    · intro _ counted
      rw [Report.counting_advance, ← counted]
  | refused processing waiting refusal =>
    rw [extend_processing transcript processing]
    refine mirrors.take processing waiting orderly rfl rfl rfl rfl ?_
    intro unfailed
    cases unfailed
  | cleared processing waiting =>
    rw [extend_processing transcript processing]
    refine mirrors.take processing waiting orderly rfl rfl ?_ (by simp [hasEnded, processing]) ?_
    · simp [inHand?, processing, Input.request, Intake.answer, returned?]
    · intro _ counted
      rw [Report.counting_clear, ← counted]
  | finished processing idle ended =>
    obtain ⟨undrained, delivered, counted, before⟩ := mirrors.emptyHanded processing
    rw [extend_processing transcript processing, idle, List.take_nil, List.append_nil]
    refine ⟨orderly, mirrors.deduplicator, ?_, mirrors.accepted,
      fun _ => ⟨undrained, delivered, counted⟩, ?_⟩
    · simp only [finish, inHand?, delivered, Option.toList_none, List.append_nil]
      exact before
    · intro report phase
      cases phase
      rfl
  | @put event holding listening room =>
    obtain ⟨undrained, delivered, counted, before⟩ := mirrors.inHand holding
    rw [extend_holding transcript holding, reached]
    simp only [Output.push, List.drop_left, accepts, if_true]
    refine ⟨orderly, mirrors.deduplicator, ?_, mirrors.accepted, fun _ => ⟨undrained, delivered, ?_⟩,
      fun _ absurd => (by cases absurd)⟩
    · simp only [inHand?, delivered, Option.toList_none, List.append_nil]
      exact before
    · rw [List.length_append, List.length_singleton, Report.counting_put, ← counted]
  | @undelivered event holding deaf =>
    obtain ⟨undrained, delivered, counted, before⟩ := mirrors.inHand holding
    rw [extend_holding transcript holding, reached]
    simp only [fail, List.drop_length, List.append_nil, accepts]
    refine ⟨orderly, ?_, ?_, mirrors.accepted, fun absurd => (by cases absurd),
      fun _ absurd => (by cases absurd)⟩
    · simp only [Intake.deduplicator_log, Intake.deduplicator_exit]
      exact mirrors.deduplicator
    · simpa [inHand?] using before
  | @abandoned error count input rest draining waiting =>
    have phase := phase_abandon { stage with queue := rest } draining input
    have before := mirrors.output
    rw [inHand?, draining] at before
    have accepted := mirrors.accepted
    rw [waiting] at accepted
    rw [extend_draining transcript draining, waiting, List.take_succ_cons, List.take_zero]
    refine ⟨orderly, ?_, ?_, ?_, ?_, ?_⟩
    · rw [deduplicator_abandon]
      exact mirrors.deduplicator
    · rw [inHand?, phase]
      exact before
    · rw [queue_abandon, accepted]
      simp only [List.append_assoc, List.singleton_append]
    · rw [Stage.unfailed, phase]
      exact fun absurd => (by cases absurd)
    · rw [phase]
      exact fun _ absurd => (by cases absurd)
  | stopped draining idle returned =>
    have before := mirrors.output
    rw [inHand?, draining] at before
    rw [extend_draining transcript draining, idle, List.take_nil, List.append_nil]
    refine ⟨orderly, ?_, before, mirrors.accepted, fun absurd => (by cases absurd),
      fun _ absurd => (by cases absurd)⟩
    simp only [finishFailed]
    split
    · exact mirrors.deduplicator
    · exact mirrors.deduplicator

theorem extend_client (transcript : Transcript) {action : Action} (client : action ≠ .task) :
    transcript.extend stage action =
      { transcript with
        accepted := transcript.accepted ++ (stage.perform action).queue.drop stage.queue.length } := by
  cases action with
  | task => exact absurd rfl client
  | _ => rfl

theorem extend_stuck (transcript : Transcript) (same : stage.perform .task = stage)
    (stuck : stage.step? = none) : transcript.extend stage .task = transcript := by
  cases phase : stage.phase with
  | processing =>
    have idle := queue_eq_nil_of_stuck stuck (by rw [hasEnded, phase]) (by rw [inHand?, phase])
    rw [extend_processing transcript phase, idle, List.take_nil, List.append_nil]
  | holding event =>
    have working : stage.accepts = true := by rw [accepts, phase]
    rw [extend_holding transcript phase, same, List.drop_length, List.append_nil, if_pos working]
  | draining error count =>
    have idle := queue_eq_nil_of_stuck stuck (by rw [hasEnded, phase]) (by rw [inHand?, phase])
    rw [extend_draining transcript phase, idle, List.take_nil, List.append_nil]
  | finished result => simp only [Transcript.extend, phase]
  | crashed => simp only [Transcript.extend, phase]

theorem mirrors_perform (mirrors : stage.Mirrors transcript reference) (action : Action) :
    (stage.perform action).Mirrors (transcript.extend stage action) reference := by
  by_cases client : action = .task
  · subst client
    rcases stage.perform_task with ⟨same, stuck⟩ | step
    · rw [same]
      rw [extend_stuck transcript same stuck]
      exact mirrors
    · exact step.mirrors rfl mirrors
  · rw [extend_client transcript client]
    exact (stage.perform_client client).mirrors mirrors

theorem mirrors_observe (mirrors : stage.Mirrors {} reference) (actions : List Action) :
    (stage.observe actions).1.Mirrors (stage.observe actions).2 reference :=
  List.foldlRecOn (motive := fun (state : Stage × Transcript) => state.1.Mirrors state.2 reference)
    actions _ mirrors fun _ before action _ => mirrors_perform before action

/-- Whatever the clients do and whenever the task runs, the stage has forwarded what a deduplicator
    alone returns for the inputs taken, but for the event in hand or undelivered. -/
theorem refines_synchronous (accounting otherAccounting : Accounting)
    (metrics otherMetrics : Recorder) (node : NodeId) (inputCapacity outputCapacity : Nat)
    (actions : List Action) :
    let start := spawn (Intake.new accounting metrics) node inputCapacity outputCapacity none
    let reference := Intake.new otherAccounting otherMetrics
    let stage := (start.observe actions).1
    let seen := (start.observe actions).2
    seen.put ++ stage.inHand?.toList ++ seen.undelivered.toList = reference.returned seen.taken ∧
      seen.accepted = seen.taken ++ seen.drained ++ stage.queue ∧
      stage.intake.deduplicator = (reference.feed seen.taken).2.deduplicator ∧
      ∀ report, stage.result? = some (.ok report) →
        seen.taken = seen.accepted ∧ stage.inHand? = none ∧ seen.undelivered = none ∧
          report = .counting seen.accepted (reference.returned seen.accepted).length := by
  intro start reference stage seen
  have mirrors : stage.Mirrors seen reference :=
    mirrors_observe (mirrors_spawn accounting metrics node inputCapacity outputCapacity rfl) actions
  refine ⟨mirrors.output, mirrors.accepted, mirrors.deduplicator, ?_⟩
  intro report result
  have phase : stage.phase = .finished (.ok report) := phase_of_result? result
  have unfailed : stage.unfailed = true := by rw [Stage.unfailed, phase]
  have emptyHanded : stage.inHand? = none := by rw [inHand?, phase]
  obtain ⟨undrained, delivered, counted⟩ := mirrors.unfailed unfailed
  have reported := mirrors.finished report phase
  have ended : stage.hasEnded = true := by rw [hasEnded, phase]
  obtain ⟨idle, -⟩ := mirrors.orderly.ended ended
  have taken : seen.taken = seen.accepted := by
    rw [mirrors.accepted, undrained, idle, List.append_nil, List.append_nil]
  have output := mirrors.output
  rw [emptyHanded, delivered, Option.toList_none, List.append_nil, List.append_nil] at output
  refine ⟨taken, emptyHanded, delivered, ?_⟩
  rw [← reported, counted, ← taken, output]

theorem refines_synchronous_single_slots :
    let descriptor : Descriptor := ⟨⟨1⟩, Vector.replicate 32 0, 4⟩
    let first := GossipEvent.ofDescriptor descriptor [7] ⟨2⟩
    let second := GossipEvent.ofDescriptor descriptor [8] ⟨3⟩
    let start := spawn (Intake.new .off .silent) ⟨0⟩ 0 0 none
    let run := start.observe [.submit first, .task, .task, .sendRaw (.event first), .task,
      .submit second, .advance 4, .task, .advance 4, .task, .reserve, .receive, .task, .task,
      .reserve, .sendReserved .clear, .dropHandle, .task, .receive, .task]
    run.1.result? = some (.ok { received := 3, forwarded := 2, shifts := 1, clears := 1 }) ∧
      run.2.put = [first, second] ∧ run.2.taken = run.2.accepted := by
  intro descriptor first second start run
  have stopped :
      run.1.result? = some (.ok { received := 3, forwarded := 2, shifts := 1, clears := 1 }) := by
    decide +kernel
  obtain ⟨-, -, -, clean⟩ := refines_synchronous .off .off .silent .silent ⟨0⟩ 0 0
    [.submit first, .task, .task, .sendRaw (.event first), .task,
      .submit second, .advance 4, .task, .advance 4, .task, .reserve, .receive, .task, .task,
      .reserve, .sendReserved .clear, .dropHandle, .task, .receive, .task]
  exact ⟨stopped, by decide +kernel, (clean _ stopped).1⟩

end Stage

end GossipIntake
