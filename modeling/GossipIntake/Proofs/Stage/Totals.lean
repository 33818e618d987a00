import GossipIntake.Proofs.Deduplicator.History
import GossipIntake.Proofs.Deduplicator.Ledger
import GossipIntake.Proofs.Stage.FailStop

namespace GossipIntake

/-- The report after the inputs, with that many events forwarded. Of the advances those count that an
    intake alone does not refuse. -/
def Intake.reportOf (intake : Intake) (taken : List Input) (forwarded : Nat) : Report :=
  { Report.counting taken forwarded with
    shifts := .ofNat ((intake.feed taken).1.filterMap thresholdSet?).length }

def Report.count (report : Report) : Request × Response → Report
  | (.handle _, _) => { report with received := report.received + 1 }
  | (.advance _, .advanced (.ok _)) => { report with shifts := report.shifts + 1 }
  | (.clear, _) => { report with clears := report.clears + 1 }
  | _ => report

namespace Intake

variable {intake other : Intake}

theorem reportOf_concat (intake : Intake) (taken : List Input) (input : Input) (forwarded : Nat) :
    intake.reportOf (taken ++ [input]) forwarded =
      (intake.reportOf taken forwarded).count
        (input.request, ((intake.feed taken).2.answer input.request).1) := by
  rw [reportOf, intake.filterMap_feed_concat]
  cases input with
  | event event =>
    rw [Report.counting_event]
    simp [reportOf, Input.request, answer, thresholdSet?, Report.count]
  | clear =>
    rw [Report.counting_clear]
    simp [reportOf, Input.request, answer, thresholdSet?, Report.count]
  | advance generation =>
    rw [Report.counting_advance]
    simp only [reportOf, Input.request, answer]
    cases result : ((intake.feed taken).2.advance generation).1 with
    | error error => simp [thresholdSet?, Report.count]
    | ok evicted => simp [thresholdSet?, Report.count, UInt64.ofNat_add]

theorem reportOf_put (intake : Intake) (taken : List Input) (forwarded : Nat) :
    intake.reportOf taken (forwarded + 1) =
      { intake.reportOf taken forwarded with
        forwarded := (intake.reportOf taken forwarded).forwarded + 1 } := by
  rw [reportOf, Report.counting_put]
  rfl

theorem metrics_answer_congr (same : intake.deduplicator = other.deduplicator)
    (alike : intake.metrics = other.metrics) (request : Request) :
    (intake.answer request).2.metrics = (other.answer request).2.metrics := by
  cases request <;> simp [answer, handle_snd, same, alike]

/-- Every event is tallied once, and as no duplicate exactly if it is returned. -/
theorem tallies_feed (accounting : Accounting) (taken : List Input)
    (few : (taken.filterMap Input.event?).length < UInt64.size) :
    let intake := Intake.new accounting (.tallying {})
    ∃ tallies, (intake.feed taken).2.metrics = .tallying tallies ∧
      tallies.ancient.toNat + tallies.duplicate.toNat + tallies.nonDuplicate.toNat =
        (taken.filterMap Input.event?).length ∧
      tallies.nonDuplicate.toNat = (intake.returned taken).length ∧
      tallies.disparateSignature.toNat ≤ tallies.nonDuplicate.toNat := by
  intro intake
  induction taken using List.reverseRecOn with
  | nil => exact ⟨{}, rfl, rfl, rfl, Nat.le_refl _⟩
  | append_singleton taken input ih =>
    rw [List.filterMap_append, List.length_append] at few
    obtain ⟨tallies, metrics, total, letIn, fewer⟩ := ih (by omega)
    rw [intake.feed_concat, intake.returned_concat, List.filterMap_append, List.length_append,
      List.length_append]
    cases input with
    | event event =>
      let outcome := ((intake.feed taken).2.deduplicator.classify event).1
      obtain ⟨counted, passed, known⟩ := Tallies.toNat_record (total ▸ few) fewer outcome
      refine ⟨tallies.record outcome, ?_, ?_, ?_, ?_⟩
      · simp [Input.request, answer, handle_snd, metrics, Recorder.record, outcome]
      · rw [counted, total]
        rfl
      · rw [passed, letIn]
        simp only [Input.request, answer, returned?, handle_fst, outcome]
        split <;> rfl
      · omega
    | advance generation =>
      exact ⟨tallies, by simpa [Input.request, answer] using metrics, total, letIn, fewer⟩
    | clear => exact ⟨tallies, by simpa [Input.request, answer] using metrics, total, letIn, fewer⟩

end Intake

def Transcript.abandoned (transcript : Transcript) : List GossipEvent :=
  transcript.drained.filterMap Input.event?

namespace Stage

variable {stage next : Stage} {seen : Transcript} {intake : Intake}

structure Reconciled (stage : Stage) (seen : Transcript) (intake : Intake) : Prop where
  mirrors : stage.Mirrors seen intake
  metrics : stage.intake.metrics = (intake.feed seen.taken).2.metrics
  report : stage.report = intake.reportOf seen.taken seen.put.length
  lost : seen.undelivered.isSome = true ↔ stage.failure? = some .downstreamClosed
  draining : ∀ error count, stage.phase = .draining error count → count = .ofNat seen.abandoned.length
  logged : ∀ error, stage.phase = .finished (.error error) →
    0 < UInt64.ofNat seen.abandoned.length →
      .eventsAbandoned stage.node (UInt64.ofNat seen.abandoned.length).toNat ∈ stage.intake.journal

theorem reconciled_start (intake : Intake) (node : NodeId) (inputCapacity outputCapacity : Nat) :
    (spawn intake node inputCapacity outputCapacity none).Reconciled {} intake where
  mirrors := mirrors_start node inputCapacity outputCapacity rfl
  metrics := rfl
  report := rfl
  lost := by constructor <;> intro absurd <;> cases absurd
  draining _ _ absurd := by cases absurd
  logged _ absurd := by cases absurd

theorem ClientMove.journal (move : stage.ClientMove next) :
    next.node = stage.node ∧ stage.intake.journal <:+ next.intake.journal := by
  have left (peer : NodeId) : stage.intake.journal <:+ (stage.intake.exit peer).journal := by
    rw [Intake.journal_exit]
    exact List.suffix_append _ _
  cases move with
  | left peer => exact ⟨rfl, left peer⟩
  | released input =>
    cases input with
    | event event => exact ⟨rfl, left event.sender⟩
    | advance | clear => exact ⟨rfl, List.suffix_rfl⟩
  | _ => exact ⟨rfl, List.suffix_rfl⟩

theorem Reconciled.client (reconciled : stage.Reconciled seen intake) {action : Action}
    (client : action ≠ .task) :
    (stage.perform action).Reconciled (seen.extend stage action) intake := by
  have mirrors := mirrors_perform reconciled.mirrors action
  have move := stage.perform_move client
  have step := move.clientStep
  obtain ⟨node, journal⟩ := move.journal
  rw [extend_client seen client] at mirrors ⊢
  refine ⟨mirrors, move.leaves.metrics.trans reconciled.metrics,
    step.report.trans reconciled.report, ?_, ?_, ?_⟩
  · rw [step.failure?]
    exact reconciled.lost
  · rw [step.phase]
    exact reconciled.draining
  · rw [step.phase, node]
    exact fun error finished some => journal.subset (reconciled.logged error finished some)

theorem Reconciled.take {input : Input} {rest : List Input} (reconciled : stage.Reconciled seen intake)
    (processing : stage.phase = .processing) (waiting : stage.queue = input :: rest)
    (mirrors : next.Mirrors (seen.extend stage .task) intake)
    (metrics : next.intake.metrics = (stage.intake.answer input.request).2.metrics)
    (report : next.report =
      stage.report.count (input.request, (stage.intake.answer input.request).1))
    (running : next.hasEnded = false) (output : next.failure? ≠ some .downstreamClosed)
    (fresh : ∀ error count, next.phase = .draining error count → count = 0) :
    next.Reconciled (seen.extend stage .task) intake := by
  obtain ⟨undrained, delivered, -, -⟩ := reconciled.mirrors.emptyHanded processing
  have alone := reconciled.mirrors.deduplicator
  have taken : stage.queue.take 1 = [input] := by rw [waiting, List.take_succ_cons, List.take_zero]
  rw [extend_processing seen processing, taken] at mirrors ⊢
  refine ⟨mirrors, ?_, ?_, ?_, ?_, ?_⟩
  · rw [metrics, Intake.feed_concat]
    exact Intake.metrics_answer_congr alone reconciled.metrics input.request
  · rw [report, Intake.reportOf_concat, (Intake.answer_congr alone input.request).1,
      reconciled.report]
  · simp [delivered, output]
  · intro error count draining
    rw [fresh error count draining, Transcript.abandoned, undrained]
    rfl
  · intro error finished
    rw [hasEnded, finished] at running
    cases running

theorem TaskStep.reconciled (step : stage.TaskStep next) (reached : stage.perform .task = next)
    (reconciled : stage.Reconciled seen intake) :
    next.Reconciled (seen.extend stage .task) intake := by
  have mirrors := step.mirrors reached reconciled.mirrors
  cases step with
  | crashed processing waiting crash =>
    rw [reconciled.mirrors.orderly.calm] at crash
    cases crash
  | accepted processing waiting forwards =>
    refine reconciled.take processing waiting mirrors rfl rfl rfl ?_ ?_
    · exact fun absurd => by cases absurd
    · exact fun _ _ absurd => by cases absurd
  | dropped processing waiting drops =>
    refine reconciled.take processing waiting mirrors rfl rfl ?_ ?_ ?_
    · simp [hasEnded, processing]
    · simp [failure?, processing]
    · simp [processing]
  | advanced processing waiting allowed =>
    refine reconciled.take processing waiting mirrors rfl ?_ ?_ ?_ ?_
    · simp [Input.request, Intake.answer, allowed, Report.count]
    · simp [hasEnded, processing]
    · simp [failure?, processing]
    · simp [processing]
  | refused processing waiting refusal =>
    refine reconciled.take processing waiting mirrors rfl ?_ rfl ?_ ?_
    · simp [fail, Input.request, Intake.answer, refusal, Report.count]
    · rw [Deduplicator.advance_error refusal]
      exact fun absurd => by cases absurd
    · intro _ _ draining
      cases draining
      rfl
  | cleared processing waiting =>
    refine reconciled.take processing waiting mirrors rfl rfl ?_ ?_ ?_
    · simp [hasEnded, processing]
    · simp [failure?, processing]
    · simp [processing]
  | finished processing idle ended =>
    have lost := reconciled.lost
    rw [failure?, processing] at lost
    rw [extend_processing seen processing, idle, List.take_nil, List.append_nil] at mirrors ⊢
    exact ⟨mirrors, reconciled.metrics, reconciled.report, lost, fun _ _ absurd => (by cases absurd),
      fun _ absurd => (by cases absurd)⟩
  | put holding listening room =>
    obtain ⟨-, delivered, -, -⟩ := reconciled.mirrors.inHand holding
    rw [extend_holding seen holding, reached] at mirrors ⊢
    refine ⟨mirrors, reconciled.metrics, ?_, ?_, fun _ _ absurd => (by cases absurd),
      fun _ absurd => (by cases absurd)⟩
    · simp only [Output.push, List.drop_left, List.length_append, List.length_singleton]
      rw [Intake.reportOf_put, ← reconciled.report]
    · simp [accepts, delivered, failure?]
  | undelivered holding deaf =>
    obtain ⟨undrained, -, -, -⟩ := reconciled.mirrors.inHand holding
    rw [extend_holding seen holding, reached] at mirrors ⊢
    refine ⟨mirrors, ?_, ?_, ?_, ?_, fun _ absurd => (by cases absurd)⟩
    · simpa [fail] using reconciled.metrics
    · simpa [fail] using reconciled.report
    · simp [fail, accepts, failure?]
    · intro _ _ draining
      cases draining
      rw [Transcript.abandoned, undrained]
      rfl
  | @abandoned error count input rest draining waiting =>
    have counted := reconciled.draining error count draining
    have lost := reconciled.lost
    rw [failure?, draining] at lost
    rw [extend_draining seen draining, waiting, List.take_succ_cons, List.take_zero] at mirrors ⊢
    have phase := phase_abandon { stage with queue := rest } draining input
    refine ⟨mirrors, ?_, ?_, ?_, ?_, ?_⟩
    · rw [metrics_abandon]
      exact reconciled.metrics
    · rw [report_abandon]
      exact reconciled.report
    · rw [failure?, phase]
      exact lost
    · intro other more draining
      rw [phase] at draining
      cases draining
      rw [counted, ← UInt64.ofNat_add, Transcript.abandoned, Transcript.abandoned,
        List.filterMap_append, List.length_append]
      cases input <;> rfl
    · rw [phase]
      exact fun _ absurd => by cases absurd
  | @stopped error count draining idle returned =>
    have counted := reconciled.draining error count draining
    have lost := reconciled.lost
    rw [failure?, draining] at lost
    rw [extend_draining seen draining, idle, List.take_nil, List.append_nil] at mirrors ⊢
    refine ⟨mirrors, ?_, reconciled.report, lost, fun _ _ absurd => (by cases absurd), ?_⟩
    · rw [← reconciled.metrics, finishFailed]
      split <;> rfl
    · intro _ _ some
      rw [← counted] at some ⊢
      simp only [finishFailed, if_pos some]
      exact List.mem_cons_self

theorem reconciled_perform (reconciled : stage.Reconciled seen intake) (action : Action) :
    (stage.perform action).Reconciled (seen.extend stage action) intake := by
  by_cases client : action = .task
  · subst client
    rcases stage.perform_task with ⟨same, stuck⟩ | step
    · rw [same, extend_stuck seen same stuck]
      exact reconciled
    · exact step.reconciled rfl reconciled
  · exact reconciled.client client

theorem reconciled_observe (reconciled : stage.Reconciled {} intake) (actions : List Action) :
    (stage.observe actions).1.Reconciled (stage.observe actions).2 intake :=
  List.foldlRecOn (motive := fun (state : Stage × Transcript) => state.1.Reconciled state.2 intake)
    actions _ reconciled fun _ before action _ => reconciled_perform before action

theorem Reconciled.length_returned (reconciled : stage.Reconciled seen intake) :
    (intake.returned seen.taken).length =
      seen.put.length + stage.inHand?.toList.length +
        if stage.failure? = some .downstreamClosed then 1 else 0 := by
  have lost := reconciled.lost
  rw [← reconciled.mirrors.output, List.length_append, List.length_append]
  cases undelivered : seen.undelivered with
  | none =>
    rw [undelivered] at lost
    rw [if_neg fun closed => by cases lost.mpr closed]
    rfl
  | some event =>
    rw [undelivered] at lost
    rw [if_pos (lost.mp rfl)]
    rfl

/-- The report and the tallies, which are counted apart, tell the same. -/
structure Agree (stage : Stage) (seen : Transcript) (intake : Intake) (tallies : Tallies) : Prop where
  metrics : stage.intake.metrics = .tallying tallies
  received : stage.report.received.toNat =
    tallies.duplicate.toNat + tallies.nonDuplicate.toNat + tallies.ancient.toNat
  nonDuplicate : tallies.nonDuplicate.toNat =
    stage.report.forwarded.toNat + stage.inHand?.toList.length +
      if stage.failure? = some .downstreamClosed then 1 else 0
  shifts : stage.report.shifts =
    .ofNat ((intake.feed seen.taken).1.filterMap thresholdSet?).length
  clears : stage.report.clears = .ofNat (seen.taken.count .clear)
  returned : ∀ report, stage.result? = some (.ok report) → report = stage.report

/-- Each event that was let in was received, was released after a failure, or waits. -/
structure CountedOnce (stage : Stage) (seen : Transcript) (intake : Intake) : Prop where
  shares : seen.accepted.filterMap Input.event? =
    seen.taken.filterMap Input.event? ++ seen.abandoned ++ stage.queue.filterMap Input.event?
  received : stage.report.received.toNat = (seen.taken.filterMap Input.event?).length
  metrics : stage.intake.metrics = (intake.feed seen.taken).2.metrics
  draining : ∀ error count, stage.phase = .draining error count → count.toNat = seen.abandoned.length
  logged : ∀ error, stage.phase = .finished (.error error) → seen.abandoned ≠ [] →
    .eventsAbandoned stage.node seen.abandoned.length ∈ stage.intake.journal

theorem Reconciled.countedOnce (reconciled : stage.Reconciled seen intake)
    (few : (seen.accepted.filterMap Input.event?).length < UInt64.size) :
    stage.CountedOnce seen intake := by
  have shares : seen.accepted.filterMap Input.event? =
      seen.taken.filterMap Input.event? ++ seen.abandoned ++ stage.queue.filterMap Input.event? := by
    rw [reconciled.mirrors.accepted, List.filterMap_append, List.filterMap_append,
      Transcript.abandoned]
  rw [shares, List.length_append, List.length_append] at few
  have released : (UInt64.ofNat seen.abandoned.length).toNat = seen.abandoned.length :=
    UInt64.toNat_ofNat_of_lt' (by omega)
  refine ⟨shares, ?_, reconciled.metrics, ?_, ?_⟩
  · rw [reconciled.report]
    exact UInt64.toNat_ofNat_of_lt' (by omega)
  · intro error count draining
    rw [reconciled.draining error count draining, released]
  · intro error finished several
    have logged := reconciled.logged error finished
    rw [UInt64.lt_iff_toNat_lt, released] at logged
    exact logged (List.length_pos_iff.mpr several)

/-- At every moment report and metrics agree, but for the event that is in hand or was lost on its way
    out, and every event that was let in is counted once. -/
theorem totals_agree (accounting : Accounting) (node : NodeId) (inputCapacity outputCapacity : Nat)
    (actions : List Action) :
    let intake := Intake.new accounting (.tallying {})
    let run := (spawn intake node inputCapacity outputCapacity none).observe actions
    let stage := run.1
    let seen := run.2
    (seen.accepted.filterMap Input.event?).length < UInt64.size →
    (∃ tallies, stage.Agree seen intake tallies) ∧ stage.CountedOnce seen intake := by
  intro intake run stage seen few
  have reconciled : stage.Reconciled seen intake :=
    reconciled_observe (reconciled_start intake node inputCapacity outputCapacity) actions
  have once := reconciled.countedOnce few
  rw [once.shares, List.length_append, List.length_append] at few
  have fewTaken : (seen.taken.filterMap Input.event?).length < UInt64.size := by omega
  obtain ⟨tallies, metrics, total, letIn, -⟩ := Intake.tallies_feed accounting seen.taken fewTaken
  change tallies.nonDuplicate.toNat = (intake.returned seen.taken).length at letIn
  have returned := reconciled.length_returned
  -- What is forwarded is returned, what is returned is tallied, and so it fits in a word.
  have forwarded : stage.report.forwarded.toNat = seen.put.length := by
    rw [reconciled.report]
    exact UInt64.toNat_ofNat_of_lt' (by omega)
  refine ⟨⟨tallies, reconciled.metrics.trans metrics, ?_, ?_, ?_, ?_, ?_⟩, once⟩
  · rw [once.received, ← total]
    omega
  · rw [letIn, returned, forwarded]
  · rw [reconciled.report]
    rfl
  · rw [reconciled.report]
    rfl
  · intro report result
    exact (reconciled.mirrors.finished report (phase_of_result? result)).symm

theorem totals_agree_dropped_output :
    let first := GossipEvent.ofDescriptor ⟨⟨1⟩, Vector.replicate 32 0, 4⟩ [7] ⟨2⟩
    let second := GossipEvent.ofDescriptor ⟨⟨1⟩, Vector.replicate 32 0, 6⟩ [8] ⟨3⟩
    let third := second.withSignature [9]
    let start := spawn (Intake.new .off (.tallying {})) ⟨0⟩ 6 1 none
    let actions : List Action :=
      [.submit first, .submit first, .advance 5, .submit first, .submit second, .submit third,
        .task, .task, .task, .task, .task, .task, .task, .dropOutput, .task, .task, .task]
    let stage := (start.observe actions).1
    let seen := (start.observe actions).2
    (seen.accepted.filterMap Input.event?).length < UInt64.size ∧
      stage.phase = .finished (.error .downstreamClosed) ∧ seen.abandoned = [third] ∧
      .eventsAbandoned ⟨0⟩ 1 ∈ stage.intake.journal ∧
      stage.report = { received := 4, forwarded := 1, shifts := 1, clears := 0 } ∧
      ∃ tallies, stage.intake.metrics = .tallying tallies ∧
        4 = tallies.duplicate.toNat + tallies.nonDuplicate.toNat + tallies.ancient.toNat ∧
        tallies.nonDuplicate.toNat = 1 + 0 + 1 := by
  intro first second third start actions stage seen
  have few : (seen.accepted.filterMap Input.event?).length < UInt64.size := by decide +kernel
  have finished : stage.phase = .finished (.error .downstreamClosed) := by decide +kernel
  have abandoned : seen.abandoned = [third] := by decide +kernel
  have report : stage.report = { received := 4, forwarded := 1, shifts := 1, clears := 0 } := by
    decide +kernel
  have node : stage.node = ⟨0⟩ := by decide +kernel
  have emptyHanded : stage.inHand? = none := by decide +kernel
  have lost : stage.failure? = some .downstreamClosed := by decide +kernel
  obtain ⟨⟨tallies, agreed⟩, counted⟩ := totals_agree .off ⟨0⟩ 6 1 actions few
  have agree : stage.Agree seen (Intake.new .off (.tallying {})) tallies := agreed
  have once : stage.CountedOnce seen (Intake.new .off (.tallying {})) := counted
  have notice := once.logged .downstreamClosed finished (by
    rw [abandoned]
    exact List.cons_ne_nil _ _)
  have received := agree.received
  have nonDuplicate := agree.nonDuplicate
  rw [node, abandoned] at notice
  rw [report] at received
  rw [report, emptyHanded, lost] at nonDuplicate
  exact ⟨few, finished, abandoned, notice, report, tallies, agree.metrics, received, nonDuplicate⟩

end Stage

end GossipIntake
