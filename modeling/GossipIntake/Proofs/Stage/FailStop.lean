import GossipIntake.Proofs.Stage.Bare

namespace GossipIntake.Stage

variable {stage next now : Stage} {seen known transcript : Transcript} {error : IntakeError}

theorem step?_of_failure? (failed : stage.failure? = some error) (done : stage.step? = some next) :
    (∃ input rest count, stage.queue = input :: rest ∧
        next = { stage with
          queue := rest
          intake := (stage.release input).intake
          phase := .draining error count }) ∨
      (stage.queue = [] ∧ stage.reserved = 0 ∧ ∃ count, next = stage.finishFailed error count) := by
  rcases failure?_cases failed with ⟨count, draining⟩ | finished
  · cases waiting : stage.queue with
    | nil =>
      rw [step?_drained draining waiting] at done
      obtain ⟨returned, ⟨⟩⟩ := Option.ite_none_right_eq_some.mp done
      exact .inr ⟨rfl, returned, count, rfl⟩
    | cons input rest =>
      rw [step?_draining draining waiting] at done
      cases done
      cases input with
      | event event => exact .inl ⟨_, rest, count + 1, rfl, rfl⟩
      | advance | clear => exact .inl ⟨_, rest, count, rfl, by simp [abandon, release, ← draining]⟩
  · simp only [step?, finished] at done
    cases done

theorem exists_step?_of_failure? (failed : stage.failure? = some error)
    (running : stage.hasEnded = false) (work : stage.queue = [] → stage.reserved = 0) :
    ∃ next, stage.step? = some next := by
  rcases failure?_cases failed with ⟨count, draining⟩ | finished
  · cases waiting : stage.queue with
    | nil => exact ⟨_, (step?_drained draining waiting).trans (if_pos (work waiting))⟩
    | cons input rest => exact ⟨_, step?_draining draining waiting⟩
  · rw [hasEnded, finished] at running
    cases running

structure Leaves (stage next : Stage) : Prop where
  metrics : next.intake.metrics = stage.intake.metrics
  output : next.output.queue <:+ stage.output.queue

theorem Leaves.same (metrics : next.intake.metrics = stage.intake.metrics)
    (output : next.output = stage.output) : stage.Leaves next :=
  ⟨metrics, output ▸ List.suffix_rfl⟩

theorem leaves_release (stage : Stage) (input : Input) : stage.Leaves (stage.release input) := by
  cases input with
  | event event => exact .same (Intake.metrics_exit _ _) rfl
  | advance | clear => exact .same rfl rfl

theorem ClientMove.leaves (move : stage.ClientMove next) : stage.Leaves next := by
  cases move with
  | unchanged | entered | queued | returned | reserved | sent | permitLost | senderHeld
  | senderDropped | handleDropped => exact .same rfl rfl
  | left => exact .same (Intake.metrics_exit _ _) rfl
  | released input =>
    obtain ⟨metrics, output⟩ :=
      leaves_release { stage with rejected := stage.rejected.erase input } input
    exact ⟨metrics, output⟩
  | @received event rest waiting => exact ⟨rfl, waiting ▸ List.suffix_cons event rest⟩
  | outputClosed => exact ⟨rfl, List.suffix_rfl⟩
  | outputDropped => exact ⟨rfl, List.nil_suffix⟩

/-- What a failed stage keeps, whatever happens later, and what is seen of it. -/
structure Frozen (stage : Stage) (seen : Transcript) (error : IntakeError) (now : Stage)
    (known : Transcript) : Prop where
  failure : now.failure? = some error
  deduplicator : now.intake.deduplicator = stage.intake.deduplicator
  metrics : now.intake.metrics = stage.intake.metrics
  report : now.report = stage.report
  output : now.output.queue <:+ stage.output.queue
  put : known.put = seen.put
  taken : known.taken = seen.taken
  undelivered : known.undelivered = seen.undelivered

theorem Frozen.client (frozen : Frozen stage seen error now known) {action : Action}
    (client : action ≠ .task) :
    Frozen stage seen error (now.perform action) (known.extend now action) := by
  have kept := now.perform_client client
  have leaves := (now.perform_move client).leaves
  rw [extend_client known client]
  exact
    { failure := kept.failure?.trans frozen.failure
      deduplicator := kept.deduplicator.trans frozen.deduplicator
      metrics := leaves.metrics.trans frozen.metrics
      report := kept.report.trans frozen.report
      output := leaves.output.trans frozen.output
      put := frozen.put
      taken := frozen.taken
      undelivered := frozen.undelivered }

theorem extend_failed (transcript : Transcript) (failed : stage.failure? = some error) :
    ∃ drained, transcript.extend stage .task = { transcript with drained } := by
  rcases failure?_cases failed with ⟨count, draining⟩ | finished
  · exact ⟨_, extend_draining transcript draining⟩
  · exact ⟨transcript.drained, by simp only [Transcript.extend, finished]⟩

theorem Frozen.task (frozen : Frozen stage seen error now known) :
    Frozen stage seen error (now.perform .task) (known.extend now .task) := by
  obtain ⟨drained, extended⟩ := extend_failed known frozen.failure
  rw [extended]
  unfold perform after?
  cases done : now.step? with
  | none => exact { frozen with }
  | some next =>
    rcases step?_of_failure? frozen.failure done with
      ⟨input, rest, count, -, rfl⟩ | ⟨-, -, count, rfl⟩
    · have released := leaves_release now input
      have deduplicator := (clientStep_release now input).deduplicator
      exact
        { frozen with
          failure := rfl
          deduplicator := deduplicator.trans frozen.deduplicator
          metrics := released.metrics.trans frozen.metrics }
    · have logged : (now.finishFailed error count).intake.deduplicator = now.intake.deduplicator ∧
          (now.finishFailed error count).intake.metrics = now.intake.metrics := by
        simp only [finishFailed]
        split <;> exact ⟨rfl, rfl⟩
      exact
        { frozen with
          failure := rfl
          deduplicator := logged.1.trans frozen.deduplicator
          metrics := logged.2.trans frozen.metrics }

theorem Frozen.perform (frozen : Frozen stage seen error now known) (action : Action) :
    Frozen stage seen error (now.perform action) (known.extend now action) := by
  by_cases client : action = .task
  · subst client
    exact frozen.task
  · exact frozen.client client

theorem frozen_observe {start : Stage} {actions : List Action}
    (failed : (start.observe actions).1.failure? = some error) (later : List Action) :
    Frozen (start.observe actions).1 (start.observe actions).2 error
      (start.observe (actions ++ later)).1 (start.observe (actions ++ later)).2 := by
  induction later using List.reverseRecOn with
  | nil =>
    rw [List.append_nil]
    exact ⟨failed, rfl, rfl, rfl, List.suffix_rfl, rfl, rfl, rfl⟩
  | append_singleton later action ih =>
    rw [← List.append_assoc, observe_concat]
    exact ih.perform action

def releasedBy (accounting : Accounting) (events : List GossipEvent) : Accounting :=
  events.foldl (fun left event => (left.exit event.sender).2) accounting

theorem accounting_release (stage : Stage) (input : Input) :
    (stage.release input).intake.accounting =
      releasedBy stage.intake.accounting input.event?.toList := by
  cases input with
  | event event => exact Intake.accounting_exit _ _
  | advance | clear => rfl

theorem settle_of_failure? (failed : stage.failure? = some error) (returned : stage.reserved = 0)
    (orderly : stage.Orderly) :
    stage.settle.bare = { stage with queue := [], phase := .finished (.error error) }.bare ∧
      stage.settle.intake.accounting =
        releasedBy stage.intake.accounting (stage.queue.filterMap Input.event?) := by
  induction stage using settle.induct with
  | case1 stage stuck =>
    rw [settle_of_step?_eq_none stuck]
    cases running : stage.hasEnded with
    | true =>
      obtain ⟨idle, -⟩ := orderly.ended running
      rcases failure?_cases failed with ⟨count, draining⟩ | finished
      · rw [hasEnded, draining] at running
        cases running
      · refine ⟨by rw [← idle, ← finished], by rw [idle]; rfl⟩
    | false =>
      obtain ⟨next, done⟩ := exists_step?_of_failure? failed running fun _ => returned
      rw [stuck] at done
      cases done
  | case2 stage next done ih =>
    have kept := (taskStep_of_step? done).orderly orderly
    rw [settle_of_step?_eq_some done]
    rcases step?_of_failure? failed done with
      ⟨input, rest, count, waiting, rfl⟩ | ⟨idle, -, count, rfl⟩
    · obtain ⟨same, accounting⟩ := ih rfl returned kept
      have released : (stage.release input).intake.bare = stage.intake.bare :=
        congrArg Stage.intake (bare_release stage input)
      constructor
      · rw [same]
        simp only [bare, released]
      · refine accounting.trans ?_
        simp only [accounting_release, waiting]
        cases released : input.event? <;> simp [released, releasedBy]
    · obtain ⟨same, accounting⟩ := ih rfl returned kept
      constructor
      · rw [same]
        simp only [finishFailed, bare]
        split <;> rfl
      · refine accounting.trans ?_
        simp only [finishFailed, idle]
        split <;> rfl

theorem phase_settle_of_failure? (failed : stage.failure? = some error)
    (returned : stage.reserved = 0) (orderly : stage.Orderly) :
    stage.settle.phase = .finished (.error error) := by
  obtain ⟨same, -⟩ := settle_of_failure? failed returned orderly
  have phase : stage.settle.phase.bare = .finished (.error error) := congrArg Stage.phase same
  cases reached : stage.settle.phase with
  | finished result =>
    rw [reached] at phase
    exact phase
  | processing | holding | draining | crashed =>
    rw [reached] at phase
    cases phase

theorem phase_drain_of_finished {result : Except IntakeError Report}
    (finished : stage.phase = .finished result) : stage.drain.2.phase = .finished result := by
  have taken : stage.receiveAll.2.phase = stage.phase ∧
      stage.receiveAll.2.queue = stage.queue := by
    unfold receiveAll
    split <;> exact ⟨rfl, rfl⟩
  have stuck : stage.receiveAll.2.step? = none := by simp [step?, taken.1, finished]
  have work : ¬ stage.receiveAll.2.pendingWork < stage.pendingWork := by
    simp [pendingWork, taken.1, taken.2]
  rw [drain]
  simp only [settle_of_step?_eq_none stuck, if_neg work]
  exact taken.1.trans finished

theorem result?_shutdown (failed : stage.failure? = some error) (orderly : stage.Orderly) :
    stage.shutdown.2.result? = some (.error error) := by
  have left : Orderly { stage with hasHandle := false, senders := 0, reserved := 0 } :=
    ⟨orderly.calm, fun ended => ⟨(orderly.ended ended).1, rfl⟩⟩
  have stillFailed : failure? { stage with hasHandle := false, senders := 0, reserved := 0 } =
      some error := failed
  have settled := phase_settle_of_failure? stillFailed rfl left
  rw [shutdown, result?, phase_drain_of_finished settled]

/-- What a failed stage answers, and what its task still does. -/
structure FailStop (stage : Stage) (error : IntakeError) : Prop where
  submit : ∀ event, (stage.submit event).1.error? = some .stageStopped ∧
    (stage.submit event).2 = stage.exit event.sender
  advance : ∀ generation, (stage.submitAdvance generation).1.error? = some .stageStopped ∧
    (stage.submitAdvance generation).2 = stage
  clear : stage.submitClear.1.error? = some .stageStopped ∧ stage.submitClear.2 = stage
  sendRaw : ∀ input,
    stage.sendRaw input = (.refused, { stage with rejected := stage.rejected ++ [input] })
  reserve : stage.reserve = (.refused, stage)
  sendReserved : ∀ input reserved, stage.reserved = reserved + 1 →
    stage.sendReserved? input = some { stage with reserved, queue := stage.queue ++ [input] }
  release : ∀ input rest, stage.queue = input :: rest → ∃ count, stage.step? = some
    { stage with
      queue := rest
      intake := (stage.release input).intake
      phase := .draining error count }
  settled : stage.reserved = 0 → stage.settle.result? = some (.error error) ∧
    stage.settle.intake.accounting =
      releasedBy stage.intake.accounting (stage.queue.filterMap Input.event?)
  result : ∀ result, stage.result? = some result → result = .error error
  shutdown : stage.shutdown.2.result? = some (.error error)

theorem failStop_of_failure? (failed : stage.failure? = some error) (orderly : stage.Orderly) :
    stage.FailStop error := by
  have closed := accepts_of_failure? failed
  have offered := offer_of_refusing closed
  have working : 0 < stage.queue.length + stage.reserved → ∃ count,
      stage.phase = .draining error count := by
    intro some
    rcases failure?_cases failed with draining | finished
    · exact draining
    · obtain ⟨idle, returned⟩ := orderly.ended (by rw [hasEnded, finished])
      rw [idle, returned] at some
      cases some
  constructor
  case submit =>
    intro event
    rw [submit, offered]
    exact ⟨rfl, rfl⟩
  case advance =>
    intro generation
    rw [submitAdvance, offered]
    exact ⟨rfl, rfl⟩
  case clear =>
    rw [submitClear, offered]
    exact ⟨rfl, rfl⟩
  case sendRaw =>
    intro input
    rw [sendRaw, offered]
  case reserve =>
    rw [reserve, closed]
    rfl
  case sendReserved =>
    intro input reserved several
    obtain ⟨count, draining⟩ := working (by omega)
    simp [sendReserved?, several, hasEnded, draining]
  case release =>
    intro input rest waiting
    obtain ⟨count, draining⟩ := working (by rw [waiting, List.length_cons]; omega)
    obtain ⟨next, done⟩ : ∃ next, stage.step? = some next := by
      apply exists_step?_of_failure? failed
      · rw [hasEnded, draining]
      · rw [waiting]
        exact fun absurd => by cases absurd
    rcases step?_of_failure? failed done with ⟨other, tail, count, same, rfl⟩ | ⟨idle, -⟩
    · rw [waiting] at same
      cases same
      exact ⟨count, done⟩
    · rw [waiting] at idle
      cases idle
  case settled =>
    intro returned
    obtain ⟨-, accounting⟩ := settle_of_failure? failed returned orderly
    have phase := phase_settle_of_failure? failed returned orderly
    exact ⟨by rw [result?, phase], accounting⟩
  case result =>
    intro result found
    rcases failure?_cases failed with ⟨count, draining⟩ | finished
    · rw [result?, draining] at found
      cases found
    · rw [result?, finished] at found
      exact (Option.some.inj found).symm
  case shutdown => exact result?_shutdown failed orderly

/-- The stage stops on the first input that fails, and nothing that comes later undoes or outruns the
    failure. -/
theorem fail_stop (intake : Intake) (otherAccounting : Accounting) (otherMetrics : Recorder)
    (node : NodeId) (inputCapacity outputCapacity : Nat) (actions : List Action)
    (error : IntakeError)
    (failed : ((spawn intake node inputCapacity outputCapacity none).observe actions).1.failure? =
      some error) :
    let start := spawn intake node inputCapacity outputCapacity none
    let reference : Intake := { intake with accounting := otherAccounting, metrics := otherMetrics }
    let stage := (start.observe actions).1
    let seen := (start.observe actions).2
    (∃ done failing, FirstFailure seen reference error done failing ∧
      seen.accepted = done ++ failing :: (seen.drained ++ stage.queue)) ∧
    ∀ later : List Action,
      let now := (start.observe (actions ++ later)).1
      let known := (start.observe (actions ++ later)).2
      Frozen stage seen error now known ∧ now.FailStop error ∧
        known.accepted = known.taken ++ known.drained ++ now.queue ∧
        (now.hasEnded = true → now.queue = [] ∧ now.reserved = 0) := by
  intro start reference stage seen
  have initially : start.Explained {} reference :=
    explained_start node inputCapacity outputCapacity rfl
  have explained (more : List Action) :
      (start.observe more).1.Explained (start.observe more).2 reference :=
    explained_observe initially more
  constructor
  · obtain ⟨done, failing, first⟩ := (explained actions).failed error failed
    refine ⟨done, failing, first, ?_⟩
    have accepted : seen.accepted = seen.taken ++ seen.drained ++ stage.queue :=
      (explained actions).mirrors.accepted
    rw [accepted, show seen.taken = done ++ [failing] from first.taken]
    simp only [List.append_assoc, List.cons_append, List.nil_append]
  · intro later now known
    have mirrors : now.Mirrors known reference := (explained (actions ++ later)).mirrors
    have frozen : Frozen stage seen error now known := frozen_observe failed later
    exact ⟨frozen, failStop_of_failure? frozen.failure mirrors.orderly, mirrors.accepted,
      mirrors.orderly.ended⟩

theorem fail_stop_backward_advance :
    let first := GossipEvent.ofDescriptor ⟨⟨1⟩, Vector.replicate 32 0, 4⟩ [7] ⟨2⟩
    let second := GossipEvent.ofDescriptor ⟨⟨1⟩, Vector.replicate 32 0, 6⟩ [8] ⟨3⟩
    let intake := Intake.new (.perPeer (.ofPeers [⟨3⟩])) (.tallying {})
    let start := spawn intake ⟨0⟩ 4 1 none
    let actions : List Action :=
      [.countIn first, .submit first, .advance 5, .reserve, .task, .task, .task, .advance 3, .clear,
        .countIn second, .submit second, .task]
    let later : List Action :=
      [.task, .task, .task, .countIn second, .sendReserved (.event second), .task, .countIn second,
        .submit second, .receive, .task]
    let stage := (start.observe actions).1
    let now := (start.observe (actions ++ later)).1
    stage.failure? = some (.floorRegression 5 3) ∧ stage.queue = [.clear, .event second] ∧
      now.hasEnded = true ∧ now.result? = some (.error (.floorRegression 5 3)) ∧
      now.intake.accounting.inFlight? ⟨3⟩ = some 0 ∧
      now.intake.deduplicator = stage.intake.deduplicator ∧
      now.shutdown.2.result? = some (.error (.floorRegression 5 3)) := by
  intro first second intake start actions later stage now
  have failed : stage.failure? = some (.floorRegression 5 3) := by decide +kernel
  have forever := (fail_stop intake .off .silent ⟨0⟩ 4 1 actions _ failed).2 later
  have frozen : Frozen stage (start.observe actions).2 (.floorRegression 5 3) now
    (start.observe (actions ++ later)).2 := forever.1
  have stopped : now.FailStop (.floorRegression 5 3) := forever.2.1
  exact ⟨failed, by decide +kernel, by decide +kernel, by decide +kernel, by decide +kernel,
    frozen.deduplicator, stopped.shutdown⟩

end GossipIntake.Stage
