import GossipIntake.Proofs.Stage.FailStop

namespace GossipIntake

def Transcript.consumed (transcript : Transcript) : List Input :=
  transcript.taken ++ transcript.drained

namespace Stage

variable {stage next : Stage} {transcript : Transcript} {reference : Intake}

structure Conclusive (stage : Stage) : Prop where
  orderly : stage.Orderly
  uncrashed : stage.phase ≠ .crashed
  senderless : ∀ report, stage.phase = .finished (.ok report) → stage.hasSender = false

theorem hasSender_eq_false : stage.hasSender = false ↔ stage.hasHandle = false ∧ stage.senders = 0 := by
  simp [hasSender]

theorem conclusive_spawn (intake : Intake) (node : NodeId) (inputCapacity outputCapacity : Nat) :
    (spawn intake node inputCapacity outputCapacity none).Conclusive where
  orderly := orderly_spawn _ _ _ _
  uncrashed absurd := by cases absurd
  senderless _ absurd := by cases absurd

theorem ClientMove.senderless (move : stage.ClientMove next) (none : stage.hasSender = false) :
    next.hasSender = false := by
  cases move with
  | unchanged | entered | left | queued | returned | reserved | sent | permitLost | received
  | outputClosed | outputDropped => exact none
  | released input => cases input <;> exact none
  | senderHeld sender =>
    rw [none] at sender
    cases sender
  | senderDropped several =>
    have senders := (hasSender_eq_false.mp none).2
    omega
  | handleDropped => exact hasSender_eq_false.mpr ⟨rfl, (hasSender_eq_false.mp none).2⟩

theorem TaskStep.conclusive (step : stage.TaskStep next) (conclusive : stage.Conclusive) :
    next.Conclusive := by
  have orderly := step.orderly conclusive.orderly
  cases step with
  | crashed processing waiting crash =>
    rw [conclusive.orderly.calm] at crash
    cases crash
  | dropped processing | advanced processing | cleared processing =>
    refine ⟨orderly, ?_, ?_⟩ <;> simp [processing]
  | finished processing idle ended =>
    refine ⟨orderly, fun absurd => (by cases absurd), fun _ _ => ?_⟩
    simp only [inputEnded, Bool.and_eq_true, Bool.not_eq_true', beq_iff_eq] at ended
    exact hasSender_eq_false.mpr ended.1
  | @abandoned error count input rest draining waiting =>
    have phase := phase_abandon { stage with queue := rest } draining input
    refine ⟨orderly, ?_, ?_⟩ <;> simp [phase]
  | accepted | refused | put | undelivered | stopped =>
    exact ⟨orderly, fun absurd => (by cases absurd), fun _ absurd => (by cases absurd)⟩

theorem ClientMove.conclusive (move : stage.ClientMove next) (conclusive : stage.Conclusive) :
    next.Conclusive := by
  have kept := move.clientStep
  refine ⟨kept.orderly conclusive.orderly, ?_, ?_⟩
  · rw [kept.phase]
    exact conclusive.uncrashed
  · intro report phase
    rw [kept.phase] at phase
    exact move.senderless (conclusive.senderless report phase)

theorem conclusive_perform (conclusive : stage.Conclusive) (action : Action) :
    (stage.perform action).Conclusive := by
  rcases stage.perform_cases action with step | move
  · exact step.conclusive conclusive
  · exact move.conclusive conclusive

theorem conclusive_observe (conclusive : stage.Conclusive) (actions : List Action) :
    (stage.observe actions).1.Conclusive :=
  List.foldlRecOn (motive := fun (state : Stage × Transcript) => state.1.Conclusive)
    actions _ conclusive fun _ before action _ => conclusive_perform before action

theorem Conclusive.hasEnded_iff (conclusive : stage.Conclusive) (stuck : stage.step? = none) :
    stage.hasEnded = true ↔
      ((∃ error, stage.failure? = some error) ∧ stage.reserved = 0) ∨
      (stage.failure? = none ∧ stage.hasHandle = false ∧ stage.senders = 0 ∧ stage.reserved = 0 ∧
        stage.queue = [] ∧ stage.inHand? = none) := by
  constructor
  · intro ended
    obtain ⟨idle, returned⟩ := conclusive.orderly.ended ended
    cases phase : stage.phase with
    | finished result =>
      cases result with
      | error error => exact .inl ⟨⟨error, by rw [failure?, phase]⟩, returned⟩
      | ok report =>
        obtain ⟨handle, senders⟩ := hasSender_eq_false.mp (conclusive.senderless report phase)
        exact .inr ⟨by rw [failure?, phase], handle, senders, returned, idle, by rw [inHand?, phase]⟩
    | crashed => exact absurd phase conclusive.uncrashed
    | processing | holding | draining =>
      rw [hasEnded, phase] at ended
      cases ended
  · rintro (⟨⟨error, failed⟩, returned⟩ | ⟨unfailed, handle, senders, returned, idle, emptyHanded⟩)
    · by_contra running
      have going : stage.hasEnded = false := Bool.not_eq_true _ ▸ running
      obtain ⟨next, done⟩ := exists_step?_of_failure? failed going fun _ => returned
      rw [stuck] at done
      cases done
    · cases phase : stage.phase with
      | processing => simp [step?, phase, idle, inputEnded, handle, senders, returned] at stuck
      | holding event =>
        rw [inHand?, phase] at emptyHanded
        cases emptyHanded
      | draining error count =>
        rw [failure?, phase] at unfailed
        cases unfailed
      | finished | crashed => rw [hasEnded, phase]

theorem queue_process (stage : Stage) (calm : stage.crashAt = none) (input : Input) :
    (stage.process input).queue = stage.queue := by
  cases input with
  | event event =>
    simp only [process, processEvent, calm]
    split
    · rename_i absurd
      cases absurd
    · split <;> rfl
  | advance generation =>
    simp only [process]
    split <;> rfl
  | clear => rfl

theorem queue_forward (stage : Stage) (event : GossipEvent) :
    (stage.forward event).queue = stage.queue := by
  unfold forward
  split <;> rfl

/-- The task turns to an input. A running stage has its deduplicator handle an event, which is in hand
    then or dropped, and it advances or clears; a failed stage releases the input. -/
inductive TurnsTo (stage : Stage) : Input → List Input → Prop
  | accepts {event : GossipEvent} {rest : List Input} (processing : stage.phase = .processing)
      (forwards : (stage.intake.handle event).1 = some event)
      (step : stage.step? = some
        { stage with
          queue := rest
          intake := (stage.intake.handle event).2
          report := { stage.report with received := stage.report.received + 1 }
          phase := .holding event }) :
      TurnsTo stage (.event event) rest
  | drops {event : GossipEvent} {rest : List Input} (processing : stage.phase = .processing)
      (drops : (stage.intake.handle event).1 = none)
      (step : stage.step? = some
        { stage with
          queue := rest
          intake := (stage.intake.handle event).2
          report := { stage.report with received := stage.report.received + 1 } }) :
      TurnsTo stage (.event event) rest
  | advances {generation : UInt64} {rest : List Input} {evicted : Nat}
      (processing : stage.phase = .processing)
      (allowed : (stage.intake.advance generation).1 = .ok evicted)
      (step : stage.step? = some
        { stage with
          queue := rest
          intake := (stage.intake.advance generation).2
          report := { stage.report with shifts := stage.report.shifts + 1 } }) :
      TurnsTo stage (.advance generation) rest
  | refuses {generation : UInt64} {rest : List Input} {error : IntakeError}
      (processing : stage.phase = .processing)
      (refusal : (stage.intake.advance generation).1 = .error error)
      (step : stage.step? = some
        { stage with
          queue := rest
          intake := (stage.intake.advance generation).2.log (.stageFailed stage.node error)
          phase := .draining error 0 }) :
      TurnsTo stage (.advance generation) rest
  | clears {rest : List Input} (processing : stage.phase = .processing)
      (step : stage.step? = some
        { stage with
          queue := rest
          intake := stage.intake.clear
          report := { stage.report with clears := stage.report.clears + 1 } }) :
      TurnsTo stage .clear rest
  | releases {input : Input} {rest : List Input} {error : IntakeError} {count : UInt64}
      (failed : stage.failure? = some error)
      (step : stage.step? = some
        { stage with
          queue := rest
          intake := (stage.release input).intake
          phase := .draining error count }) :
      TurnsTo stage input rest

theorem TaskStep.turnsTo {input : Input} {rest : List Input} (does : stage.TaskStep next)
    (calm : stage.crashAt = none) (processing : stage.phase = .processing)
    (waiting : stage.queue = input :: rest) (step : stage.step? = some next) :
    stage.TurnsTo input rest := by
  cases does with
  | crashed _ _ crash =>
    rw [calm] at crash
    cases crash
  | @accepted event _ _ head forwards =>
    cases head.symm.trans waiting
    have handled : (stage.intake.handle event).1 = some event := if_pos forwards
    exact .accepts processing handled step
  | @dropped event _ _ head drops =>
    cases head.symm.trans waiting
    have handled : (stage.intake.handle event).1 = none := by simp [Intake.handle, drops]
    exact .drops processing handled step
  | advanced _ head allowed =>
    cases head.symm.trans waiting
    exact .advances processing allowed step
  | refused _ head refusal =>
    cases head.symm.trans waiting
    exact .refuses processing refusal step
  | cleared _ head =>
    cases head.symm.trans waiting
    exact .clears processing step
  | finished _ idle =>
    rw [idle] at waiting
    cases waiting
  | put phase | undelivered phase | abandoned phase | stopped phase =>
    rw [processing] at phase
    cases phase

theorem task_consumes {input : Input} {rest : List Input}
    (mirrors : stage.Mirrors transcript reference) (waiting : stage.queue = input :: rest) :
    ((stage.perform .task).queue = stage.queue ∧
        (transcript.extend stage .task).consumed = transcript.consumed) ∨
      (stage.TurnsTo input rest ∧ (stage.perform .task).queue = rest ∧
        (transcript.extend stage .task).consumed = transcript.consumed ++ [input]) := by
  have head : stage.queue.take 1 = [input] := by rw [waiting, List.take_succ_cons, List.take_zero]
  cases phase : stage.phase with
  | processing =>
    have step := step?_processing phase waiting
    obtain ⟨undrained, -⟩ := mirrors.emptyHanded phase
    have turns : stage.TurnsTo input rest :=
      (taskStep_process phase waiting).turnsTo mirrors.orderly.calm phase waiting step
    refine .inr ⟨turns, ?_, ?_⟩
    · rw [perform, after?, step]
      exact queue_process { stage with queue := rest } mirrors.orderly.calm input
    · rw [extend_processing transcript phase, head]
      simp only [Transcript.consumed, undrained, List.append_nil]
  | holding event =>
    refine .inl ⟨?_, ?_⟩
    · simp only [perform, after?, step?, phase]
      split
      · exact queue_forward stage event
      · rfl
    · rw [extend_holding transcript phase]
      rfl
  | draining error count =>
    have failed : stage.failure? = some error := by rw [failure?, phase]
    obtain ⟨more, step⟩ :=
      (failStop_of_failure? failed mirrors.orderly).release input rest waiting
    refine .inr ⟨.releases failed step, ?_, ?_⟩
    · rw [perform, after?, step]
      rfl
    · rw [extend_draining transcript phase, head]
      simp only [Transcript.consumed, List.append_assoc]
  | finished | crashed =>
    refine .inl ⟨?_, ?_⟩
    · simp [perform, after?, step?, phase]
    · simp only [Transcript.extend, phase]

theorem perform_consumes {input : Input} {rest : List Input}
    (mirrors : stage.Mirrors transcript reference) (waiting : stage.queue = input :: rest)
    (action : Action) :
    (∃ sent, (stage.perform action).queue = stage.queue ++ sent ∧
        (transcript.extend stage action).consumed = transcript.consumed) ∨
      (action = .task ∧ stage.TurnsTo input rest ∧ (stage.perform action).queue = rest ∧
        (transcript.extend stage action).consumed = transcript.consumed ++ [input]) := by
  by_cases client : action = .task
  · subst client
    rcases task_consumes mirrors waiting with ⟨queue, consumed⟩ | turned
    · exact .inl ⟨[], by rw [queue, List.append_nil], consumed⟩
    · exact .inr ⟨rfl, turned⟩
  · obtain ⟨sent, queue⟩ := (stage.perform_client client).queue
    rw [extend_client transcript client]
    exact .inl ⟨sent, queue, rfl⟩

/-- An input in the queue is turned to before the task ends, after all that were queued before it. -/
theorem turnsTo_before_end {start : Stage} (initially : start.Mirrors {} reference)
    {input : Input} (later : List Action) :
    ∀ (actions : List Action) (front back : List Input),
      (start.observe actions).1.queue = front ++ input :: back →
      (start.observe (actions ++ later)).1.hasEnded = true →
      ∃ mid rest waiting, later = mid ++ .task :: rest ∧
        (start.observe (actions ++ mid)).1.queue = input :: waiting ∧
        (start.observe (actions ++ mid)).2.consumed =
          (start.observe actions).2.consumed ++ front ∧
        (start.observe (actions ++ mid)).1.TurnsTo input waiting := by
  induction later with
  | nil =>
    intro actions front back queued ended
    rw [List.append_nil] at ended
    obtain ⟨idle, -⟩ := (mirrors_observe initially actions).orderly.ended ended
    rw [idle] at queued
    simp at queued
  | cons action later ih =>
    intro actions front back queued ended
    have mirrors := mirrors_observe initially actions
    have regrouped (more : List Action) :
        actions ++ action :: more = (actions ++ [action]) ++ more := by simp
    have onward := ih (actions ++ [action])
    rw [← regrouped, observe_concat] at onward
    -- This action takes some of what stands before the input, and the rest of the run does the rest.
    have resume (taken ahead more : List Input)
        (queue : ((start.observe actions).1.perform action).queue = ahead ++ input :: more)
        (consumed : ((start.observe actions).2.extend (start.observe actions).1 action).consumed =
          (start.observe actions).2.consumed ++ taken)
        (split : front = taken ++ ahead) :
        ∃ mid rest waiting, action :: later = mid ++ .task :: rest ∧
          (start.observe (actions ++ mid)).1.queue = input :: waiting ∧
          (start.observe (actions ++ mid)).2.consumed =
            (start.observe actions).2.consumed ++ front ∧
          (start.observe (actions ++ mid)).1.TurnsTo input waiting := by
      obtain ⟨mid, rest, waiting, rfl, head, before, turns⟩ := onward ahead more queue ended
      rw [← regrouped] at head before turns
      refine ⟨action :: mid, rest, waiting, rfl, head, ?_, turns⟩
      rw [before, consumed, split, List.append_assoc]
    cases front with
    | nil =>
      rcases perform_consumes mirrors queued action with
        ⟨sent, queue, consumed⟩ | ⟨rfl, turns, -, -⟩
      · rw [queued] at queue
        exact resume [] [] (back ++ sent) queue (by rw [consumed, List.append_nil]) rfl
      · refine ⟨[], later, back, rfl, ?_, ?_, ?_⟩ <;> rw [List.append_nil]
        · exact queued
        · rw [List.append_nil]
        · exact turns
    | cons first front =>
      rcases perform_consumes mirrors queued action with
        ⟨sent, queue, consumed⟩ | ⟨-, -, queue, consumed⟩
      · rw [queued, List.append_assoc] at queue
        exact resume [] (first :: front) (back ++ sent) queue (by rw [consumed, List.append_nil]) rfl
      · exact resume [first] front back queue consumed rfl

/-- The task ends exactly when nothing is left to do and nothing more can come, and every input that was
    sent by a permit is processed or released before that. -/
theorem ended_exactly (intake : Intake) (node : NodeId) (inputCapacity outputCapacity : Nat)
    (actions : List Action) :
    let start := spawn intake node inputCapacity outputCapacity none
    let stage := (start.observe actions).1
    let seen := (start.observe actions).2
    (stage.step? = none →
      (stage.hasEnded = true ↔
        ((∃ error, stage.failure? = some error) ∧ stage.reserved = 0) ∨
        (stage.failure? = none ∧ stage.hasHandle = false ∧ stage.senders = 0 ∧
          stage.reserved = 0 ∧ stage.queue = [] ∧ stage.inHand? = none))) ∧
    (stage.hasEnded = true → stage.queue = []) ∧
    ∀ (input : Input) (later : List Action), 0 < stage.reserved →
      let sent := actions ++ [.sendReserved input]
      (start.observe sent).1.queue = stage.queue ++ [input] ∧
      ((start.observe (sent ++ later)).1.hasEnded = true →
        ∃ mid rest waiting, later = mid ++ .task :: rest ∧
          (start.observe (sent ++ mid)).1.queue = input :: waiting ∧
          (start.observe (sent ++ mid)).2.consumed = seen.accepted ∧
          (start.observe (sent ++ mid)).1.TurnsTo input waiting) := by
  intro start stage seen
  have initially : start.Mirrors {} intake := mirrors_start node inputCapacity outputCapacity rfl
  have mirrors : stage.Mirrors seen intake := mirrors_observe initially actions
  have conclusive : stage.Conclusive := conclusive_observe (conclusive_spawn _ _ _ _) actions
  refine ⟨conclusive.hasEnded_iff, fun ended => (mirrors.orderly.ended ended).1, ?_⟩
  intro input later several sent
  have running : ¬ stage.hasEnded = true := by
    intro ended
    obtain ⟨-, returned⟩ := mirrors.orderly.ended ended
    omega
  have queued : (start.observe sent).1.queue = stage.queue ++ [input] := by
    obtain ⟨reserved, some⟩ : ∃ reserved, stage.reserved = reserved + 1 :=
      ⟨stage.reserved - 1, by omega⟩
    rw [observe_concat, perform, after?, sendReserved?, show (start.observe actions).1.reserved =
      reserved + 1 from some]
    simp only [Option.getD_some, show ¬ (start.observe actions).1.hasEnded = true from running]
    rfl
  refine ⟨queued, fun ended => ?_⟩
  obtain ⟨mid, rest, waiting, split, head, before, turns⟩ :=
    turnsTo_before_end initially later sent stage.queue [] queued ended
  refine ⟨mid, rest, waiting, split, head, ?_, turns⟩
  have accepted : seen.accepted = seen.consumed ++ stage.queue := mirrors.accepted
  rw [before, accepted, observe_concat]
  rfl

theorem ended_exactly_late_permit :
    let event := GossipEvent.ofDescriptor ⟨⟨1⟩, Vector.replicate 32 0, 6⟩ [8] ⟨3⟩
    let intake := Intake.new (.perPeer .empty) .silent
    let start := spawn intake ⟨0⟩ 4 1 none
    let actions : List Action :=
      [.reserve, .advance 5, .advance 3, .clear, .task, .task, .task, .countIn event]
    let sent : List Action := actions ++ [.sendReserved (.event event)]
    let later : List Action := [.dropHandle, .task, .task]
    let stage := (start.observe actions).1
    stage.step? = none ∧ stage.failure? = some (.floorRegression 5 3) ∧ ¬ stage.hasEnded = true ∧
      0 < stage.reserved ∧ (start.observe (sent ++ later)).1.hasEnded = true ∧
      (start.observe (sent ++ later)).1.intake.accounting.inFlight? ⟨3⟩ = some 0 ∧
      ∃ mid waiting, (start.observe (sent ++ mid)).1.TurnsTo (.event event) waiting := by
  intro event intake start actions sent later stage
  have stuck : stage.step? = none := Option.isNone_iff_eq_none.mp (by decide +kernel)
  have failed : stage.failure? = some (.floorRegression 5 3) := by decide +kernel
  have several : stage.reserved = 1 := by decide +kernel
  have ended : (start.observe (sent ++ later)).1.hasEnded = true := by decide +kernel
  have exactly := ended_exactly intake ⟨0⟩ 4 1 actions
  have running : ¬ stage.hasEnded = true := by
    intro absurd
    rcases (exactly.1 stuck).mp absurd with ⟨-, returned⟩ | ⟨unfailed, -⟩
    · rw [show stage.reserved = 0 from returned] at several
      cases several
    · rw [show stage.failure? = none from unfailed] at failed
      cases failed
  have some : 0 < stage.reserved := by omega
  obtain ⟨mid, -, waiting, -, -, -, turns⟩ := (exactly.2.2 (.event event) later some).2 ended
  exact ⟨stuck, failed, running, some, ended, by decide +kernel, mid, waiting, turns⟩

end Stage

end GossipIntake
