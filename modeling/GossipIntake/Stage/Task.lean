import GossipIntake.Stage.Basic

namespace GossipIntake.Stage

def fail (stage : Stage) (error : IntakeError) : Stage :=
  { stage with
    intake := stage.intake.log (.stageFailed stage.node error)
    phase := .draining error 0 }

/-- Put the event in hand on an output queue that is ready for it. Without a consumer that listens the
    event leaves the pipeline and the stage fails. -/
def forward (stage : Stage) (event : GossipEvent) : Stage :=
  match stage.output.consumer with
  | .listening =>
    { stage with
      output := stage.output.push event
      phase := .processing
      report := { stage.report with forwarded := stage.report.forwarded + 1 } }
  | _ =>
    fail
      { stage with
        intake := stage.intake.exit event.sender
        output := { stage.output with promised := false } }
      .downstreamClosed

def processEvent (stage : Stage) (event : GossipEvent) : Stage :=
  if stage.crashAt = some event.generation then { stage with queue := [], phase := .crashed }
  else
    let handled := stage.intake.handle event
    let next : Stage :=
      { stage with
        intake := handled.2
        report := { stage.report with received := stage.report.received + 1 } }
    match handled.1 with
    | some accepted => { next with phase := .holding accepted }
    | none => next

def process (stage : Stage) : Input → Stage
  | .event event => stage.processEvent event
  | .advance generation =>
    match stage.intake.advance generation with
    | (.ok _, intake) =>
      { stage with intake, report := { stage.report with shifts := stage.report.shifts + 1 } }
    | (.error error, intake) => fail { stage with intake } error
  | .clear =>
    { stage with
      intake := stage.intake.clear
      report := { stage.report with clears := stage.report.clears + 1 } }

def abandon (stage : Stage) (error : IntakeError) (abandoned : UInt64) : Input → Stage
  | .event event =>
    { stage with
      intake := stage.intake.exit event.sender
      phase := .draining error (abandoned + 1) }
  | _ => stage

def finish (stage : Stage) : Stage :=
  { stage with
    intake :=
      stage.intake.log
        (.stageFinished stage.node stage.report.received.toNat stage.report.forwarded.toNat)
    phase := .finished (.ok stage.report) }

def finishFailed (stage : Stage) (error : IntakeError) (abandoned : UInt64) : Stage :=
  { stage with
    intake :=
      if 0 < abandoned then stage.intake.log (.eventsAbandoned stage.node abandoned.toNat)
      else stage.intake
    phase := .finished (.error error) }

def step? (stage : Stage) : Option Stage :=
  match stage.phase with
  | .processing =>
    match stage.queue with
    | input :: rest => some ({ stage with queue := rest }.process input)
    | [] => if stage.inputEnded then some stage.finish else none
  | .holding event => if stage.output.isReady then some (stage.forward event) else none
  | .draining error abandoned =>
    match stage.queue with
    | input :: rest => some ({ stage with queue := rest }.abandon error abandoned input)
    | [] => if stage.reserved = 0 then some (stage.finishFailed error abandoned) else none
  | .finished _ | .crashed => none

def Phase.work : Phase → Nat
  | .processing => 1
  | .holding _ => 2
  | .draining _ _ => 1
  | .finished _ | .crashed => 0

/-- An upper bound for the steps that are left: two for each input that waits. -/
def pendingWork (stage : Stage) : Nat := 2 * stage.queue.length + Phase.work stage.phase

theorem pendingWork_forward (stage : Stage) (event : GossipEvent) :
    (stage.forward event).pendingWork = 2 * stage.queue.length + 1 := by
  unfold forward
  split <;> simp [pendingWork, Phase.work, fail]

theorem pendingWork_process (stage : Stage) (processing : stage.phase = .processing) (input : Input) :
    (stage.process input).pendingWork ≤ 2 * stage.queue.length + 2 := by
  cases input with
  | event event =>
    simp only [process, processEvent]
    split
    · simp [pendingWork, Phase.work]
    · split <;> simp [pendingWork, Phase.work, processing]
  | advance generation =>
    simp only [process]
    split
    · simp [pendingWork, Phase.work, processing]
    · simp [pendingWork, Phase.work, fail]
  | clear => simp [process, pendingWork, Phase.work, processing]

theorem step?_pendingWork {stage next : Stage} (h : stage.step? = some next) :
    next.pendingWork < stage.pendingWork := by
  unfold step? at h
  split at h
  · rename_i processing
    split at h
    · rename_i input rest waiting
      cases h
      have bound := pendingWork_process { stage with queue := rest } processing input
      simp only [pendingWork, waiting, processing, Phase.work, List.length_cons] at bound ⊢
      omega
    · rename_i idle
      split at h
      · cases h
        simp [pendingWork, Phase.work, finish, processing]
      · cases h
  · rename_i event holding
    split at h
    · cases h
      rw [pendingWork_forward]
      simp [pendingWork, holding, Phase.work]
    · cases h
  · rename_i error abandoned draining
    split at h
    · rename_i input rest waiting
      cases h
      cases input <;> simp [abandon, pendingWork, Phase.work, draining, waiting]
    · split at h
      · cases h
        simp [pendingWork, Phase.work, finishFailed, draining]
      · cases h
  · cases h
  · cases h

/-- Run the task until it can make no progress. -/
def settle (stage : Stage) : Stage :=
  match _h : stage.step? with
  | none => stage
  | some next => next.settle
termination_by stage.pendingWork
decreasing_by exact step?_pendingWork _h

theorem settle_of_step?_eq_none {stage : Stage} (rest : stage.step? = none) :
    stage.settle = stage := by
  rw [settle]
  split
  · rfl
  · rename_i next found
    rw [rest] at found
    cases found

theorem settle_of_step?_eq_some {stage next : Stage} (h : stage.step? = some next) :
    stage.settle = next.settle := by
  rw [settle]
  split
  · rename_i found
    rw [h] at found
    cases found
  · rename_i other found
    rw [h] at found
    cases found
    rfl

end GossipIntake.Stage
