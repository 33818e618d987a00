import GossipIntake.Proofs.Stage.Failure

namespace GossipIntake

namespace Intake

def bare (intake : Intake) : Intake := { intake with accounting := .off, journal := [] }

theorem bare_eq {intake other : Intake} (deduplicator : intake.deduplicator = other.deduplicator)
    (metrics : intake.metrics = other.metrics) : intake.bare = other.bare := by
  rw [bare, bare, deduplicator, metrics]

@[simp]
theorem bare_bare (intake : Intake) : intake.bare.bare = intake.bare := rfl

@[simp]
theorem bare_log (intake : Intake) (notice : Notice) : (intake.log notice).bare = intake.bare := rfl

@[simp]
theorem bare_exit (intake : Intake) (peer : NodeId) : (intake.exit peer).bare = intake.bare :=
  bare_eq (deduplicator_exit intake peer) (metrics_exit intake peer)

@[simp]
theorem bare_handle (intake : Intake) (event : GossipEvent) :
    (intake.bare.handle event).2.bare = (intake.handle event).2.bare := by
  rw [handle_snd, handle_snd]
  apply bare_eq
  · simp [bare]
  · simp [bare]

@[simp]
theorem bare_advance (intake : Intake) (generation : UInt64) :
    (intake.bare.advance generation).2.bare = (intake.advance generation).2.bare := by
  apply bare_eq
  · simp [bare]
  · simp [bare]

@[simp]
theorem bare_clear (intake : Intake) : intake.bare.clear.bare = intake.clear.bare := by
  apply bare_eq
  · simp [bare]
  · simp [bare]

end Intake

/-- How much was abandoned matters to the log only. -/
def Phase.bare : Phase → Phase
  | .draining error _ => .draining error 0
  | phase => phase

@[simp]
theorem Phase.bare_bare (phase : Phase) : phase.bare.bare = phase.bare := by
  cases phase <;> rfl

namespace Stage

variable {stage other next : Stage}

/-- The stage without what accounting and the log hold, which have no say in what happens next. -/
def bare (stage : Stage) : Stage :=
  { stage with intake := stage.intake.bare, phase := stage.phase.bare }

@[simp]
theorem output_bare (stage : Stage) : stage.bare.output = stage.output := rfl

@[simp]
theorem reserved_bare (stage : Stage) : stage.bare.reserved = stage.reserved := rfl

@[simp]
theorem inputEnded_bare (stage : Stage) : stage.bare.inputEnded = stage.inputEnded := rfl

@[simp]
theorem hasRoom_bare (stage : Stage) : stage.bare.hasRoom = stage.hasRoom := rfl

@[simp]
theorem accepts_bare (stage : Stage) : stage.bare.accepts = stage.accepts := by
  cases phase : stage.phase <;> simp [accepts, bare, phase, Phase.bare]

@[simp]
theorem inHand?_bare (stage : Stage) : stage.bare.inHand? = stage.inHand? := by
  cases phase : stage.phase <;> simp [inHand?, bare, phase, Phase.bare]

@[simp]
theorem hasEnded_bare (stage : Stage) : stage.bare.hasEnded = stage.hasEnded := by
  cases phase : stage.phase <;> simp [hasEnded, bare, phase, Phase.bare]

@[simp]
theorem result?_bare (stage : Stage) : stage.bare.result? = stage.result? := by
  cases phase : stage.phase <;> simp [result?, bare, phase, Phase.bare]

@[simp]
theorem failure?_bare (stage : Stage) : stage.bare.failure? = stage.failure? := by
  cases phase : stage.phase <;> simp [failure?, bare, phase, Phase.bare]

@[simp]
theorem bare_release (stage : Stage) (input : Input) : (stage.release input).bare = stage.bare := by
  cases input with
  | event event => simp [release, exit, bare]
  | advance | clear => rfl

theorem bare_forward (stage : Stage) (event : GossipEvent) :
    (stage.bare.forward event).bare = (stage.forward event).bare := by
  unfold forward
  cases listening : stage.output.consumer <;> simp [bare, listening, fail]

theorem bare_process (stage : Stage) (input : Input) :
    (stage.bare.process input).bare = (stage.process input).bare := by
  cases input with
  | event event =>
    have handled : (stage.bare.intake.handle event).1 = (stage.intake.handle event).1 := rfl
    simp only [process, processEvent, handled]
    by_cases crash : stage.crashAt = some event.generation
    · simp [bare, crash]
    · cases found : (stage.intake.handle event).1 <;> simp [bare, crash]
  | advance generation =>
    have alike : (stage.bare.intake.advance generation).1 =
        (stage.intake.advance generation).1 := rfl
    have reached := Intake.bare_advance stage.intake generation
    simp only [process]
    rcases mine : stage.intake.advance generation with ⟨result, intake⟩
    rcases theirs : stage.bare.intake.advance generation with ⟨other, bareIntake⟩
    have same : bareIntake.bare = intake.bare := by
      rw [mine, show stage.intake.bare.advance generation = (other, bareIntake) from theirs] at reached
      exact reached
    rw [mine, theirs] at alike
    simp only at alike
    subst alike
    cases other <;> simp [bare, fail, same]
  | clear => simp [process, bare]

theorem bare_abandon (stage : Stage) {error : IntakeError} {count : UInt64}
    (draining : stage.phase = .draining error count) (input : Input) :
    (stage.bare.abandon error 0 input).bare = (stage.abandon error count input).bare := by
  cases input <;> simp [abandon, bare, draining, Phase.bare]

theorem bare_finishFailed (stage : Stage) (error : IntakeError) (count : UInt64) :
    (stage.bare.finishFailed error 0).bare = (stage.finishFailed error count).bare := by
  simp only [finishFailed]
  split <;> split <;> rfl

/-- What the task does next does not depend on what is erased. -/
theorem bare_step? (stage : Stage) : stage.bare.step?.map bare = stage.step?.map bare := by
  have alike : stage.bare.phase = stage.phase.bare := rfl
  cases phase : stage.phase with
  | processing =>
    rw [phase] at alike
    cases waiting : stage.queue with
    | nil =>
      rw [step?_idle phase waiting, step?_idle alike waiting]
      rw [inputEnded_bare]
      split
      · simp [finish, bare]
      · rfl
    | cons input rest =>
      rw [step?_processing phase waiting, step?_processing alike waiting]
      exact congrArg some (bare_process { stage with queue := rest } input)
  | holding event =>
    rw [phase] at alike
    rw [step?_holding phase, step?_holding alike]
    rw [output_bare]
    split
    · exact congrArg some (bare_forward stage event)
    · rfl
  | draining error count =>
    rw [phase] at alike
    cases waiting : stage.queue with
    | nil =>
      rw [step?_drained phase waiting, step?_drained alike waiting]
      rw [reserved_bare]
      split
      · exact congrArg some (bare_finishFailed stage error count)
      · rfl
    | cons input rest =>
      rw [step?_draining phase waiting, step?_draining alike waiting]
      exact congrArg some (bare_abandon { stage with queue := rest } phase input)
  | finished | crashed =>
    rw [phase] at alike
    simp [step?, phase, alike, Phase.bare]

theorem step?_congr (same : stage.bare = other.bare) : stage.step?.map bare = other.step?.map bare := by
  rw [← bare_step? stage, ← bare_step? other, same]

theorem bare_settle_congr (same : stage.bare = other.bare) :
    stage.settle.bare = other.settle.bare := by
  induction stage using settle.induct generalizing other with
  | case1 stage stuck =>
    have alsoStuck : other.step? = none := by
      have alike := step?_congr same
      rw [stuck] at alike
      exact Option.map_eq_none_iff.mp alike.symm
    rw [settle_of_step?_eq_none stuck, settle_of_step?_eq_none alsoStuck, same]
  | case2 stage next done ih =>
    have alike := step?_congr same
    rw [done] at alike
    obtain ⟨reached, step, sameNext⟩ := Option.map_eq_some_iff.mp alike.symm
    rw [settle_of_step?_eq_some done, settle_of_step?_eq_some step]
    exact ih sameNext.symm

theorem bare_offer (stage : Stage) (input : Input) :
    (stage.bare.offer input).1 = (stage.offer input).1 ∧
      (stage.bare.offer input).2.bare = (stage.offer input).2.bare := by
  rw [offer, offer, accepts_bare, hasRoom_bare]
  split
  · split
    · simp [bare]
    · simp [bare]
  · simp [bare]

theorem offer_congr (same : stage.bare = other.bare) (input : Input) :
    (stage.offer input).1 = (other.offer input).1 ∧
      (stage.offer input).2.bare = (other.offer input).2.bare := by
  have mine := bare_offer stage input
  have theirs := bare_offer other input
  rw [← same] at theirs
  exact ⟨mine.1.symm.trans theirs.1, mine.2.symm.trans theirs.2⟩

theorem bare_submit (stage : Stage) (event : GossipEvent) :
    (stage.submit event).1 = (stage.offer (.event event)).1 ∧
      (stage.submit event).2.bare = (stage.offer (.event event)).2.bare := by
  unfold submit
  rcases stage.offer_cases (.event event) with ⟨-, -, queued⟩ | full | ⟨-, refused⟩
  · simp [queued]
  · simp [full]
  · simp [refused]

end Stage

end GossipIntake
