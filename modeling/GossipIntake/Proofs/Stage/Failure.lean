import GossipIntake.Proofs.Stage.Refinement
import Mathlib.Data.List.Induction

namespace GossipIntake

def refused? : Request × Response → Option IntakeError
  | (_, .advanced (.error error)) => some error
  | _ => none

def Intake.refusals (intake : Intake) (inputs : List Input) : List IntakeError :=
  (intake.feed inputs).1.filterMap refused?

theorem Intake.refusals_concat (intake : Intake) (inputs : List Input) (input : Input) :
    intake.refusals (inputs ++ [input]) =
      intake.refusals inputs ++
        (refused? (input.request, ((intake.feed inputs).2.answer input.request).1)).toList :=
  intake.filterMap_feed_concat inputs input refused?

theorem Deduplicator.advance_error {deduplicator : Deduplicator} {generation : UInt64}
    {error : IntakeError} (refusal : (deduplicator.advance generation).1 = .error error) :
    error = .floorRegression deduplicator.threshold generation := by
  unfold advance at refusal
  split at refusal
  · cases refusal
    rfl
  · cases refusal

namespace Stage

def failure? (stage : Stage) : Option IntakeError :=
  match stage.phase with
  | .draining error _ | .finished (.error error) => some error
  | _ => none

variable {stage next : Stage} {transcript seen : Transcript} {reference : Intake}
  {error : IntakeError}

theorem failure?_cases (failed : stage.failure? = some error) :
    (∃ count, stage.phase = .draining error count) ∨ stage.phase = .finished (.error error) := by
  cases phase : stage.phase with
  | draining other count =>
    rw [failure?, phase] at failed
    exact .inl ⟨count, by rw [Option.some.inj failed]⟩
  | finished result =>
    cases result with
    | error other =>
      rw [failure?, phase] at failed
      exact .inr (by rw [Option.some.inj failed])
    | ok report =>
      rw [failure?, phase] at failed
      cases failed
  | processing | holding | crashed =>
    rw [failure?, phase] at failed
    cases failed

theorem accepts_of_failure? (failed : stage.failure? = some error) : stage.accepts = false := by
  rcases failure?_cases failed with ⟨count, draining⟩ | finished
  · rw [accepts, draining]
  · rw [accepts, finished]

theorem ClientStep.failure? (client : stage.ClientStep next) : next.failure? = stage.failure? := by
  rw [Stage.failure?, Stage.failure?, client.phase]

/-- Why an input fails that an intake alone is given next, if the event on its way out was lost. -/
inductive Cause (alone : Intake) (undelivered : Option GossipEvent) : Input → IntakeError → Prop
  | regression {generation : UInt64}
      (refusal : (alone.advance generation).1 =
        .error (.floorRegression alone.deduplicator.threshold generation))
      (delivered : undelivered = none) :
      Cause alone undelivered (.advance generation)
        (.floorRegression alone.deduplicator.threshold generation)
  | undeliverable {event : GossipEvent} (returned : (alone.handle event).1 = some event)
      (lost : undelivered = some event) : Cause alone undelivered (.event event) .downstreamClosed

/-- No input before `failing` failed: an intake alone answers them all, and what it returns for them is
    on the output queue. -/
structure FirstFailure (transcript : Transcript) (reference : Intake) (error : IntakeError)
    (done : List Input) (failing : Input) : Prop where
  taken : transcript.taken = done ++ [failing]
  answered : reference.refusals done = []
  put : transcript.put = reference.returned done
  cause : Cause (reference.feed done).2 transcript.undelivered failing error

structure Explained (stage : Stage) (transcript : Transcript) (reference : Intake) : Prop where
  mirrors : stage.Mirrors transcript reference
  answered : stage.failure? = none → reference.refusals transcript.taken = []
  holding : ∀ event, stage.phase = .holding event → ∃ done, transcript.taken = done ++ [.event event] ∧
    ((reference.feed done).2.handle event).1 = some event
  failed : ∀ error, stage.failure? = some error →
    ∃ done failing, FirstFailure transcript reference error done failing

theorem explained_start {intake reference : Intake} (node : NodeId)
    (inputCapacity outputCapacity : Nat) (same : reference.deduplicator = intake.deduplicator) :
    (spawn intake node inputCapacity outputCapacity none).Explained {} reference where
  mirrors := mirrors_start node inputCapacity outputCapacity same
  answered _ := rfl
  holding _ absurd := by cases absurd
  failed _ absurd := by cases absurd

theorem FirstFailure.congr {other : Transcript} {done : List Input} {failing : Input}
    (first : FirstFailure transcript reference error done failing)
    (taken : other.taken = transcript.taken) (put : other.put = transcript.put)
    (undelivered : other.undelivered = transcript.undelivered) :
    FirstFailure other reference error done failing where
  taken := taken.trans first.taken
  answered := first.answered
  put := put.trans first.put
  cause := by
    rw [undelivered]
    exact first.cause

theorem ClientStep.explained {accepted : List Input} (client : stage.ClientStep next)
    (mirrors : next.Mirrors { transcript with accepted } reference)
    (explained : stage.Explained transcript reference) :
    next.Explained { transcript with accepted } reference := by
  refine ⟨mirrors, ?_, ?_, ?_⟩
  · rw [client.failure?]
    exact explained.answered
  · rw [client.phase]
    exact explained.holding
  · intro error failed
    rw [client.failure?] at failed
    obtain ⟨done, failing, first⟩ := explained.failed error failed
    exact ⟨done, failing, first.congr rfl rfl rfl⟩

theorem Explained.proceed {input : Input} {rest : List Input}
    (explained : stage.Explained transcript reference) (processing : stage.phase = .processing)
    (waiting : stage.queue = input :: rest)
    (mirrors : next.Mirrors (transcript.extend stage .task) reference)
    (answered : refused? (input.request, (stage.intake.answer input.request).1) = none)
    (unfailed : next.failure? = none)
    (holding : ∀ event, next.phase = .holding event →
      input = .event event ∧ (stage.intake.handle event).1 = some event) :
    next.Explained (transcript.extend stage .task) reference := by
  have taken : (transcript.extend stage .task).taken = transcript.taken ++ [input] := by
    rw [extend_processing transcript processing, waiting, List.take_succ_cons, List.take_zero]
  have alone := explained.mirrors.deduplicator
  have before : reference.refusals transcript.taken = [] := by
    apply explained.answered
    rw [failure?, processing]
  refine ⟨mirrors, ?_, ?_, ?_⟩
  · intro _
    have same := (Intake.answer_congr alone input.request).1
    rw [taken, Intake.refusals_concat, before, ← same, answered]
    rfl
  · intro event inHand
    obtain ⟨rfl, returned⟩ := holding event inHand
    refine ⟨transcript.taken, taken, ?_⟩
    rw [Intake.handle_fst, ← alone]
    exact returned
  · intro error failed
    rw [unfailed] at failed
    cases failed

theorem Explained.refused {generation : UInt64} {rest : List Input}
    (explained : stage.Explained transcript reference) (processing : stage.phase = .processing)
    (waiting : stage.queue = .advance generation :: rest)
    (refusal : (stage.intake.advance generation).1 = .error error) :
    FirstFailure (transcript.extend stage .task) reference error transcript.taken
      (.advance generation) := by
  obtain ⟨-, delivered, -, output⟩ := explained.mirrors.emptyHanded processing
  have alone := explained.mirrors.deduplicator
  have shape := Deduplicator.advance_error refusal
  rw [Intake.advance_fst, alone, shape, alone] at refusal
  rw [extend_processing transcript processing, waiting, List.take_succ_cons, List.take_zero]
  refine ⟨rfl, explained.answered (by rw [failure?, processing]), output, ?_⟩
  rw [shape, alone]
  exact .regression refusal delivered

theorem Explained.undelivered {event : GossipEvent}
    (explained : stage.Explained transcript reference) (holding : stage.phase = .holding event)
    {put : List GossipEvent} (same : put = transcript.put) :
    ∃ done, FirstFailure { transcript with put, undelivered := some event } reference
      .downstreamClosed done (.event event) := by
  obtain ⟨done, taken, returned⟩ := explained.holding event holding
  obtain ⟨-, -, -, output⟩ := explained.mirrors.inHand holding
  have answered := explained.answered (by rw [failure?, holding])
  rw [taken, Intake.refusals_concat, List.append_eq_nil_iff] at answered
  rw [taken, Intake.returned_concat] at output
  simp only [Input.request, Intake.answer, returned?, returned, Option.toList_some] at output
  have before := List.append_cancel_right output
  exact ⟨done, taken, answered.1, same.trans before, .undeliverable returned rfl⟩

theorem TaskStep.explained (step : stage.TaskStep next) (reached : stage.perform .task = next)
    (explained : stage.Explained transcript reference) :
    next.Explained (transcript.extend stage .task) reference := by
  have mirrors := step.mirrors reached explained.mirrors
  cases step with
  | crashed processing waiting crash =>
    rw [explained.mirrors.orderly.calm] at crash
    cases crash
  | @accepted event rest processing waiting forwards =>
    apply explained.proceed processing waiting mirrors rfl rfl
    intro other inHand
    cases inHand
    rw [Intake.classify_fst] at forwards
    exact ⟨rfl, by rw [Intake.handle_fst, if_pos forwards]⟩
  | dropped processing waiting drops =>
    apply explained.proceed processing waiting mirrors rfl
    · simp only [failure?, processing]
    · simp only [processing]
      exact fun _ absurd => by cases absurd
  | @advanced generation rest evicted processing waiting allowed =>
    apply explained.proceed processing waiting mirrors
    · simp only [Input.request, Intake.answer, refused?, allowed]
    · simp only [failure?, processing]
    · simp only [processing]
      exact fun _ absurd => by cases absurd
  | @refused generation rest error processing waiting refusal =>
    refine ⟨mirrors, fun absurd => (by cases absurd), fun _ absurd => (by cases absurd), ?_⟩
    intro other failed
    cases failed
    exact ⟨_, _, explained.refused processing waiting refusal⟩
  | cleared processing waiting =>
    apply explained.proceed processing waiting mirrors rfl
    · simp only [failure?, processing]
    · simp only [processing]
      exact fun _ absurd => by cases absurd
  | finished processing idle ended =>
    have answered := explained.answered (by rw [failure?, processing])
    refine ⟨mirrors, fun _ => ?_, fun _ absurd => (by cases absurd), fun _ absurd => (by cases absurd)⟩
    rw [extend_processing transcript processing, idle, List.take_nil, List.append_nil]
    exact answered
  | put holding listening room =>
    have answered := explained.answered (by rw [failure?, holding])
    refine ⟨mirrors, fun _ => ?_, fun _ absurd => (by cases absurd), fun _ absurd => (by cases absurd)⟩
    rw [extend_holding transcript holding]
    exact answered
  | @undelivered event holding deaf =>
    refine ⟨mirrors, fun absurd => (by cases absurd), fun _ absurd => (by cases absurd), ?_⟩
    intro other failed
    cases failed
    rw [extend_holding transcript holding, reached]
    simp only [fail, accepts, List.drop_length, List.append_nil]
    obtain ⟨done, first⟩ := explained.undelivered holding rfl
    exact ⟨done, _, first⟩
  | @abandoned error count input rest draining waiting =>
    have phase := phase_abandon { stage with queue := rest } draining input
    have failure : ({ stage with queue := rest }.abandon error count input).failure? =
        stage.failure? := by rw [failure?, failure?, phase, draining]
    refine ⟨mirrors, ?_, ?_, ?_⟩
    · rw [failure, failure?, draining]
      exact fun absurd => by cases absurd
    · rw [phase]
      exact fun _ absurd => by cases absurd
    · intro other failed
      rw [failure] at failed
      obtain ⟨done, failing, first⟩ := explained.failed other failed
      rw [extend_draining transcript draining]
      exact ⟨done, failing, first.congr rfl rfl rfl⟩
  | @stopped error count draining idle returned =>
    refine ⟨mirrors, fun absurd => (by cases absurd), fun _ absurd => (by cases absurd), ?_⟩
    intro other failed
    have before : stage.failure? = some other := by
      rw [← failed, failure?, draining]
      rfl
    obtain ⟨done, failing, first⟩ := explained.failed other before
    rw [extend_draining transcript draining]
    exact ⟨done, failing, first.congr rfl rfl rfl⟩

theorem explained_perform (explained : stage.Explained transcript reference) (action : Action) :
    (stage.perform action).Explained (transcript.extend stage action) reference := by
  by_cases client : action = .task
  · subst client
    rcases stage.perform_task with ⟨same, stuck⟩ | step
    · rw [same, extend_stuck transcript same stuck]
      exact explained
    · exact step.explained rfl explained
  · have mirrors := mirrors_perform explained.mirrors action
    rw [extend_client transcript client] at mirrors ⊢
    exact (stage.perform_client client).explained mirrors explained

theorem explained_observe (explained : stage.Explained {} reference) (actions : List Action) :
    (stage.observe actions).1.Explained (stage.observe actions).2 reference :=
  List.foldlRecOn (motive := fun (state : Stage × Transcript) => state.1.Explained state.2 reference)
    actions _ explained fun _ before action _ => explained_perform before action

end Stage

end GossipIntake
