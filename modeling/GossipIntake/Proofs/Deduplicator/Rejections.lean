import GossipIntake.Proofs.Deduplicator.Memory
import GossipIntake.Proofs.Deduplicator.Requests
import Mathlib.Data.List.Induction

namespace GossipIntake

namespace Deduplicator

variable {deduplicator : Deduplicator}

theorem update_of_known {event : GossipEvent}
    (known : (deduplicator.signatures event.descriptor).contains event.signature = true)
    {sighting : Sighting} {observed : ObservedEvents}
    (done : deduplicator.observed.update event.descriptor (sight event.signature) =
      .ok (sighting, observed)) : observed = deduplicator.observed := by
  have allowed : ¬ Sequenced.sequence event.descriptor < deduplicator.observed.floor := by
    intro below
    rw [Window.update_error_iff.mpr ⟨below, rfl⟩] at done
    cases done
  cases resident : deduplicator.observed.get? event.descriptor with
  | none =>
    rw [signatures, resident] at known
    cases known
  | some set =>
    rw [signatures, resident, Option.getD_some] at known
    have same : (sight event.signature set).2 = set := by
      simp only [sight, ValueSet.insert, known, Bool.true_eq_false, dif_neg, not_false_eq_true]
    rw [Window.update_unchanged allowed resident same] at done
    cases done
    rfl

theorem classify_of_dropped {event : GossipEvent}
    (drops : (deduplicator.classify event).1.forwards = false) :
    (deduplicator.classify event).2.1 = deduplicator := by
  by_cases ancient : event.generation < deduplicator.threshold
  · rw [classify_ancient ancient]
  · cases done : deduplicator.observed.update event.descriptor (sight event.signature) with
    | error error => simp only [classify, if_neg ancient, done]
    | ok result =>
      obtain ⟨outcome, next⟩ := classify_of_update ancient done
      have known : (deduplicator.signatures event.descriptor).contains event.signature = true := by
        by_contra unknown
        rw [outcome, outcomeAmong, if_neg unknown] at drops
        split at drops <;> cases drops
      rw [next, update_of_known known done]

theorem advance_of_error {generation : UInt64} {error : IntakeError}
    (refusal : (deduplicator.advance generation).1 = .error error) :
    (deduplicator.advance generation).2.1 = deduplicator := by
  unfold advance at refusal ⊢
  split
  · rfl
  · rename_i shifted
    rw [shifted] at refusal
    cases refusal

/-- The window refuses exactly what is below the threshold. -/
def InSync (deduplicator : Deduplicator) : Prop :=
  deduplicator.observed.floor = deduplicator.threshold

theorem InSync.advance_error_iff (inSync : deduplicator.InSync) {generation : UInt64}
    {error : IntakeError} :
    (deduplicator.advance generation).1 = .error error ↔
      generation < deduplicator.threshold ∧
        error = .floorRegression deduplicator.threshold generation := by
  unfold advance
  split
  · rename_i refusal shifted
    obtain ⟨below, -⟩ := Window.shift_error_iff.mp shifted
    rw [inSync] at below
    simp [below, eq_comm]
  · rename_i evicted observed shifted
    have allowed : ¬ generation < deduplicator.threshold := by
      intro below
      rw [← inSync] at below
      rw [Window.shift_error_iff.mpr ⟨below, rfl⟩] at shifted
      cases shifted
    simp [allowed]

theorem InSync.classify (inSync : deduplicator.InSync) (event : GossipEvent) :
    (deduplicator.classify event).2.1.InSync := by
  by_cases ancient : event.generation < deduplicator.threshold
  · rw [classify_ancient ancient]
    exact inSync
  · cases done : deduplicator.observed.update event.descriptor (sight event.signature) with
    | error error =>
      simp only [Deduplicator.classify, if_neg ancient, done]
      exact inSync
    | ok result =>
      rw [(classify_of_update ancient done).2]
      exact (Window.floor_update done).trans inSync

theorem InSync.advance (inSync : deduplicator.InSync) (generation : UInt64) :
    (deduplicator.advance generation).2.1.InSync := by
  unfold Deduplicator.advance
  split
  · exact inSync
  · rename_i shifted
    exact Window.floor_shift shifted

end Deduplicator

structure Reply where
  request : Request
  response : Response
  outcome : Option Outcome

def Reply.isRejected (reply : Reply) : Bool :=
  match reply.response with
  | .advanced (.error _) => true
  | _ => reply.outcome == some .ancient || reply.outcome == some .duplicate

namespace Intake

def reply (intake : Intake) (request : Request) : Reply where
  request
  response := (intake.answer request).1
  outcome := request.event?.map fun event => (intake.classify event).1

def replies (intake : Intake) (requests : List Request) : List Reply × Intake :=
  runAll (fun intake request => (intake.reply request, (intake.answer request).2)) intake requests

theorem replies_cons (intake : Intake) (request : Request) (rest : List Request) :
    intake.replies (request :: rest) =
      (intake.reply request :: ((intake.answer request).2.replies rest).1,
        ((intake.answer request).2.replies rest).2) := rfl

variable {intake other : Intake}

theorem reply_congr (same : intake.deduplicator = other.deduplicator) (request : Request) :
    intake.reply request = other.reply request := by
  have outcome : (fun event => (intake.classify event).1) = fun event => (other.classify event).1 := by
    funext event
    rw [classify_fst, classify_fst, same]
  rw [reply, reply, (answer_congr same request).1, outcome]

theorem deduplicator_of_rejected {request : Request}
    (rejected : (intake.reply request).isRejected = true) :
    (intake.answer request).2.deduplicator = intake.deduplicator := by
  have dropped (event : GossipEvent)
      (drops : (some (intake.classify event).1 == some .ancient ||
        some (intake.classify event).1 == some .duplicate) = true) :
      (intake.classify event).2.deduplicator = intake.deduplicator := by
    rw [deduplicator_classify]
    apply Deduplicator.classify_of_dropped
    simp only [Bool.or_eq_true, beq_iff_eq, Option.some.injEq, classify_fst] at drops
    rcases drops with ancient | duplicate
    · rw [ancient]
      rfl
    · rw [duplicate]
      rfl
  cases request with
  | classify event | handle event => exact dropped event rejected
  | advance generation =>
    rw [answer, deduplicator_advance]
    cases result : (intake.advance generation).1 with
    | error error =>
      rw [advance_fst] at result
      exact Deduplicator.advance_of_error result
    | ok evicted =>
      simp only [reply, answer, result, Reply.isRejected, Request.event?] at rejected
      cases rejected
  | clear => cases rejected

theorem inSync_answer (inSync : intake.deduplicator.InSync) (request : Request) :
    (intake.answer request).2.deduplicator.InSync := by
  cases request with
  | classify event | handle event =>
    have after := inSync.classify event
    rw [← deduplicator_classify] at after
    exact after
  | advance generation =>
    have after := inSync.advance generation
    rw [← deduplicator_advance] at after
    exact after
  | clear =>
    rw [answer, deduplicator_clear]
    exact inSync

theorem inSync_replies (inSync : intake.deduplicator.InSync) (requests : List Request) :
    (intake.replies requests).2.deduplicator.InSync := by
  induction requests generalizing intake with
  | nil => exact inSync
  | cons request rest ih => exact ih (inSync_answer inSync request)

end Intake

/-- The second list is the first without some of its rejected requests. -/
inductive Erases : List Reply → List Reply → Prop
  | nil : Erases [] []
  | keep {replies kept : List Reply} (reply : Reply) (rest : Erases replies kept) :
      Erases (reply :: replies) (reply :: kept)
  | erase {replies kept : List Reply} {reply : Reply} (rejected : reply.isRejected = true)
      (rest : Erases replies kept) : Erases (reply :: replies) kept

/-- The two runs stand at the same deduplicator before every request that is kept. -/
theorem Erases.replies {intake other : Intake} (same : intake.deduplicator = other.deduplicator)
    {requests : List Request} {kept : List Reply} (erases : Erases (intake.replies requests).1 kept) :
    (other.replies (kept.map (·.request))).1 = kept ∧
      (other.replies (kept.map (·.request))).2.deduplicator =
        (intake.replies requests).2.deduplicator := by
  induction requests generalizing intake other kept with
  | nil =>
    cases erases
    exact ⟨rfl, same.symm⟩
  | cons request requests ih =>
    rw [Intake.replies_cons] at erases ⊢
    cases erases with
    | keep _ rest =>
      have next := (Intake.answer_congr same request).2
      obtain ⟨replies, last⟩ := ih next rest
      refine ⟨?_, last⟩
      rw [List.map_cons, Intake.replies_cons, Intake.reply_congr same request]
      exact congrArg _ replies
    | erase rejected rest =>
      exact ih ((Intake.deduplicator_of_rejected rejected).trans same) rest

/-- A rejected request changes nothing in the deduplicator, and a run without it gives the same replies
    to all that is asked before and after. -/
theorem rejections_invisible (accounting : Accounting) (metrics : Recorder) (past : List Request) :
    let run := (Intake.new accounting metrics).replies past
    let threshold := run.2.deduplicator.threshold
    (∀ generation error, (run.2.advance generation).1 = .error error ↔
      generation < threshold ∧ error = .floorRegression threshold generation) ∧
    (∀ generation error, (run.2.advance generation).1 = .error error →
      let next := (run.2.advance generation).2
      next.deduplicator = run.2.deduplicator ∧ next.metrics = run.2.metrics ∧
        next.accounting = run.2.accounting) ∧
    (∀ event, (run.2.classify event).1 = .ancient ∨ (run.2.classify event).1 = .duplicate →
      (run.2.handle event).1 = none ∧ (run.2.handle event).2.deduplicator = run.2.deduplicator) ∧
    ∀ (otherAccounting : Accounting) (otherMetrics : Recorder) (kept : List Reply),
      Erases run.1 kept →
      let spared := (Intake.new otherAccounting otherMetrics).replies (kept.map (·.request))
      spared.1 = kept ∧ spared.2.deduplicator = run.2.deduplicator := by
  intro run threshold
  have initially : (Intake.new accounting metrics).deduplicator.InSync := rfl
  have inSync : run.2.deduplicator.InSync := Intake.inSync_replies initially past
  refine ⟨?_, ?_, ?_, ?_⟩
  · intro generation error
    rw [Intake.advance_fst]
    exact inSync.advance_error_iff
  · intro generation error refusal next
    rw [Intake.advance_fst] at refusal
    refine ⟨?_, Intake.metrics_advance _ _, Intake.accounting_advance _ _⟩
    rw [Intake.deduplicator_advance, Deduplicator.advance_of_error refusal]
  · intro event rejected
    have drops : (run.2.deduplicator.classify event).1.forwards = false := by
      rw [← Intake.classify_fst]
      rcases rejected with ancient | duplicate
      · rw [ancient]
        rfl
      · rw [duplicate]
        rfl
    rw [Intake.handle_fst, Intake.handle_snd, Intake.deduplicator_classify,
      Deduplicator.classify_of_dropped drops, drops]
    exact ⟨rfl, rfl⟩
  · intro otherAccounting otherMetrics kept erases
    have fresh : (Intake.new accounting metrics).deduplicator =
        (Intake.new otherAccounting otherMetrics).deduplicator := rfl
    exact erases.replies fresh

theorem rejections_invisible_but_in_metrics :
    let early := GossipEvent.ofDescriptor ⟨⟨1⟩, Vector.replicate 32 0, 3⟩ [5] ⟨2⟩
    let first := GossipEvent.ofDescriptor ⟨⟨1⟩, Vector.replicate 32 0, 6⟩ [7] ⟨2⟩
    let run := (Intake.new .off (.tallying {})).replies
      [.handle early, .handle first, .advance 4, .advance 3, .handle (first.relayedBy ⟨3⟩),
        .handle early, .handle (first.withSignature [8])]
    let spared := (Intake.new .off (.tallying {})).replies
      [.handle early, .handle first, .advance 4, .handle early, .handle (first.withSignature [8])]
    (∃ kept, Erases run.1 kept ∧ spared.1 = kept) ∧ spared.2.deduplicator = run.2.deduplicator ∧
      spared.1.map (·.outcome) = [some .accepted, some .accepted, none, some .ancient,
        some .disparateSignature] ∧
      spared.2.metrics ≠ run.2.metrics := by
  intro early first run spared
  obtain ⟨kept, erases, same⟩ : ∃ kept, Erases run.1 kept ∧ kept.map (·.request) =
      [.handle early, .handle first, .advance 4, .handle early, .handle (first.withSignature [8])] := by
    refine ⟨_, .keep _ (.keep _ (.keep _ (.erase ?_ (.erase ?_ (.keep _ (.keep _ .nil)))))), rfl⟩
    · decide +kernel
    · decide +kernel
  obtain ⟨-, -, -, erasing⟩ := rejections_invisible .off (.tallying {})
    [.handle early, .handle first, .advance 4, .advance 3, .handle (first.relayedBy ⟨3⟩),
      .handle early, .handle (first.withSignature [8])]
  have alike := erasing .off (.tallying {}) kept erases
  rw [same] at alike
  exact ⟨⟨kept, erases, alike.1⟩, alike.2, by decide +kernel, by decide +kernel⟩

end GossipIntake
