import GossipIntake.Proofs.Event
import GossipIntake.Proofs.Intake
import GossipIntake.Proofs.Run

namespace GossipIntake

inductive Request where
  | classify (event : GossipEvent)
  | handle (event : GossipEvent)
  | advance (generation : UInt64)
  | clear
deriving DecidableEq

inductive Response where
  | classified (outcome : Outcome)
  | handled (forwarded : Option GossipEvent)
  | advanced (result : Except IntakeError Nat)
  | cleared

def Request.event? : Request → Option GossipEvent
  | .classify event | .handle event => some event
  | .advance _ | .clear => none

def Request.Built (request : Request) : Prop := ∀ event, request.event? = some event → event.Built

def Intake.answer (intake : Intake) : Request → Response × Intake
  | .classify event =>
    let classified := intake.classify event
    (.classified classified.1, classified.2)
  | .handle event =>
    let handled := intake.handle event
    (.handled handled.1, handled.2)
  | .advance generation =>
    let advanced := intake.advance generation
    (.advanced advanced.1, advanced.2)
  | .clear => (.cleared, intake.clear)

theorem Intake.answer_congr {intake other : Intake} (same : intake.deduplicator = other.deduplicator)
    (request : Request) :
    (intake.answer request).1 = (other.answer request).1 ∧
      (intake.answer request).2.deduplicator = (other.answer request).2.deduplicator := by
  cases request with
  | classify event => simp [answer, classify_fst, same]
  | handle event => simp [answer, handle_fst, handle_snd, same]
  | advance generation => simp [answer, advance_fst, same]
  | clear => simp [answer, same]

def Intake.run (intake : Intake) (requests : List Request) : List (Request × Response) × Intake :=
  runAll (fun intake request => ((request, (intake.answer request).1), (intake.answer request).2))
    intake requests

theorem Intake.run_concat (intake : Intake) (past : List Request) (request : Request) :
    intake.run (past ++ [request]) =
      ((intake.run past).1 ++ [(request, ((intake.run past).2.answer request).1)],
        ((intake.run past).2.answer request).2) := by
  rw [Intake.run, runAll_append]
  rfl

theorem Intake.run_append (intake : Intake) (past stretch : List Request) :
    intake.run (past ++ stretch) =
      ((intake.run past).1 ++ ((intake.run past).2.run stretch).1,
        ((intake.run past).2.run stretch).2) :=
  runAll_append _ _ _ _

end GossipIntake
