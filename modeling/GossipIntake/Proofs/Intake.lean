import GossipIntake.Intake

namespace GossipIntake.Intake

@[simp]
theorem deduplicator_log (intake : Intake) (notice : Notice) :
    (intake.log notice).deduplicator = intake.deduplicator := rfl

@[simp]
theorem accounting_log (intake : Intake) (notice : Notice) :
    (intake.log notice).accounting = intake.accounting := rfl

@[simp]
theorem deduplicator_logAll (intake : Intake) (notices : List Notice) :
    (intake.logAll notices).deduplicator = intake.deduplicator := by
  induction notices generalizing intake with
  | nil => rfl
  | cons notice rest ih => exact ih (intake.log notice)

@[simp]
theorem accounting_logAll (intake : Intake) (notices : List Notice) :
    (intake.logAll notices).accounting = intake.accounting := by
  induction notices generalizing intake with
  | nil => rfl
  | cons notice rest ih => exact ih (intake.log notice)

@[simp]
theorem deduplicator_enter (intake : Intake) (peer : NodeId) :
    (intake.enter peer).deduplicator = intake.deduplicator := rfl

@[simp]
theorem deduplicator_exit (intake : Intake) (peer : NodeId) :
    (intake.exit peer).deduplicator = intake.deduplicator := by
  unfold exit
  dsimp only
  split <;> rfl

@[simp]
theorem accounting_exit (intake : Intake) (peer : NodeId) :
    (intake.exit peer).accounting = (intake.accounting.exit peer).2 := by
  unfold exit
  dsimp only
  split <;> rfl

theorem classify_fst (intake : Intake) (event : GossipEvent) :
    (intake.classify event).1 = (intake.deduplicator.classify event).1 := rfl

@[simp]
theorem deduplicator_classify (intake : Intake) (event : GossipEvent) :
    (intake.classify event).2.deduplicator = (intake.deduplicator.classify event).2.1 := by
  simp only [classify, deduplicator_log]
  split <;> simp

theorem accounting_classify (intake : Intake) (event : GossipEvent) :
    (intake.classify event).2.accounting =
      if (intake.classify event).1.forwards then intake.accounting
      else (intake.accounting.exit event.sender).2 := by
  by_cases forwards : (intake.deduplicator.classify event).1.forwards = true
  · simp [classify, forwards]
  · simp [classify, forwards]

@[simp]
theorem metrics_log (intake : Intake) (notice : Notice) :
    (intake.log notice).metrics = intake.metrics := rfl

@[simp]
theorem metrics_logAll (intake : Intake) (notices : List Notice) :
    (intake.logAll notices).metrics = intake.metrics := by
  induction notices generalizing intake with
  | nil => rfl
  | cons notice rest ih => exact ih (intake.log notice)

@[simp]
theorem metrics_exit (intake : Intake) (peer : NodeId) :
    (intake.exit peer).metrics = intake.metrics := by
  unfold exit
  dsimp only
  split <;> rfl

@[simp]
theorem metrics_classify (intake : Intake) (event : GossipEvent) :
    (intake.classify event).2.metrics =
      intake.metrics.record (intake.deduplicator.classify event).1 := by
  by_cases forwards : (intake.deduplicator.classify event).1.forwards = true
  · simp [classify, forwards]
  · simp [classify, forwards]

theorem handle_fst (intake : Intake) (event : GossipEvent) :
    (intake.handle event).1 =
      if (intake.deduplicator.classify event).1.forwards then some event else none := rfl

theorem handle_snd (intake : Intake) (event : GossipEvent) :
    (intake.handle event).2 = (intake.classify event).2 := rfl

theorem advance_fst (intake : Intake) (generation : UInt64) :
    (intake.advance generation).1 = (intake.deduplicator.advance generation).1 := rfl

@[simp]
theorem deduplicator_advance (intake : Intake) (generation : UInt64) :
    (intake.advance generation).2.deduplicator =
      (intake.deduplicator.advance generation).2.1 := by
  simp [advance]

@[simp]
theorem accounting_advance (intake : Intake) (generation : UInt64) :
    (intake.advance generation).2.accounting = intake.accounting := by
  simp [advance]

@[simp]
theorem metrics_advance (intake : Intake) (generation : UInt64) :
    (intake.advance generation).2.metrics = intake.metrics := by
  simp [advance]

@[simp]
theorem deduplicator_clear (intake : Intake) :
    intake.clear.deduplicator = intake.deduplicator.clear.1 := by
  simp [clear]

@[simp]
theorem accounting_clear (intake : Intake) : intake.clear.accounting = intake.accounting := by
  simp [clear]

@[simp]
theorem metrics_clear (intake : Intake) : intake.clear.metrics = intake.metrics := by
  simp [clear]

@[simp]
theorem journal_logAll (intake : Intake) (notices : List Notice) :
    (intake.logAll notices).journal = notices.reverse ++ intake.journal := by
  induction notices generalizing intake with
  | nil => rfl
  | cons notice rest ih =>
    rw [logAll, List.foldl_cons, ← logAll, ih, List.reverse_cons, List.append_assoc]
    rfl

def exitNotices (peer : NodeId) : PeerCounter.Exit → List Notice
  | .counted => []
  | .idle => [.idlePeerExit peer]
  | .unknown => [.unknownPeerExit peer]

@[simp]
theorem journal_exit (intake : Intake) (peer : NodeId) :
    (intake.exit peer).journal =
      exitNotices peer (intake.accounting.exit peer).1 ++ intake.journal := by
  unfold exit
  dsimp only
  split <;> rename_i left <;> rw [left] <;> rfl

theorem journal_classify (intake : Intake) (event : GossipEvent) :
    (intake.classify event).2.journal =
      .classified event.descriptor event.sender (intake.deduplicator.classify event).1 ::
        ((if (intake.deduplicator.classify event).1.forwards then []
          else exitNotices event.sender (intake.accounting.exit event.sender).1) ++
        ((intake.deduplicator.classify event).2.2.reverse ++ intake.journal)) := by
  by_cases forwards : (intake.deduplicator.classify event).1.forwards = true
  · simp [classify, log, forwards]
  · simp [classify, log, forwards]

theorem journal_advance (intake : Intake) (generation : UInt64) :
    (intake.advance generation).2.journal =
      (intake.deduplicator.advance generation).2.2.reverse ++ intake.journal :=
  journal_logAll _ _

theorem journal_clear (intake : Intake) :
    intake.clear.journal = .cleared intake.deduplicator.observed.size :: intake.journal :=
  journal_logAll _ _

end GossipIntake.Intake
