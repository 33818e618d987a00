import GossipIntake.Proofs.Deduplicator.History

namespace GossipIntake

namespace Deduplicator

structure Sound (deduplicator : Deduplicator) : Prop where
  inSync : deduplicator.observed.floor = deduplicator.threshold
  current : ∀ entry ∈ deduplicator.observed.entries.entries,
    deduplicator.threshold ≤ entry.1.generation
  occupied : ∀ entry ∈ deduplicator.observed.entries.entries, entry.2.isEmpty = false

variable {deduplicator : Deduplicator} {threshold : UInt64}
  {handled : Descriptor → Signature → Prop}

theorem Remembers.sound (remembers : deduplicator.Remembers threshold handled) :
    deduplicator.Sound where
  inSync := by rw [remembers.inSync, remembers.current]
  current entry member := by
    rw [remembers.current]
    exact remembers.above entry.1
      (Table.contains_iff.mpr ⟨entry.1, List.mem_map_of_mem member, BEq.rfl⟩)
  occupied entry member := by
    have found : deduplicator.observed.get? entry.1 = some entry.2 := by
      rw [Window.get?, Table.get?, Table.find?_of_mem member]
      rfl
    have some := remembers.occupied entry.1 entry.2 found
    rwa [Table.isEmpty, List.isEmpty_eq_false_iff, ← List.length_pos_iff, Nat.pos_iff_ne_zero]

/-- The check reads the lowest bucket only, and there stands the generation of a resident. -/
theorem Sound.noAncientResidents (sound : deduplicator.Sound)
    (indexed : deduplicator.observed.Indexed) : deduplicator.noAncientResidents = true := by
  unfold Deduplicator.noAncientResidents
  split
  · rfl
  · rename_i lowest found
    have named : lowest ∈ deduplicator.observed.buckets.keys := List.min?_mem found
    obtain ⟨descriptor, stored, rfl⟩ := indexed.mem_bucket_keys.mp named
    obtain ⟨entry, member, rfl⟩ := List.mem_map.mp stored
    exact decide_eq_true (sound.current entry member)

theorem Sound.checkInvariants (sound : deduplicator.Sound)
    (indexed : deduplicator.observed.Indexed) : deduplicator.checkInvariants = .ok () := by
  have sets : deduplicator.noEmptySignatureSets = true :=
    List.all_eq_true.mpr fun entry member => by rw [sound.occupied entry member]; rfl
  have floor : deduplicator.floorInSync = true := beq_iff_eq.mpr sound.inSync
  rw [Deduplicator.checkInvariants, sound.noAncientResidents indexed, sets, floor]
  rfl

theorem Sound.update_allowed (sound : deduplicator.Sound) {event : GossipEvent}
    (coherent : event.Coherent) (passed : deduplicator.threshold ≤ event.generation) {R : Type}
    (change : ValueSet Signature → R × ValueSet Signature) :
    ∃ done, deduplicator.observed.update event.descriptor change = .ok done := by
  have notBelow : ¬ Sequenced.sequence event.descriptor < deduplicator.observed.floor := by
    rw [sound.inSync]
    rw [coherent] at passed
    exact UInt64.not_lt.mpr passed
  exact ⟨_, Window.update_allowed notBelow change⟩

end Deduplicator

def Notice.isError (notice : Notice) : Bool := notice.level = .error

theorem Notice.message_eq_rejected_iff {notice : Notice} :
    notice.message = "descriptor rejected by window" ↔
      ∃ descriptor error, notice = .descriptorRejected descriptor error := by
  cases notice <;> simp [message]

namespace Deduplicator

variable {deduplicator : Deduplicator} {threshold : UInt64}
  {handled : Descriptor → Signature → Prop}

theorem Remembers.errors_classify (remembers : deduplicator.Remembers threshold handled)
    {event : GossipEvent} (coherent : event.Coherent) :
    (deduplicator.classify event).2.2.filter Notice.isError = [] := by
  unfold Deduplicator.classify
  split
  · rfl
  · rename_i passed
    obtain ⟨done, taken⟩ :=
      remembers.sound.update_allowed coherent (UInt64.not_lt.mp passed) (sight event.signature)
    rw [taken]
    dsimp only
    split
    · rfl
    · split <;> rfl

theorem Remembers.errors_refused (remembers : deduplicator.Remembers threshold handled)
    {generation : UInt64} (below : generation < threshold) :
    (deduplicator.advance generation).2.2.filter Notice.isError =
      [.advanceRefused threshold generation (.floorRegression threshold generation)] := by
  have refused : deduplicator.observed.shift generation =
      .error (.floorRegression threshold generation) :=
    Window.shift_error_iff.mpr ⟨by rw [remembers.inSync]; exact below, by rw [remembers.inSync]⟩
  simp only [advance, refused, remembers.current]
  rfl

theorem errors_allowed {generation : UInt64} {evicted : Nat}
    (allowed : (deduplicator.advance generation).1 = .ok evicted) :
    (deduplicator.advance generation).2.2.filter Notice.isError = [] := by
  unfold advance at allowed ⊢
  split at allowed
  · cases allowed
  · rfl

end Deduplicator

namespace Intake

def errors (intake : Intake) : List Notice := intake.journal.reverse.filter Notice.isError

theorem errors_exitNotices (peer : NodeId) (left : PeerCounter.Exit) :
    (exitNotices peer left).reverse.filter Notice.isError = [] := by
  cases left <;> rfl

theorem errors_classify (intake : Intake) (event : GossipEvent) :
    (intake.classify event).2.errors =
      intake.errors ++ (intake.deduplicator.classify event).2.2.filter Notice.isError := by
  have outcome : Notice.isError (.classified event.descriptor event.sender
      (intake.deduplicator.classify event).1) = false := rfl
  have left : (if (intake.deduplicator.classify event).1.forwards then []
      else exitNotices event.sender (intake.accounting.exit event.sender).1).reverse.filter
        Notice.isError = [] := by
    split
    · rfl
    · exact errors_exitNotices _ _
  rw [errors, journal_classify]
  simp [errors, left, outcome]

theorem errors_advance (intake : Intake) (generation : UInt64) :
    (intake.advance generation).2.errors =
      intake.errors ++ (intake.deduplicator.advance generation).2.2.filter Notice.isError := by
  rw [errors, journal_advance, List.reverse_append, List.reverse_reverse, List.filter_append, errors]

theorem errors_clear (intake : Intake) : intake.clear.errors = intake.errors := by
  rw [errors, journal_clear, List.reverse_cons, List.filter_append, errors]
  exact List.append_nil _

end Intake

def refusalNotice? : Request × Response → Option Notice
  | (.advance _, .advanced (.error (.floorRegression current requested))) =>
    some (.advanceRefused current requested (.floorRegression current requested))
  | _ => none

theorem errors_answer {intake : Intake} {threshold : UInt64}
    {handled : Descriptor → Signature → Prop}
    (remembers : intake.deduplicator.Remembers threshold handled) {request : Request}
    (built : request.Built) :
    (intake.answer request).2.errors =
      intake.errors ++ (refusalNotice? (request, (intake.answer request).1)).toList := by
  cases request with
  | classify event | handle event =>
    have coherent : event.Coherent := (built event rfl).coherent
    exact (Intake.errors_classify intake event).trans
      (congrArg _ (remembers.errors_classify coherent))
  | advance generation =>
    refine (Intake.errors_advance intake generation).trans (congrArg _ ?_)
    rcases UInt64.lt_or_le generation threshold with below | allowed
    · obtain ⟨refused, -⟩ := remembers.advance_refused below
      rw [remembers.errors_refused below]
      simp only [Intake.answer, Intake.advance_fst, refused, refusalNotice?, Option.toList]
    · obtain ⟨evicted, done, -⟩ := remembers.advance_allowed allowed
      rw [Deduplicator.errors_allowed done]
      simp only [Intake.answer, Intake.advance_fst, done, refusalNotice?, Option.toList]
  | clear => exact (Intake.errors_clear intake).trans (List.append_nil _).symm

theorem errors_run (accounting : Accounting) (metrics : Recorder) {past : List Request}
    (built : ∀ request ∈ past, request.Built) :
    ((Intake.new accounting metrics).run past).2.errors =
      ((Intake.new accounting metrics).run past).1.filterMap refusalNotice? := by
  induction past using List.reverseRecOn with
  | nil => rfl
  | append_singleton past request ih =>
    have earlierBuilt : ∀ earlier ∈ past, earlier.Built :=
      fun earlier member => built earlier (List.mem_append_left _ member)
    have remembers := remembers_run accounting metrics earlierBuilt
    rw [Intake.run_concat, errors_answer remembers (built request (by simp)), ih earlierBuilt,
      List.filterMap_append]
    rfl

theorem le_largestThreshold_append (trace later : List (Request × Response)) :
    largestThreshold trace ≤ largestThreshold (trace ++ later) := by
  induction later using List.reverseRecOn with
  | nil => rw [List.append_nil]; exact UInt64.le_refl _
  | append_singleton later step ih =>
    rw [← List.append_assoc, largestThreshold_concat]
    split
    · rename_i generation _
      rcases UInt64.lt_or_le generation (largestThreshold (trace ++ later)) with below | allowed
      · rw [max_of_lt below]
        exact ih
      · rw [max_of_le allowed]
        exact UInt64.le_trans ih allowed
    · exact ih

theorem threshold_le_run (accounting : Accounting) (metrics : Recorder) {past stretch : List Request}
    (built : ∀ request ∈ past ++ stretch, request.Built) :
    let before := ((Intake.new accounting metrics).run past).2
    before.deduplicator.threshold ≤ (before.run stretch).2.deduplicator.threshold := by
  intro before
  have earlier : ∀ request ∈ past, request.Built :=
    fun request member => built request (List.mem_append_left _ member)
  have after := (remembers_run accounting metrics built).current
  rw [(remembers_run accounting metrics earlier).current]
  rw [Intake.run_append] at after
  exact after ▸ le_largestThreshold_append _ _

/-- What the deduplicator checks in debug builds always holds, and what it takes precautions against
    does not happen. -/
theorem invariants_hold (accounting : Accounting) (metrics : Recorder) (past : List Request)
    (built : ∀ request ∈ past, request.Built) :
    let run := (Intake.new accounting metrics).run past
    let deduplicator := run.2.deduplicator
    deduplicator.Sound ∧ deduplicator.checkInvariants = .ok () ∧
      (∀ stretch : List Request, (∀ request ∈ stretch, request.Built) →
        deduplicator.threshold ≤ (run.2.run stretch).2.deduplicator.threshold) ∧
      (∀ generation evicted, (run.2.advance generation).1 = .ok evicted →
        (run.2.advance generation).2.deduplicator.checkInvariants = .ok ()) ∧
      (∀ event : GossipEvent, event.Built → deduplicator.threshold ≤ event.generation →
        ∃ done, deduplicator.observed.update event.descriptor
          (Deduplicator.sight event.signature) = .ok done) ∧
      (∀ notice ∈ run.2.journal, notice.message ≠ "descriptor rejected by window") ∧
      run.2.errors = run.1.filterMap refusalNotice? := by
  intro run deduplicator
  have remembers := remembers_run accounting metrics built
  have errors : run.2.errors = run.1.filterMap refusalNotice? := errors_run accounting metrics built
  refine ⟨remembers.sound, remembers.sound.checkInvariants remembers.indexed, ?_, ?_, ?_, ?_, errors⟩
  · intro stretch stretchBuilt
    refine threshold_le_run accounting metrics fun request member => ?_
    rcases List.mem_append.mp member with earlier | later
    · exact built request earlier
    · exact stretchBuilt request later
  · intro generation evicted _
    -- The state after the advance is that of the run with one more request.
    have longer : ∀ request ∈ past ++ [.advance generation], request.Built := by
      intro request member event isEvent
      rcases List.mem_append.mp member with earlier | last
      · exact built request earlier event isEvent
      · rw [List.mem_singleton.mp last] at isEvent
        cases isEvent
    have after := remembers_run accounting metrics longer
    rw [Intake.run_concat] at after
    exact after.sound.checkInvariants after.indexed
  · intro event eventBuilt passed
    exact remembers.sound.update_allowed eventBuilt.coherent passed _
  · intro notice logged rejected
    obtain ⟨descriptor, error, rfl⟩ := Notice.message_eq_rejected_iff.mp rejected
    have inErrors : .descriptorRejected descriptor error ∈ run.2.errors :=
      List.mem_filter.mpr ⟨List.mem_reverse.mpr logged, rfl⟩
    rw [errors] at inErrors
    obtain ⟨step, -, line⟩ := List.mem_filterMap.mp inErrors
    unfold refusalNotice? at line
    split at line <;> cases line

theorem invariants_hold_refused_advance :
    let early := GossipEvent.ofDescriptor ⟨⟨1⟩, Vector.replicate 32 0, 3⟩ [5] ⟨2⟩
    let late := GossipEvent.ofDescriptor ⟨⟨1⟩, Vector.replicate 32 0, 6⟩ [7] ⟨3⟩
    let past : List Request :=
      [.handle early, .handle late, .advance 6, .handle early, .advance 5, .clear, .handle late]
    let run := (Intake.new .off .silent).run past
    (∀ request ∈ past, request.Built) ∧ run.2.deduplicator.threshold = 6 ∧
      run.2.deduplicator.trackedDescriptors = 1 ∧
      run.2.deduplicator.checkInvariants = .ok () ∧
      run.2.errors = [.advanceRefused 6 5 (.floorRegression 6 5)] := by
  have stated (early late : GossipEvent) (earlyBuilt : early.Built) (lateBuilt : late.Built) :
      let past : List Request :=
        [.handle early, .handle late, .advance 6, .handle early, .advance 5, .clear, .handle late]
      let run := (Intake.new .off .silent).run past
      (∀ request ∈ past, request.Built) ∧ run.2.deduplicator.checkInvariants = .ok () ∧
        run.2.errors = run.1.filterMap refusalNotice? := by
    intro past run
    have built : ∀ request ∈ past, request.Built := by
      simp [past, Request.Built, Request.event?, earlyBuilt, lateBuilt]
    obtain ⟨-, checked, -, -, -, -, errors⟩ := invariants_hold .off .silent past built
    exact ⟨built, checked, errors⟩
  intro early late past run
  obtain ⟨built, checked, errors⟩ := stated early late (.ofDescriptor _ _ _) (.ofDescriptor _ _ _)
  exact ⟨built, by decide, by decide, checked, errors.trans (by decide)⟩

end GossipIntake
