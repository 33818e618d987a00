import GossipIntake.Proofs.Stage.Bare

namespace GossipIntake.Stage

variable {stage next : Stage} {inputCapacity outputCapacity : Nat}

/-- The queues fit their capacities, which are one at least. A permit takes up a slot too. -/
structure Bounded (stage : Stage) (inputCapacity outputCapacity : Nat) : Prop where
  inputSlots : stage.capacity = max inputCapacity 1
  outputSlots : stage.output.capacity = max outputCapacity 1
  input : stage.queue.length + stage.reserved ≤ stage.capacity
  output : stage.output.queue.length ≤ stage.output.capacity

theorem bounded_spawn (intake : Intake) (node : NodeId) (crashAt : Option UInt64) :
    (spawn intake node inputCapacity outputCapacity crashAt).Bounded inputCapacity outputCapacity where
  inputSlots := rfl
  outputSlots := rfl
  input := Nat.zero_le _
  output := Nat.zero_le _

theorem Bounded.fewer (bounded : stage.Bounded inputCapacity outputCapacity)
    (inputSlots : next.capacity = stage.capacity)
    (outputSlots : next.output.capacity = stage.output.capacity)
    (input : next.queue.length + next.reserved ≤ stage.queue.length + stage.reserved)
    (output : next.output.queue.length ≤ stage.output.queue.length) :
    next.Bounded inputCapacity outputCapacity where
  inputSlots := inputSlots.trans bounded.inputSlots
  outputSlots := outputSlots.trans bounded.outputSlots
  input := inputSlots ▸ Nat.le_trans input bounded.input
  output := outputSlots ▸ Nat.le_trans output bounded.output

theorem TaskStep.bounded (step : stage.TaskStep next)
    (bounded : stage.Bounded inputCapacity outputCapacity) :
    next.Bounded inputCapacity outputCapacity := by
  obtain ⟨-, reserved, capacity, shorter⟩ := step.frame
  have input : next.queue.length + next.reserved ≤ stage.queue.length + stage.reserved := by omega
  cases step with
  | crashed | accepted | dropped | advanced | refused | cleared | finished | undelivered | stopped =>
    exact bounded.fewer rfl rfl input (Nat.le_refl _)
  | @abandoned error count head rest draining waiting =>
    have output := output_abandon { stage with queue := rest } error count head
    exact bounded.fewer capacity (congrArg Output.capacity output) input
      (Nat.le_of_eq (congrArg (·.queue.length) output))
  | @put event holding listening room =>
    refine ⟨bounded.inputSlots, bounded.outputSlots, bounded.input, ?_⟩
    rw [Output.push, List.length_append, List.length_singleton]
    exact Nat.succ_le_of_lt (of_decide_eq_true room)

theorem Bounded.release (bounded : stage.Bounded inputCapacity outputCapacity) (input : Input) :
    (stage.release input).Bounded inputCapacity outputCapacity := by
  cases input with
  | event event => exact bounded.fewer rfl rfl (Nat.le_refl _) (Nat.le_refl _)
  | advance | clear => exact bounded

theorem ClientMove.bounded (move : stage.ClientMove next)
    (bounded : stage.Bounded inputCapacity outputCapacity) :
    next.Bounded inputCapacity outputCapacity := by
  cases move with
  | unchanged => exact bounded
  | entered | left | returned | senderHeld | senderDropped | handleDropped | outputClosed =>
    exact bounded.fewer rfl rfl (Nat.le_refl _) (Nat.le_refl _)
  | queued input taking room =>
    refine ⟨bounded.inputSlots, bounded.outputSlots, ?_, bounded.output⟩
    have before : stage.queue.length + stage.reserved < stage.capacity := of_decide_eq_true room
    rw [List.length_append, List.length_singleton, Nat.add_right_comm]
    exact before
  | reserved taking room => exact { bounded with input := of_decide_eq_true room }
  | released input =>
    have erased : { stage with rejected := stage.rejected.erase input }.Bounded inputCapacity
        outputCapacity := bounded.fewer rfl rfl (Nat.le_refl _) (Nat.le_refl _)
    exact erased.release input
  | sent input permit =>
    refine bounded.fewer rfl rfl ?_ (Nat.le_refl _)
    simp only [List.length_append, List.length_singleton]
    omega
  | permitLost permit => exact bounded.fewer rfl rfl (by simp only; omega) (Nat.le_refl _)
  | received waiting =>
    refine bounded.fewer rfl rfl (Nat.le_refl _) ?_
    simp [leave, waiting]
  | outputDropped => exact bounded.fewer rfl rfl (Nat.le_refl _) (Nat.zero_le _)

theorem bounded_perform (bounded : stage.Bounded inputCapacity outputCapacity) (action : Action) :
    (stage.perform action).Bounded inputCapacity outputCapacity := by
  rcases stage.perform_cases action with step | move
  · exact step.bounded bounded
  · exact move.bounded bounded

theorem observe_fst (stage : Stage) (actions : List Action) :
    (stage.observe actions).1 = actions.foldl perform stage :=
  (List.foldl_hom Prod.fst fun _ _ => rfl).symm

theorem bounded_observe (bounded : stage.Bounded inputCapacity outputCapacity)
    (actions : List Action) : (stage.observe actions).1.Bounded inputCapacity outputCapacity := by
  rw [observe_fst]
  exact List.foldlRecOn (motive := fun (reached : Stage) => reached.Bounded inputCapacity outputCapacity)
    actions _ bounded fun _ before action _ => bounded_perform before action

theorem perform_task_of_stuck (stuck : stage.step? = none) : stage.perform .task = stage := by
  rw [perform, after?, stuck]
  rfl

theorem pendingWork_le (stage : Stage) : stage.pendingWork ≤ 2 * stage.queue.length + 2 := by
  unfold pendingWork Phase.work
  split <;> omega

theorem foldl_task_of_stuck (stuck : stage.step? = none) (count : Nat) :
    (List.replicate count Action.task).foldl perform stage = stage := by
  induction count with
  | zero => rfl
  | succ count ih => rw [List.replicate_succ, List.foldl_cons, perform_task_of_stuck stuck, ih]

theorem foldl_task_eq_settle {count : Nat} (enough : stage.pendingWork ≤ count) :
    (List.replicate count Action.task).foldl perform stage = stage.settle := by
  induction stage using settle.induct generalizing count with
  | case1 stage stuck => rw [foldl_task_of_stuck stuck, settle_of_step?_eq_none stuck]
  | case2 stage next done ih =>
    have less := step?_pendingWork done
    obtain ⟨fewer, rfl⟩ : ∃ fewer, count = fewer + 1 := ⟨count - 1, by omega⟩
    have reached : stage.perform .task = next := by
      rw [perform, after?, done]
      rfl
    rw [List.replicate_succ, List.foldl_cons, reached, ih (by omega), settle_of_step?_eq_some done]

theorem full_of_inHand? {event : GossipEvent} (stuck : stage.step? = none)
    (inHand : stage.inHand? = some event) :
    stage.output.consumer = .listening ∧ stage.output.hasRoom = false := by
  rw [step?_holding (phase_of_inHand? inHand)] at stuck
  simpa [Output.isReady] using stuck

theorem queue_eq_nil_of_emptyHanded (orderly : stage.Orderly) (stuck : stage.step? = none)
    (emptyHanded : stage.inHand? = none) : stage.queue = [] := by
  cases ended : stage.hasEnded with
  | true => exact (orderly.ended ended).1
  | false => exact queue_eq_nil_of_stuck stuck ended emptyHanded

theorem Mirrors.length_returned_le {transcript : Transcript} {reference : Intake}
    (mirrors : stage.Mirrors transcript reference) :
    (reference.returned transcript.taken).length ≤ transcript.put.length + 1 := by
  cases inHand : stage.inHand? with
  | none =>
    have output := congrArg List.length mirrors.output
    have one : transcript.undelivered.toList.length ≤ 1 := by
      cases transcript.undelivered <;> simp
    rw [inHand, Option.toList_none, List.append_nil, List.length_append] at output
    omega
  | some event =>
    obtain ⟨-, -, -, output⟩ := mirrors.inHand (phase_of_inHand? inHand)
    have length := congrArg List.length output
    rw [List.length_append, List.length_singleton] at length
    omega

/-- A producer has to wait, by one way into the stage or another. -/
inductive Waits (stage : Stage) : Prop
  | submit (event : GossipEvent) (full : (stage.submit event).1 = .full)
  | advance (generation : UInt64) (full : (stage.submitAdvance generation).1 = .full)
  | clear (full : stage.submitClear.1 = .full)
  | sendRaw (input : Input) (full : (stage.sendRaw input).1 = .full)
  | reserve (full : stage.reserve.1 = .full)

theorem offer_full_iff (stage : Stage) (input : Input) :
    (stage.offer input).1 = .full ↔ stage.accepts = true ∧ stage.hasRoom = false := by
  unfold offer
  by_cases taking : stage.accepts = true
  · by_cases room : stage.hasRoom = true <;> simp [taking, room]
  · simp [taking]

theorem sendRaw_fst (stage : Stage) (input : Input) :
    (stage.sendRaw input).1 = (stage.offer input).1 := by
  unfold sendRaw
  rcases stage.offer_cases input with ⟨-, -, queued⟩ | full | ⟨-, refused⟩
  · rw [queued]
  · rw [full]
  · rw [refused]

theorem waits_iff (stage : Stage) : stage.Waits ↔ stage.accepts = true ∧ stage.hasRoom = false := by
  constructor
  · rintro (⟨event, full⟩ | ⟨generation, full⟩ | ⟨full⟩ | ⟨input, full⟩ | ⟨full⟩)
    · rw [(bare_submit stage event).1] at full
      exact (offer_full_iff stage _).mp full
    · exact (offer_full_iff stage _).mp full
    · exact (offer_full_iff stage _).mp full
    · rw [sendRaw_fst] at full
      exact (offer_full_iff stage _).mp full
    · unfold reserve at full
      split at full
      · split at full
        · cases full
        · rename_i taking room
          exact ⟨taking, Bool.not_eq_true _ ▸ room⟩
      · cases full
  · exact fun full => .clear ((offer_full_iff stage .clear).mpr full)

theorem waits_iff_full (bounded : stage.Bounded inputCapacity outputCapacity)
    (orderly : stage.Orderly) (stuck : stage.step? = none) (unreserved : stage.reserved = 0) :
    stage.Waits ↔
      stage.queue.length = max inputCapacity 1 ∧
        stage.output.queue.length = max outputCapacity 1 ∧ stage.inHand?.isSome = true := by
  obtain ⟨inputSlots, outputSlots, input, output⟩ := bounded
  rw [waits_iff]
  constructor
  · rintro ⟨-, crowded⟩
    have filled : ¬ stage.queue.length + stage.reserved < stage.capacity := of_decide_eq_false crowded
    have several : stage.queue ≠ [] := by
      intro empty
      rw [empty, List.length_nil] at filled
      omega
    cases inHand : stage.inHand? with
    | none => exact absurd (queue_eq_nil_of_emptyHanded orderly stuck inHand) several
    | some event =>
      obtain ⟨-, full⟩ := full_of_inHand? stuck inHand
      have crammed : ¬ stage.output.queue.length < stage.output.capacity := of_decide_eq_false full
      exact ⟨by omega, by omega, rfl⟩
  · rintro ⟨filled, -, inHand⟩
    obtain ⟨event, holding⟩ := Option.isSome_iff_exists.mp inHand
    exact ⟨by rw [accepts, phase_of_inHand? holding], decide_eq_false (by omega)⟩

/-- At every moment the queues fit their capacities and one event at most is in hand. The task comes to
    rest after two steps for each input queued and two more, and it leaves nothing undone then that
    the consumer does not hold up. -/
theorem backpressure_bounded (intake : Intake) (node : NodeId) (inputCapacity outputCapacity : Nat)
    (actions : List Action) :
    let start := spawn intake node inputCapacity outputCapacity none
    let stage := (start.observe actions).1
    let seen := (start.observe actions).2
    let resting := stage.settle
    stage.queue.length + stage.reserved ≤ max inputCapacity 1 ∧
      stage.output.queue.length ≤ max outputCapacity 1 ∧
      (intake.returned seen.taken).length ≤ seen.put.length + 1 ∧
      (∀ count, 2 * stage.queue.length + 2 ≤ count →
        (start.observe (actions ++ List.replicate count .task)).1 = resting) ∧
      resting.step? = none ∧ resting.perform .task = resting ∧ resting.settle = resting ∧
      (∀ event, resting.inHand? = some event →
        resting.output.consumer = .listening ∧
          resting.output.queue.length = max outputCapacity 1) ∧
      (resting.inHand? = none → resting.queue = []) ∧
      (resting.reserved = 0 → (resting.Waits ↔
        resting.queue.length = max inputCapacity 1 ∧
          resting.output.queue.length = max outputCapacity 1 ∧
          resting.inHand?.isSome = true)) := by
  intro start stage seen resting
  have always (run : List Action) : (start.observe run).1.Bounded inputCapacity outputCapacity :=
    bounded_observe (bounded_spawn intake node none) run
  have mirrors (run : List Action) :
      (start.observe run).1.Mirrors (start.observe run).2 intake :=
    mirrors_observe (mirrors_start node inputCapacity outputCapacity rfl) run
  have runs (count : Nat) (enough : 2 * stage.queue.length + 2 ≤ count) :
      (start.observe (actions ++ List.replicate count .task)).1 = resting := by
    rw [observe_fst, List.foldl_append, ← observe_fst start actions]
    exact foldl_task_eq_settle (Nat.le_trans stage.pendingWork_le enough)
  -- The resting stage is reached by a run of actions too, so what holds always holds there.
  have rested := runs _ (Nat.le_refl _)
  have bounded : resting.Bounded inputCapacity outputCapacity := rested ▸ always _
  have orderly : resting.Orderly := rested ▸ (mirrors _).orderly
  have stuck : resting.step? = none := stage.step?_settle
  obtain ⟨inputSlots, outputSlots, input, output⟩ := always actions
  refine ⟨inputSlots ▸ input, outputSlots ▸ output, (mirrors actions).length_returned_le, runs, stuck,
    perform_task_of_stuck stuck, settle_settle stage, ?_,
    queue_eq_nil_of_emptyHanded orderly stuck, waits_iff_full bounded orderly stuck⟩
  · intro event inHand
    obtain ⟨listening, full⟩ := full_of_inHand? stuck inHand
    have crammed : ¬ resting.output.queue.length < resting.output.capacity := of_decide_eq_false full
    have slots := bounded.outputSlots
    have fits := bounded.output
    exact ⟨listening, by omega⟩

theorem backpressure_bounded_single_slots :
    let first := GossipEvent.ofDescriptor ⟨⟨1⟩, Vector.replicate 32 0, 4⟩ [7] ⟨2⟩
    let second := first.withSignature [8]
    let third := first.withSignature [9]
    let start := spawn (Intake.new .off (.tallying {})) ⟨0⟩ 0 0 none
    let actions : List Action := [.submit first, .task, .task, .submit second, .task, .submit third]
    let stage := (start.observe actions).1
    let calm := (start.observe [.submit first]).1
    (start.observe (actions ++ List.replicate 4 .task)).1 = stage.settle ∧
      stage.settle.inHand? = some second ∧ stage.settle.output.queue.length = 1 ∧
      stage.settle.Waits ∧ calm.queue = [.event first] ∧ calm.settle.queue = [] := by
  intro first second third start actions stage calm
  obtain ⟨-, -, -, runs, -, -, -, holding, -, waits⟩ :=
    backpressure_bounded (Intake.new .off (.tallying {})) ⟨0⟩ 0 0 actions
  obtain ⟨-, -, -, -, -, -, -, -, idle, -⟩ :=
    backpressure_bounded (Intake.new .off (.tallying {})) ⟨0⟩ 0 0 [.submit first]
  have enough : 2 * stage.queue.length + 2 ≤ 4 := by decide +kernel
  have inHand : stage.settle.inHand? = some second := by decide +kernel
  have unreserved : stage.settle.reserved = 0 := by decide +kernel
  have filled : stage.settle.queue.length = 1 := by decide +kernel
  have full := (holding second inHand).2
  exact ⟨runs 4 enough, inHand, full, (waits unreserved).mpr ⟨filled, full, by rw [inHand]; rfl⟩,
    by decide +kernel, idle (by decide +kernel)⟩

end GossipIntake.Stage
