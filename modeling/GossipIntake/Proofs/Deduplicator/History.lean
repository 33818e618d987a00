import GossipIntake.Proofs.Deduplicator.Memory
import GossipIntake.Proofs.Deduplicator.Requests
import Mathlib.Data.List.Induction
import Mathlib.Data.List.Nodup

namespace GossipIntake

/-- A threshold that was set: refused advances do not count. -/
def thresholdSet? : Request × Response → Option UInt64
  | (.advance generation, .advanced (.ok _)) => some generation
  | _ => none

def largestThreshold (trace : List (Request × Response)) : UInt64 :=
  (trace.filterMap thresholdSet?).foldl max 0

def HandledSinceClear (past : List Request) (descriptor : Descriptor) (signature : Signature) : Prop :=
  ∃ before request after event, past = before ++ request :: after ∧ request.event? = some event ∧
    event.descriptor = descriptor ∧ event.signature = signature ∧ .clear ∉ after

def letThrough? : Request × Response → Option (Descriptor × Signature)
  | (.classify event, .classified outcome) =>
    if outcome.forwards then some (event.descriptor, event.signature) else none
  | (.handle _, .handled (some event)) => some (event.descriptor, event.signature)
  | _ => none

inductive Fact where
  | seen (signature : Signature)
  | advance (generation : UInt64)
  | clear
deriving DecidableEq

def Fact.absorbedBy (state : UInt64 × List Signature) : Fact → UInt64 × List Signature
  | .seen signature => (state.1, signature :: state.2)
  | .advance generation => (max state.1 generation, state.2)
  | .clear => (state.1, [])

def digest (facts : List Fact) : UInt64 × List Signature :=
  facts.foldl (fun state fact => fact.absorbedBy state) (0, [])

def Request.factAbout (descriptor : Descriptor) : Request → Option Fact
  | .classify event | .handle event =>
    if event.descriptor = descriptor then some (.seen event.signature) else none
  | .advance generation => some (.advance generation)
  | .clear => some .clear

theorem max_of_le {a b : UInt64} (ordered : a ≤ b) : max a b = b := by
  show (if a ≤ b then b else a) = b
  rw [if_pos ordered]

theorem max_of_lt {a b : UInt64} (reversed : b < a) : max a b = a := by
  show (if a ≤ b then b else a) = a
  rw [if_neg (UInt64.not_le.mpr reversed)]

theorem handledSinceClear_concat {past : List Request} {request : Request}
    {descriptor : Descriptor} {signature : Signature} :
    HandledSinceClear (past ++ [request]) descriptor signature ↔
      (∃ event, request.event? = some event ∧ event.descriptor = descriptor ∧
        event.signature = signature) ∨
      (request ≠ .clear ∧ HandledSinceClear past descriptor signature) := by
  constructor
  · rintro ⟨before, found, after, event, split, isEvent, same, signed, unclear⟩
    rcases List.eq_nil_or_concat after with rfl | ⟨rest, last, rfl⟩
    · obtain ⟨-, equal⟩ := List.append_inj' split rfl
      cases equal
      exact .inl ⟨event, isEvent, same, signed⟩
    · rw [List.concat_eq_append] at split unclear
      have regrouped : past ++ [request] = (before ++ found :: rest) ++ [last] := by
        rw [split, List.append_assoc, List.cons_append]
      obtain ⟨front, equal⟩ := List.append_inj' regrouped rfl
      cases equal
      refine .inr ⟨?_, before, found, rest, event, front, isEvent, same, signed, ?_⟩
      · rintro rfl
        exact unclear (by simp)
      · exact fun inside => unclear (List.mem_append_left _ inside)
  · rintro (⟨event, isEvent, same, signed⟩ | ⟨notClear, before, found, after, event, split, isEvent,
      same, signed, unclear⟩)
    · exact ⟨past, request, [], event, rfl, isEvent, same, signed, by simp⟩
    · refine ⟨before, found, after ++ [request], event, ?_, isEvent, same, signed, ?_⟩
      · rw [split, List.append_assoc, List.cons_append]
      · rw [List.mem_append, List.mem_singleton, not_or]
        exact ⟨unclear, Ne.symm notClear⟩

theorem largestThreshold_concat (trace : List (Request × Response)) (step : Request × Response) :
    largestThreshold (trace ++ [step]) =
      match thresholdSet? step with
      | some generation => max (largestThreshold trace) generation
      | none => largestThreshold trace := by
  rw [largestThreshold, List.filterMap_append, List.foldl_append]
  cases set : thresholdSet? step <;> simp [set, largestThreshold]

theorem remembers_run (accounting : Accounting) (metrics : Recorder) {past : List Request}
    (built : ∀ request ∈ past, request.Built) :
    ((Intake.new accounting metrics).run past).2.deduplicator.Remembers
      (largestThreshold ((Intake.new accounting metrics).run past).1) (HandledSinceClear past) := by
  induction past using List.reverseRecOn with
  | nil =>
    refine Deduplicator.remembers_new.congr fun descriptor signature => ⟨False.elim, ?_⟩
    rintro ⟨before, request, after, event, split, -⟩
    simp at split
  | append_singleton past request ih =>
    have before := ih fun earlier member => built earlier (List.mem_append_left _ member)
    have requestBuilt := built request (by simp)
    rw [Intake.run_concat, largestThreshold_concat]
    generalize (Intake.new accounting metrics).run past = run at before ⊢
    -- Both ways to hand in an event leave the same deduplicator.
    have afterEvent : ∀ event, request.event? = some event →
        (run.2.deduplicator.classify event).2.1.Remembers (largestThreshold run.1)
          (HandledSinceClear (past ++ [request])) := by
      intro event isEvent
      have coherent := (requestBuilt event isEvent).coherent
      refine (before.classify coherent).2.congr fun descriptor signature => ?_
      rw [handledSinceClear_concat, isEvent]
      cases request <;> cases isEvent <;> simp [eq_comm]
    cases request with
    | classify event => simpa [Intake.answer, thresholdSet?] using afterEvent event rfl
    | handle event => simpa [Intake.answer, thresholdSet?, Intake.handle_snd] using afterEvent event rfl
    | advance generation =>
      have unchanged : ∀ descriptor signature, HandledSinceClear past descriptor signature ↔
          HandledSinceClear (past ++ [.advance generation]) descriptor signature := by
        intro descriptor signature
        rw [handledSinceClear_concat]
        simp [Request.event?]
      rcases UInt64.lt_or_le generation (largestThreshold run.1) with below | allowed
      · obtain ⟨refused, same⟩ := before.advance_refused below
        simpa [Intake.answer, thresholdSet?, Intake.advance_fst, refused, same] using
          before.congr unchanged
      · obtain ⟨evicted, done, after⟩ := before.advance_allowed allowed
        have larger : max (largestThreshold run.1) generation = generation := max_of_le allowed
        simpa [Intake.answer, thresholdSet?, Intake.advance_fst, done, larger] using
          after.congr unchanged
    | clear =>
      have forgotten : ∀ descriptor signature, False ↔
          HandledSinceClear (past ++ [.clear]) descriptor signature := by
        intro descriptor signature
        rw [handledSinceClear_concat]
        simp [Request.event?]
      simpa [Intake.answer, thresholdSet?] using before.clear.congr forgotten

theorem digest_concat (descriptor : Descriptor) (past : List Request) (request : Request) :
    digest ((past ++ [request]).filterMap (·.factAbout descriptor)) =
      match request.factAbout descriptor with
      | some fact => fact.absorbedBy (digest (past.filterMap (·.factAbout descriptor)))
      | none => digest (past.filterMap (·.factAbout descriptor)) := by
  rw [List.filterMap_append, digest, List.foldl_append, ← digest]
  cases about : request.factAbout descriptor <;> simp [about]

/-- A refused advance asks for less than is set already, so the largest threshold set is the largest
    asked for. -/
theorem digest_facts (accounting : Accounting) (metrics : Recorder) (descriptor : Descriptor)
    {past : List Request} (built : ∀ request ∈ past, request.Built) :
    (digest (past.filterMap (·.factAbout descriptor))).1 =
        largestThreshold ((Intake.new accounting metrics).run past).1 ∧
      ∀ signature, signature ∈ (digest (past.filterMap (·.factAbout descriptor))).2 ↔
        HandledSinceClear past descriptor signature := by
  induction past using List.reverseRecOn with
  | nil =>
    refine ⟨rfl, fun signature => ⟨fun absurd => (by cases absurd), ?_⟩⟩
    rintro ⟨before, request, after, event, split, -⟩
    simp at split
  | append_singleton past request ih =>
    have earlierBuilt : ∀ earlier ∈ past, earlier.Built :=
      fun earlier member => built earlier (List.mem_append_left _ member)
    obtain ⟨threshold, seen⟩ := ih earlierBuilt
    have before := remembers_run accounting metrics earlierBuilt
    simp only [digest_concat, Intake.run_concat, largestThreshold_concat, handledSinceClear_concat,
      ← seen]
    generalize digest (past.filterMap (·.factAbout descriptor)) = state at threshold ⊢
    generalize (Intake.new accounting metrics).run past = run at before threshold ⊢
    cases request with
    | classify event | handle event =>
      by_cases same : event.descriptor = descriptor
      · simp [Request.factAbout, Request.event?, thresholdSet?, same, threshold, Fact.absorbedBy,
          eq_comm]
      · simp [Request.factAbout, Request.event?, thresholdSet?, same, threshold]
    | advance generation =>
      rcases UInt64.lt_or_le generation (largestThreshold run.1) with below | allowed
      · obtain ⟨refused, -⟩ := before.advance_refused below
        simp [Request.factAbout, Request.event?, thresholdSet?, Intake.answer, Intake.advance_fst,
          refused, threshold, max_of_lt below, Fact.absorbedBy]
      · obtain ⟨evicted, done, -⟩ := before.advance_allowed allowed
        simp [Request.factAbout, Request.event?, thresholdSet?, Intake.answer, Intake.advance_fst,
          done, threshold, Fact.absorbedBy]
    | clear => simp [Request.factAbout, Request.event?, thresholdSet?, threshold, Fact.absorbedBy]

/-- How a threshold and the signatures seen of a descriptor decide the outcome. -/
structure Outcome.DecidedBy (outcome : Outcome) (threshold : UInt64) (seen : Signature → Prop)
    (event : GossipEvent) : Prop where
  ancient : outcome = .ancient ↔ event.descriptor.generation < threshold
  duplicate : outcome = .duplicate ↔
    threshold ≤ event.descriptor.generation ∧ seen event.signature
  disparate : outcome = .disparateSignature ↔
    threshold ≤ event.descriptor.generation ∧ ¬ seen event.signature ∧ ∃ other, seen other
  accepted : outcome = .accepted ↔
    threshold ≤ event.descriptor.generation ∧ ∀ other, ¬ seen other

theorem decidedBy_outcomeAmong {deduplicator : Deduplicator} {threshold : UInt64}
    {handled : Descriptor → Signature → Prop}
    (remembers : deduplicator.Remembers threshold handled) {event : GossipEvent}
    (coherent : event.Coherent) :
    (deduplicator.classify event).1.DecidedBy threshold (handled event.descriptor) event := by
  rw [(remembers.classify coherent).1]
  rcases UInt64.lt_or_le event.descriptor.generation threshold with below | current
  · rw [if_pos below]
    have notCurrent := UInt64.not_le.mpr below
    constructor <;> simp [below, notCurrent]
  · have notBelow := UInt64.not_lt.mpr current
    rw [if_neg notBelow]
    have known := remembers.known event.descriptor event.signature current
    have unseen := remembers.size_eq_zero_iff current
    unfold Deduplicator.outcomeAmong
    by_cases seen : handled event.descriptor event.signature
    · rw [if_pos (known.mpr seen)]
      have some : ¬ ∀ other, ¬ handled event.descriptor other := fun none => none _ seen
      constructor <;> simp_all
    · rw [if_neg (fun found => seen (known.mp found))]
      by_cases none : ∀ other, ¬ handled event.descriptor other
      · rw [if_pos (unseen.mpr none)]
        constructor <;> simp_all
      · rw [if_neg (fun zero => none (unseen.mp zero))]
        have some : ∃ other, handled event.descriptor other := by simpa using none
        constructor <;> simp_all

theorem Outcome.DecidedBy.unique {a b : Outcome} {threshold : UInt64} {seen : Signature → Prop}
    {event : GossipEvent} (left : a.DecidedBy threshold seen event)
    (right : b.DecidedBy threshold seen event) : a = b := by
  cases a
  · exact (right.accepted.mpr (left.accepted.mp rfl)).symm
  · exact (right.disparate.mpr (left.disparate.mp rfl)).symm
  · exact (right.duplicate.mpr (left.duplicate.mp rfl)).symm
  · exact (right.ancient.mpr (left.ancient.mp rfl)).symm

theorem Outcome.DecidedBy.congr {outcome : Outcome} {threshold : UInt64}
    {seen other : Signature → Prop} {event copy : GossipEvent}
    (decided : outcome.DecidedBy threshold seen event)
    (sameSeen : ∀ signature, seen signature ↔ other signature)
    (sameDescriptor : event.descriptor = copy.descriptor)
    (sameSignature : event.signature = copy.signature) :
    outcome.DecidedBy threshold other copy := by
  have equal : seen = other := funext fun signature => propext (sameSeen signature)
  obtain ⟨ancient, duplicate, disparate, accepted⟩ := decided
  rw [equal, sameDescriptor] at accepted disparate
  rw [equal, sameDescriptor, sameSignature] at duplicate
  rw [sameDescriptor] at ancient
  rw [sameSignature] at disparate
  exact ⟨ancient, duplicate, disparate, accepted⟩

theorem Outcome.forwards_iff (outcome : Outcome) :
    outcome.forwards = true ↔ outcome = .disparateSignature ∨ outcome = .accepted := by
  cases outcome <;> simp [forwards]

theorem decidedBy_history (accounting : Accounting) (metrics : Recorder) {past : List Request}
    (built : ∀ request ∈ past, request.Built) {event : GossipEvent} (eventBuilt : event.Built) :
    (((Intake.new accounting metrics).run past).2.classify event).1.DecidedBy
      (largestThreshold ((Intake.new accounting metrics).run past).1)
      (HandledSinceClear past event.descriptor) event := by
  rw [Intake.classify_fst]
  exact decidedBy_outcomeAmong (remembers_run accounting metrics built) eventBuilt.coherent

theorem same_outcome (accounting otherAccounting : Accounting) (metrics otherMetrics : Recorder)
    {past otherPast : List Request} (built : ∀ request ∈ past, request.Built)
    (otherBuilt : ∀ request ∈ otherPast, request.Built) {event copy : GossipEvent}
    (eventBuilt : event.Built) (copyBuilt : copy.Built)
    (sameDescriptor : event.descriptor = copy.descriptor)
    (sameSignature : event.signature = copy.signature)
    (sameFacts : past.filterMap (·.factAbout event.descriptor) =
      otherPast.filterMap (·.factAbout event.descriptor)) :
    (((Intake.new accounting metrics).run past).2.classify event).1 =
      (((Intake.new otherAccounting otherMetrics).run otherPast).2.classify copy).1 := by
  have left := decidedBy_history accounting metrics built eventBuilt
  have right := decidedBy_history otherAccounting otherMetrics otherBuilt copyBuilt
  obtain ⟨threshold, seen⟩ := digest_facts accounting metrics event.descriptor built
  obtain ⟨otherThreshold, otherSeen⟩ :=
    digest_facts otherAccounting otherMetrics event.descriptor otherBuilt
  rw [sameFacts] at threshold seen
  rw [← threshold] at left
  rw [← otherThreshold, ← sameDescriptor] at right
  refine left.unique (right.congr (fun signature => ?_) sameDescriptor.symm sameSignature.symm)
  rw [← otherSeen, seen]

theorem letThrough?_answer (intake : Intake) (request : Request) :
    letThrough? (request, (intake.answer request).1) =
      request.event?.bind fun event =>
        if (intake.classify event).1.forwards then some (event.descriptor, event.signature)
        else none := by
  cases request with
  | classify event => rfl
  | handle event =>
    by_cases forwards : (intake.deduplicator.classify event).1.forwards = true
    · simp [Intake.answer, letThrough?, Request.event?, Intake.handle_fst, Intake.classify_fst, forwards]
    · simp [Intake.answer, letThrough?, Request.event?, Intake.handle_fst, Intake.classify_fst, forwards]
  | advance generation => rfl
  | clear => rfl

theorem letThrough?_eq_some {intake : Intake} {request : Request} {pair : Descriptor × Signature}
    (through : letThrough? (request, (intake.answer request).1) = some pair) :
    ∃ event, request.event? = some event ∧ (intake.classify event).1.forwards = true ∧
      pair = (event.descriptor, event.signature) := by
  rw [letThrough?_answer] at through
  obtain ⟨event, isEvent, chosen⟩ := Option.bind_eq_some_iff.mp through
  split at chosen
  · rename_i forwards
    exact ⟨event, isEvent, forwards, (Option.some.inj chosen).symm⟩
  · cases chosen

theorem not_handled_of_forwards {accounting : Accounting} {metrics : Recorder} {past : List Request}
    (built : ∀ request ∈ past, request.Built) {event : GossipEvent} (eventBuilt : event.Built)
    (forwards :
      (((Intake.new accounting metrics).run past).2.classify event).1.forwards = true) :
    ¬ HandledSinceClear past event.descriptor event.signature := by
  have decided := decidedBy_history accounting metrics built eventBuilt
  rcases (Outcome.forwards_iff _).mp forwards with disparate | accepted
  · exact (decided.disparate.mp disparate).2.1
  · exact (decided.accepted.mp accepted).2 event.signature

theorem letThrough_nodup (accounting : Accounting) (metrics : Recorder) {past stretch : List Request}
    (built : ∀ request ∈ past ++ stretch, request.Built) (unclear : .clear ∉ stretch) :
    let through := (((Intake.new accounting metrics).run past).2.run stretch).1.filterMap letThrough?
    through.Nodup ∧ ∀ pair ∈ through, HandledSinceClear (past ++ stretch) pair.1 pair.2 := by
  induction stretch using List.reverseRecOn with
  | nil => exact ⟨List.nodup_nil, fun pair member => (by cases member)⟩
  | append_singleton stretch request ih =>
    rw [← List.append_assoc] at built ⊢
    have earlierBuilt : ∀ earlier ∈ past ++ stretch, earlier.Built :=
      fun earlier member => built earlier (List.mem_append_left _ member)
    have notClear : request ≠ .clear := by
      rintro rfl
      exact unclear (by simp)
    obtain ⟨distinct, handled⟩ :=
      ih earlierBuilt fun inside => unclear (List.mem_append_left _ inside)
    have reached : (((Intake.new accounting metrics).run past).2.run stretch).2 =
        ((Intake.new accounting metrics).run (past ++ stretch)).2 := by
      rw [Intake.run_append]
    have kept : ∀ pair ∈ (((Intake.new accounting metrics).run past).2.run stretch).1.filterMap
        letThrough?, HandledSinceClear (past ++ stretch ++ [request]) pair.1 pair.2 :=
      fun pair member => handledSinceClear_concat.mpr (.inr ⟨notClear, handled pair member⟩)
    simp only [Intake.run_concat, List.filterMap_append, reached, List.filterMap_cons,
      List.filterMap_nil]
    cases through : letThrough? (request, (((Intake.new accounting metrics).run
        (past ++ stretch)).2.answer request).1) with
    | none =>
      simp only [List.append_nil]
      exact ⟨distinct, kept⟩
    | some pair =>
      obtain ⟨event, isEvent, forwards, rfl⟩ := letThrough?_eq_some through
      have eventBuilt : event.Built := built request (by simp) event isEvent
      have unseen := not_handled_of_forwards earlierBuilt eventBuilt forwards
      -- What goes through now was not handled since the clear, unlike all that went through earlier.
      constructor
      · refine List.nodup_append.mpr ⟨distinct, List.nodup_singleton _, ?_⟩
        rintro pair member _ last rfl
        rw [List.mem_singleton] at last
        subst last
        exact unseen (handled _ member)
      · intro pair member
        rcases List.mem_append.mp member with earlier | last
        · exact kept pair earlier
        · rw [List.mem_singleton] at last
          subst last
          exact handledSinceClear_concat.mpr (.inl ⟨event, isEvent, rfl, rfl⟩)

/-- The past of a descriptor decides the outcome, and nothing else does. -/
theorem classified_by_history (accounting : Accounting) (metrics : Recorder) (past : List Request)
    (event : GossipEvent) (built : ∀ request ∈ past, request.Built) (eventBuilt : event.Built) :
    let run := (Intake.new accounting metrics).run past
    let outcome := (run.2.classify event).1
    outcome.DecidedBy (largestThreshold run.1) (HandledSinceClear past event.descriptor) event ∧
      (run.2.handle event).1 =
        (if outcome = .disparateSignature ∨ outcome = .accepted then some event else none) ∧
      (∀ (otherAccounting : Accounting) (otherMetrics : Recorder) (otherPast : List Request)
          (copy : GossipEvent), (∀ request ∈ otherPast, request.Built) → copy.Built →
        event.descriptor = copy.descriptor → event.signature = copy.signature →
        past.filterMap (·.factAbout event.descriptor) =
          otherPast.filterMap (·.factAbout event.descriptor) →
        outcome = (((Intake.new otherAccounting otherMetrics).run otherPast).2.classify copy).1) ∧
      ∀ stretch : List Request, (∀ request ∈ stretch, request.Built) → .clear ∉ stretch →
        ((run.2.run stretch).1.filterMap letThrough?).Nodup := by
  refine ⟨decidedBy_history accounting metrics built eventBuilt, ?_, ?_, ?_⟩
  · rw [Intake.handle_fst, Intake.classify_fst]
    simp only [Outcome.forwards_iff]
  · intro otherAccounting otherMetrics otherPast copy otherBuilt copyBuilt sameDescriptor sameSignature
      sameFacts
    exact same_outcome accounting otherAccounting metrics otherMetrics built otherBuilt eventBuilt
      copyBuilt sameDescriptor sameSignature sameFacts
  · intro stretch stretchBuilt unclear
    have allBuilt : ∀ request ∈ past ++ stretch, request.Built := by
      intro request member
      rcases List.mem_append.mp member with earlier | later
      · exact built request earlier
      · exact stretchBuilt request later
    exact (letThrough_nodup accounting metrics allBuilt unclear).1

theorem classified_by_history_second_signature :
    let descriptor : Descriptor := ⟨⟨1⟩, Vector.replicate 32 0, 4⟩
    let first := GossipEvent.ofDescriptor descriptor [7] ⟨2⟩
    let second := (first.relayedBy ⟨3⟩).withSignature [8]
    let run := (Intake.new .off .silent).run [.handle first, .advance 4, .advance 3]
    first.Built ∧ second.Built ∧ (run.2.classify second).1 = .disparateSignature ∧
      (run.2.handle second).1 = some second ∧
      ((run.2.run [.handle second, .handle first, .classify second]).1.filterMap letThrough?) =
        [(descriptor, [8])] ∧
      ((run.2.run [.handle second, .handle first, .classify second]).1.filterMap
        letThrough?).Nodup := by
  intro descriptor first second run
  have firstBuilt : first.Built := .ofDescriptor _ _ _
  have secondBuilt : second.Built := .withSignature (.relayedBy firstBuilt _) _
  have built : ∀ request ∈ [Request.handle first, .advance 4, .advance 3], request.Built := by
    intro request member event isEvent
    simp only [List.mem_cons, List.not_mem_nil, or_false] at member
    rcases member with rfl | rfl | rfl <;> cases isEvent
    exact firstBuilt
  have stretchBuilt : ∀ request ∈ [Request.handle second, .handle first, .classify second],
      request.Built := by
    intro request member event isEvent
    simp only [List.mem_cons, List.not_mem_nil, or_false] at member
    rcases member with rfl | rfl | rfl <;> cases isEvent
    · exact secondBuilt
    · exact firstBuilt
    · exact secondBuilt
  obtain ⟨-, forwarded, -, once⟩ := classified_by_history .off .silent _ second built secondBuilt
  refine ⟨firstBuilt, secondBuilt, by decide, ?_, by decide, once _ stretchBuilt (by decide)⟩
  rw [forwarded]
  decide

end GossipIntake
