import GossipIntake.Proofs.Intake
import GossipIntake.Proofs.Table

namespace GossipIntake

def sentBy (peer : NodeId) (events : List GossipEvent) : Nat := events.countP (·.sender = peer)

@[simp]
theorem sentBy_nil (peer : NodeId) : sentBy peer [] = 0 := rfl

@[simp]
theorem sentBy_append (peer : NodeId) (some more : List GossipEvent) :
    sentBy peer (some ++ more) = sentBy peer some + sentBy peer more := List.countP_append

@[simp]
theorem sentBy_cons (peer : NodeId) (event : GossipEvent) (events : List GossipEvent) :
    sentBy peer (event :: events) = sentBy peer events + if event.sender = peer then 1 else 0 := by
  simp [sentBy, List.countP_cons]

theorem sentBy_erase (peer : NodeId) {event : GossipEvent} {events : List GossipEvent}
    (member : event ∈ events) :
    sentBy peer events =
      sentBy peer (events.erase event) + if event.sender = peer then 1 else 0 := by
  rw [← sentBy_cons]
  exact (List.perm_cons_erase member).countP_eq _

theorem toNat_add_one {n : UInt64} (room : n.toNat + 1 < UInt64.size) :
    (n + 1).toNat = n.toNat + 1 := by
  rw [UInt64.toNat_add]
  exact Nat.mod_eq_of_lt room

namespace PeerCounter

theorem inFlight_upsert (counter : PeerCounter) (peer other : NodeId) (f : UInt64 → UInt64) :
    inFlight { counts := counter.counts.upsert peer 0 f } other =
      if peer = other then f (counter.inFlight other) else counter.inFlight other := by
  rw [inFlight, Table.get?_upsert]
  by_cases same : peer = other
  · subst same
    simp [inFlight]
  · simp [inFlight, same]

theorem inFlight_enterRegistering (counter : PeerCounter) (peer other : NodeId) :
    (counter.enterRegistering peer).inFlight other =
      if peer = other then counter.inFlight other + 1 else counter.inFlight other :=
  counter.inFlight_upsert peer other (· + 1)

theorem enterRegistering_of_known {counter : PeerCounter} {peer : NodeId}
    (known : counter.counts.contains peer = true) :
    counter.enterRegistering peer = counter.enterKnown peer := by
  rw [enterRegistering, enterKnown, Table.upsert, dif_neg (by simp [known])]

theorem enter_eq_enterRegistering (counter : PeerCounter) (peer : NodeId) :
    counter.enter peer = counter.enterRegistering peer := by
  unfold enter
  split
  · rename_i known
    exact (enterRegistering_of_known known).symm
  · rfl

theorem inFlight_enter (counter : PeerCounter) (peer other : NodeId) :
    (counter.enter peer).inFlight other =
      if peer = other then counter.inFlight other + 1 else counter.inFlight other := by
  rw [enter_eq_enterRegistering, inFlight_enterRegistering]

theorem exit_of_inFlight_ne_zero {counter : PeerCounter} {peer : NodeId}
    (some : counter.inFlight peer ≠ 0) :
    counter.exit peer = (.counted, { counts := counter.counts.modify peer (· - 1) }) := by
  unfold inFlight at some
  unfold exit
  cases found : counter.counts.get? peer with
  | none =>
    rw [found] at some
    exact absurd rfl some
  | some count =>
    rw [found, Option.getD_some] at some
    simp only [if_neg some]

theorem exit_of_inFlight_eq_zero {counter : PeerCounter} {peer : NodeId}
    (none : counter.inFlight peer = 0) :
    counter.exit peer = (if counter.counts.contains peer then .idle else .unknown, counter) := by
  unfold inFlight at none
  unfold exit
  rw [Table.contains_eq_isSome_get?]
  cases found : counter.counts.get? peer with
  | none => rfl
  | some count =>
    rw [found, Option.getD_some] at none
    simp [none]

theorem inFlight_of_unknown {counter : PeerCounter} {peer : NodeId}
    (unknown : counter.counts.contains peer = false) : counter.inFlight peer = 0 := by
  rw [inFlight, Table.get?_eq_none.mpr unknown, Option.getD_none]

theorem inFlight_exit {counter : PeerCounter} {peer : NodeId} (some : counter.inFlight peer ≠ 0)
    (other : NodeId) :
    (counter.exit peer).2.inFlight other =
      if peer = other then counter.inFlight other - 1 else counter.inFlight other := by
  rw [exit_of_inFlight_ne_zero some, inFlight, Table.get?_modify]
  by_cases same : peer = other
  · subst same
    unfold inFlight at some
    cases found : counter.counts.get? peer with
    | none =>
      rw [found] at some
      exact absurd rfl some
    | some count => simp [inFlight, found]
  · simp [inFlight, same]

theorem toNat_inFlight_enter {counter : PeerCounter} {peer : NodeId}
    (room : (counter.inFlight peer).toNat + 1 < UInt64.size) (other : NodeId) :
    ((counter.enter peer).inFlight other).toNat =
      (counter.inFlight other).toNat + if peer = other then 1 else 0 := by
  rw [inFlight_enter]
  by_cases same : peer = other
  · subst same
    rw [if_pos rfl, if_pos rfl, toNat_add_one room]
  · rw [if_neg same, if_neg same, Nat.add_zero]

theorem toNat_inFlight_exit {counter : PeerCounter} {peer : NodeId}
    (some : counter.inFlight peer ≠ 0) (other : NodeId) :
    (counter.inFlight other).toNat =
      ((counter.exit peer).2.inFlight other).toNat + if peer = other then 1 else 0 := by
  rw [inFlight_exit some]
  by_cases same : peer = other
  · subst same
    have positive : (counter.inFlight peer).toNat ≠ 0 := fun zero => some (UInt64.toNat_inj.mp zero)
    have atLeast : (1 : UInt64) ≤ counter.inFlight peer := by
      refine UInt64.le_iff_toNat_le.mpr ?_
      show 1 ≤ (counter.inFlight peer).toNat
      omega
    have one : (1 : UInt64).toNat = 1 := rfl
    rw [if_pos rfl, if_pos rfl, UInt64.toNat_sub_of_le _ _ atLeast, one]
    omega
  · rw [if_neg same, if_neg same, Nat.add_zero]

theorem inFlight_enter_ne_zero {counter : PeerCounter} {peer : NodeId}
    (room : (counter.inFlight peer).toNat + 1 < UInt64.size) :
    (counter.enter peer).inFlight peer ≠ 0 := by
  intro zero
  have entered := toNat_inFlight_enter room peer
  rw [zero, if_pos rfl] at entered
  exact absurd entered (Nat.succ_ne_zero _).symm

theorem toNat_inFlight_enter_exit {counter : PeerCounter} {peer : NodeId}
    (room : (counter.inFlight peer).toNat + 1 < UInt64.size) (other : NodeId) :
    (((counter.enter peer).exit peer).2.inFlight other).toNat = (counter.inFlight other).toNat := by
  have entered := toNat_inFlight_enter room other
  have left := toNat_inFlight_exit (inFlight_enter_ne_zero room) other
  omega

end PeerCounter

inductive CounterCall where
  | enter (peer : NodeId)
  | exit (peer : NodeId)
  | reset
deriving DecidableEq

def PeerCounter.answer (counter : PeerCounter) : CounterCall → List Notice × PeerCounter
  | .enter peer => ([], counter.enter peer)
  | .exit peer => (Intake.exitNotices peer (counter.exit peer).1, (counter.exit peer).2)
  | .reset => ([], counter.reset)

/-- Whether the notice tells of an exit that found nothing to count out. -/
def Notice.isIdleExit : Notice → Bool
  | .unknownPeerExit _ | .idlePeerExit _ => true
  | _ => false

namespace Deduplicator

theorem isIdleExit_classify (deduplicator : Deduplicator) (event : GossipEvent) :
    ∀ notice ∈ (deduplicator.classify event).2.2, notice.isIdleExit = false := by
  unfold classify
  split
  · simp
  · split
    · simp [Notice.isIdleExit]
    · dsimp only
      split
      · simp
      · split <;> simp [Notice.isIdleExit]

theorem isIdleExit_advance (deduplicator : Deduplicator) (generation : UInt64) :
    ∀ notice ∈ (deduplicator.advance generation).2.2, notice.isIdleExit = false := by
  unfold advance
  split <;> simp [Notice.isIdleExit, Notice.ofShift]

end Deduplicator

namespace Intake

def idleExits (intake : Intake) : List Notice := intake.journal.filter Notice.isIdleExit

theorem idleExits_log (intake : Intake) {notice : Notice} (harmless : notice.isIdleExit = false) :
    (intake.log notice).idleExits = intake.idleExits := by
  simp [idleExits, log, harmless]

theorem idleExits_logAll (intake : Intake) {notices : List Notice}
    (harmless : ∀ notice ∈ notices, notice.isIdleExit = false) :
    (intake.logAll notices).idleExits = intake.idleExits := by
  have nothing : notices.reverse.filter Notice.isIdleExit = [] :=
    List.filter_eq_nil_iff.mpr fun notice member =>
      Bool.eq_false_iff.mp (harmless notice (List.mem_reverse.mp member))
  rw [idleExits, journal_logAll, List.filter_append, nothing, List.nil_append, idleExits]

theorem idleExits_exit {intake : Intake} {peer : NodeId}
    (counted : (intake.accounting.exit peer).1 = .counted) :
    (intake.exit peer).idleExits = intake.idleExits := by
  rw [idleExits, journal_exit, counted]
  rfl

theorem idleExits_classify {intake : Intake} {event : GossipEvent}
    (counted : (intake.classify event).1.forwards = true ∨
      (intake.accounting.exit event.sender).1 = .counted) :
    (intake.classify event).2.idleExits = intake.idleExits := by
  have nothing : (intake.deduplicator.classify event).2.2.reverse.filter Notice.isIdleExit = [] :=
    List.filter_eq_nil_iff.mpr fun notice member =>
      Bool.eq_false_iff.mp (intake.deduplicator.isIdleExit_classify event notice
        (List.mem_reverse.mp member))
  have left : (if (intake.deduplicator.classify event).1.forwards then []
      else exitNotices event.sender (intake.accounting.exit event.sender).1) = [] := by
    rcases counted with forwards | counted
    · rw [← classify_fst, if_pos forwards]
    · rw [counted]
      exact ite_self []
  rw [idleExits, journal_classify, left, List.nil_append,
    List.filter_cons_of_neg (by simp [Notice.isIdleExit]), List.filter_append, nothing,
    List.nil_append, idleExits]

theorem idleExits_advance (intake : Intake) (generation : UInt64) :
    (intake.advance generation).2.idleExits = intake.idleExits :=
  idleExits_logAll _ (intake.deduplicator.isIdleExit_advance generation)

theorem idleExits_clear (intake : Intake) : intake.clear.idleExits = intake.idleExits :=
  idleExits_logAll _ fun notice member => by
    rw [List.mem_singleton.mp member]
    rfl

end Intake

end GossipIntake
