import GossipIntake.Proofs.Accounting.InFlight
import GossipIntake.Proofs.Run
import Mathlib.Algebra.BigOperators.Group.List.Basic
import Mathlib.Algebra.Ring.Int.Defs
import Mathlib.Data.Finset.Lattice.Fold
import Mathlib.Data.List.DropRight
import Mathlib.Data.List.Induction

namespace GossipIntake

/-- The least of the sums of the first moves, from none of them to all. -/
def lowest (moves : List Int) : Int :=
  (Finset.range (moves.length + 1)).inf' Finset.nonempty_range_add_one fun count =>
    (moves.take count).sum

theorem lowest_concat (moves : List Int) (move : Int) :
    lowest (moves ++ [move]) = min (moves.sum + move) (lowest moves) := by
  have last : ((moves ++ [move]).take (moves.length + 1)).sum = moves.sum + move := by
    rw [List.take_of_length_le (by simp), List.sum_append, List.sum_singleton]
  have earlier : ∀ count ∈ Finset.range (moves.length + 1),
      ((moves ++ [move]).take count).sum = (moves.take count).sum := by
    intro count inside
    have short : count ≤ moves.length := Nat.lt_succ_iff.mp (Finset.mem_range.mp inside)
    rw [List.take_append_of_le_length short]
  simp only [lowest, List.length_append, List.length_singleton]
  simp only [Finset.range_add_one (n := moves.length + 1)]
  rw [Finset.inf'_insert Finset.nonempty_range_add_one, last, Finset.inf'_congr _ rfl earlier]

theorem sum_sub_lowest_concat (moves : List Int) (move : Int) :
    (moves ++ [move]).sum - lowest (moves ++ [move]) = max 0 (moves.sum - lowest moves + move) := by
  rw [List.sum_append, List.sum_singleton, lowest_concat]
  omega

namespace PeerCounter

variable {counter : PeerCounter} {peer : NodeId}

theorem answer_exit (counter : PeerCounter) (peer : NodeId) :
    (counter.answer (.exit peer)).1 =
      if counter.inFlight peer ≠ 0 then []
      else if counter.counts.contains peer then [.idlePeerExit peer]
      else [.unknownPeerExit peer] := by
  rw [answer]
  by_cases none : counter.inFlight peer = 0
  · rw [exit_of_inFlight_eq_zero none, if_neg (not_not.mpr none)]
    by_cases known : counter.counts.contains peer = true
    · simp only [known, if_true, Intake.exitNotices]
    · simp only [known, Intake.exitNotices]
      rfl
  · rw [exit_of_inFlight_ne_zero none, if_pos none, Intake.exitNotices]

theorem snd_answer_exit (counter : PeerCounter) (peer : NodeId) :
    (counter.answer (.exit peer)).2 = (counter.exit peer).2 := rfl

theorem answer_exit_ne_nil (counter : PeerCounter) (peer : NodeId) :
    (counter.answer (.exit peer)).1 ≠ [] ↔ counter.inFlight peer = 0 := by
  rw [answer_exit]
  by_cases none : counter.inFlight peer = 0
  · rw [if_neg (not_not.mpr none)]
    split <;> simp [none]
  · simp [none]

theorem answer_exit_unknown (counter : PeerCounter) (peer : NodeId) :
    (counter.answer (.exit peer)).1 = [.unknownPeerExit peer] ↔
      counter.counts.contains peer = false := by
  rw [answer_exit]
  by_cases unknown : counter.counts.contains peer = false
  · simp [unknown, inFlight_of_unknown unknown]
  · have known : counter.counts.contains peer = true := Bool.not_eq_false _ ▸ unknown
    simp only [known]
    split <;> simp

theorem answer_exit_idle (counter : PeerCounter) (peer : NodeId) :
    (counter.answer (.exit peer)).1 = [.idlePeerExit peer] ↔
      counter.inFlight peer = 0 ∧ counter.counts.contains peer = true := by
  rw [answer_exit]
  by_cases none : counter.inFlight peer = 0
  · rw [if_neg (not_not.mpr none)]
    split <;> simp [*]
  · simp [none]

theorem contains_enter (counter : PeerCounter) (peer other : NodeId) :
    (counter.enter peer).counts.contains other =
      (peer == other || counter.counts.contains other) := by
  rw [enter_eq_enterRegistering, enterRegistering, Table.contains_upsert]

theorem contains_exit (counter : PeerCounter) (peer other : NodeId) :
    (counter.exit peer).2.counts.contains other = counter.counts.contains other := by
  by_cases none : counter.inFlight peer = 0
  · rw [exit_of_inFlight_eq_zero none]
  · rw [exit_of_inFlight_ne_zero none, Table.contains_modify]

theorem contains_answer (counter : PeerCounter) (peer : NodeId) {call : CounterCall}
    (unreset : call ≠ .reset) :
    (counter.answer call).2.counts.contains peer =
      (decide (call = .enter peer) || counter.counts.contains peer) := by
  cases call with
  | enter other => simp [answer, contains_enter, beq_eq_decide]
  | exit other => simp [answer, contains_exit]
  | reset => exact absurd rfl unreset

theorem inFlight_register (counter : PeerCounter) (peer other : NodeId) :
    (counter.register peer).inFlight other = counter.inFlight other := by
  rw [register, inFlight_upsert, id, ite_self]

theorem inFlight_ofPeers (registered : List NodeId) (peer : NodeId) :
    (ofPeers registered).inFlight peer = 0 := by
  induction registered using List.reverseRecOn with
  | nil => rfl
  | append_singleton earlier last ih =>
    rw [ofPeers, List.foldl_append, List.foldl_cons, List.foldl_nil, inFlight_register, ← ofPeers, ih]

theorem contains_ofPeers (registered : List NodeId) (peer : NodeId) :
    (ofPeers registered).counts.contains peer = true ↔ peer ∈ registered := by
  induction registered using List.reverseRecOn with
  | nil =>
    rw [ofPeers, List.foldl_nil, ← Bool.not_eq_false, not_iff_comm]
    simp [empty, Table.contains, EmptyCollection.emptyCollection, Table.empty]
  | append_singleton earlier last ih =>
    rw [ofPeers, List.foldl_append, List.foldl_cons, List.foldl_nil, register, Table.contains_upsert,
      ← ofPeers, Bool.or_eq_true, ih, beq_iff_eq, List.mem_append, List.mem_singleton, or_comm, eq_comm]

def run (counter : PeerCounter) (calls : List CounterCall) :
    List (CounterCall × List Notice) × PeerCounter :=
  runAll (fun counter call => ((call, (counter.answer call).1), (counter.answer call).2)) counter calls

theorem run_concat (counter : PeerCounter) (past : List CounterCall) (call : CounterCall) :
    counter.run (past ++ [call]) =
      ((counter.run past).1 ++ [(call, ((counter.run past).2.answer call).1)],
        ((counter.run past).2.answer call).2) := by
  rw [run, runAll_append]
  rfl

end PeerCounter

def sinceReset (calls : List CounterCall) : List CounterCall := calls.rtakeWhile (· ≠ .reset)

def CounterCall.move? (peer : NodeId) : CounterCall → Option Int
  | .enter other => if other = peer then some 1 else none
  | .exit other => if other = peer then some (-1) else none
  | .reset => none

/-- One call moves a count as it moves the balance, but not below zero. -/
theorem PeerCounter.toNat_inFlight_answer {counter : PeerCounter} {peer : NodeId}
    {call : CounterCall} (unreset : call ≠ .reset)
    (room : (counter.inFlight peer).toNat + [call].count (.enter peer) < UInt64.size) :
    (((counter.answer call).2.inFlight peer).toNat : Int) =
      max 0 ((counter.inFlight peer).toNat + (call.move? peer).getD 0) := by
  cases call with
  | enter other =>
    rw [answer, inFlight_enter, CounterCall.move?]
    by_cases same : other = peer
    · subst same
      rw [List.count_singleton_self] at room
      rw [if_pos rfl, if_pos rfl, toNat_add_one room, Option.getD_some]
      omega
    · rw [if_neg same, if_neg same, Option.getD_none]
      omega
  | exit other =>
    rw [snd_answer_exit, CounterCall.move?]
    by_cases none : counter.inFlight other = 0
    · simp only [exit_of_inFlight_eq_zero none]
      by_cases same : other = peer
      · subst same
        rw [none, if_pos rfl]
        rfl
      · rw [if_neg same, Option.getD_none]
        omega
    · have left := toNat_inFlight_exit none peer
      by_cases same : other = peer
      · rw [if_pos same] at left
        rw [if_pos same, Option.getD_some]
        omega
      · rw [if_neg same] at left
        rw [if_neg same, Option.getD_none]
        omega
  | reset => exact absurd rfl unreset

theorem PeerCounter.balance_answer {counter : PeerCounter} {peer : NodeId}
    {call : CounterCall} (unreset : call ≠ .reset)
    (room : (counter.inFlight peer).toNat + [call].count (.enter peer) < UInt64.size) :
    ((counter.answer call).2.inFlight peer).toNat + [call].count (.exit peer) =
      (counter.inFlight peer).toNat + [call].count (.enter peer) +
        if call = .exit peer ∧ (counter.answer call).1 ≠ [] then 1 else 0 := by
  have moved := toNat_inFlight_answer unreset room
  cases call with
  | enter other =>
    rw [CounterCall.move?] at moved
    simp only [List.count_singleton, beq_iff_eq, CounterCall.enter.injEq, reduceCtorEq, false_and,
      if_false]
    by_cases same : other = peer
    · rw [if_pos same, Option.getD_some] at moved
      rw [if_pos same]
      omega
    · rw [if_neg same, Option.getD_none] at moved
      rw [if_neg same]
      omega
  | exit other =>
    rw [CounterCall.move?] at moved
    simp only [List.count_singleton, beq_iff_eq, CounterCall.exit.injEq, reduceCtorEq, if_false,
      answer_exit_ne_nil]
    by_cases same : other = peer
    · subst same
      have zero : counter.inFlight other = 0 ↔ (counter.inFlight other).toNat = 0 :=
        UInt64.toNat_inj.symm
      rw [if_pos rfl, Option.getD_some] at moved
      simp only [zero, true_and, if_true]
      split <;> omega
    · rw [if_neg same, Option.getD_none] at moved
      simp only [same, false_and, if_false]
      omega
  | reset => exact absurd rfl unreset

def movesOf (peer : NodeId) (calls : List CounterCall) : List Int :=
  (sinceReset calls).filterMap (·.move? peer)

/-- The exits of a peer since the last reset that were not counted. -/
def complaints (peer : NodeId) (trace : List (CounterCall × List Notice)) : Nat :=
  (trace.rtakeWhile (·.1 ≠ .reset)).countP fun step => step.1 = .exit peer ∧ step.2 ≠ []

def Known (registered : List NodeId) (calls : List CounterCall) (peer : NodeId) : Prop :=
  .enter peer ∈ sinceReset calls ∨ (.reset ∉ calls ∧ peer ∈ registered)

theorem sinceReset_concat (calls : List CounterCall) (call : CounterCall) :
    sinceReset (calls ++ [call]) = if call = .reset then [] else sinceReset calls ++ [call] := by
  rw [sinceReset, List.rtakeWhile_concat]
  by_cases reset : call = .reset
  · simp [reset]
  · simp [reset, sinceReset]

theorem count_sinceReset_le (calls : List CounterCall) (call : CounterCall) :
    (sinceReset calls).count call ≤ calls.count call :=
  (List.rtakeWhile_suffix _ calls).sublist.count_le call

theorem movesOf_concat (peer : NodeId) (calls : List CounterCall) (call : CounterCall) :
    movesOf peer (calls ++ [call]) =
      if call = .reset then [] else movesOf peer calls ++ (call.move? peer).toList := by
  rw [movesOf, sinceReset_concat]
  by_cases reset : call = .reset
  · simp [reset]
  · rw [if_neg reset, if_neg reset, List.filterMap_append, ← movesOf]
    cases move : call.move? peer <;> simp [move]

theorem complaints_concat (peer : NodeId) (trace : List (CounterCall × List Notice))
    (call : CounterCall) (notices : List Notice) :
    complaints peer (trace ++ [(call, notices)]) =
      if call = .reset then 0
      else complaints peer trace + if call = .exit peer ∧ notices ≠ [] then 1 else 0 := by
  rw [complaints, List.rtakeWhile_concat]
  by_cases reset : call = .reset
  · simp [reset]
  · rw [if_pos (by simpa using reset), if_neg reset, List.countP_append, List.countP_singleton,
      ← complaints]
    simp only [decide_eq_true_eq]

theorem known_concat (registered : List NodeId) (calls : List CounterCall) (call : CounterCall)
    (peer : NodeId) :
    Known registered (calls ++ [call]) peer ↔
      call ≠ .reset ∧ (call = .enter peer ∨ Known registered calls peer) := by
  rw [Known, sinceReset_concat, Known]
  by_cases reset : call = .reset
  · simp [reset]
  · simp [reset, Ne.symm reset, or_comm, or_left_comm, eq_comm]

structure Saturated (calls : List CounterCall) (trace : List (CounterCall × List Notice))
    (counter : PeerCounter) (peer : NodeId) : Prop where
  count : ((counter.inFlight peer).toNat : Int) = (movesOf peer calls).sum - lowest (movesOf peer calls)
  balance : (counter.inFlight peer).toNat + (sinceReset calls).count (.exit peer) =
    (sinceReset calls).count (.enter peer) + complaints peer trace
  fewer : complaints peer trace ≤ (sinceReset calls).count (.exit peer)

namespace Saturated

variable {calls : List CounterCall} {trace : List (CounterCall × List Notice)} {counter : PeerCounter}
  {peer : NodeId}

theorem initially (registered : List NodeId) (peer : NodeId) :
    Saturated [] [] (PeerCounter.ofPeers registered) peer where
  count := by
    rw [PeerCounter.inFlight_ofPeers]
    rfl
  balance := by
    rw [PeerCounter.inFlight_ofPeers]
    rfl
  fewer := Nat.le_refl 0

theorem reset (calls : List CounterCall) (trace : List (CounterCall × List Notice))
    (counter : PeerCounter) (peer : NodeId) :
    Saturated (calls ++ [.reset]) (trace ++ [(.reset, (counter.answer .reset).1)])
      (counter.answer .reset).2 peer where
  count := by
    rw [movesOf_concat, if_pos rfl]
    rfl
  balance := by
    rw [sinceReset_concat, complaints_concat, if_pos rfl, if_pos rfl]
    rfl
  fewer := by
    rw [complaints_concat, if_pos rfl]
    exact Nat.zero_le _

theorem inFlight_le (saturated : Saturated calls trace counter peer) :
    (counter.inFlight peer).toNat ≤ calls.count (CounterCall.enter peer) := by
  have entered := count_sinceReset_le calls (CounterCall.enter peer)
  have balance := saturated.balance
  have fewer := saturated.fewer
  omega

theorem answer (saturated : Saturated calls trace counter peer) {call : CounterCall}
    (unreset : call ≠ .reset)
    (few : (calls ++ [call]).count (CounterCall.enter peer) < UInt64.size) :
    Saturated (calls ++ [call]) (trace ++ [(call, (counter.answer call).1)])
      (counter.answer call).2 peer := by
  have held := saturated.inFlight_le
  have count := saturated.count
  have balance := saturated.balance
  have fewer := saturated.fewer
  have entered : (calls ++ [call]).count (.enter peer) =
      calls.count (.enter peer) + [call].count (.enter peer) := List.count_append
  have room : (counter.inFlight peer).toNat + [call].count (.enter peer) < UInt64.size := by omega
  have moved := PeerCounter.toNat_inFlight_answer unreset room
  have balanced := PeerCounter.balance_answer unreset room
  constructor
  case count =>
    rw [moved, movesOf_concat, if_neg unreset]
    cases move : call.move? peer with
    | none =>
      rw [Option.getD_none, Option.toList_none, List.append_nil]
      omega
    | some move => rw [Option.getD_some, Option.toList_some, sum_sub_lowest_concat, count]
  case balance =>
    rw [complaints_concat, sinceReset_concat, if_neg unreset, if_neg unreset, List.count_append,
      List.count_append]
    omega
  case fewer =>
    have counted : (if call = .exit peer ∧ (counter.answer call).1 ≠ [] then 1 else 0) ≤
        [call].count (.exit peer) := by
      split
      · rename_i complained
        rw [complained.1, List.count_singleton_self]
      · exact Nat.zero_le _
    rw [complaints_concat, sinceReset_concat, if_neg unreset, if_neg unreset, List.count_append]
    omega

theorem run (registered : List NodeId) (calls : List CounterCall) (peer : NodeId)
    (few : calls.count (.enter peer) < UInt64.size) :
    Saturated calls ((PeerCounter.ofPeers registered).run calls).1
      ((PeerCounter.ofPeers registered).run calls).2 peer := by
  -- From the last call back: the few entries bound those of every earlier moment.
  induction calls using List.reverseRecOn with
  | nil => exact initially registered peer
  | append_singleton past call ih =>
    rw [PeerCounter.run_concat]
    by_cases reset : call = .reset
    · subst reset
      exact Saturated.reset past _ _ peer
    · have fewer : past.count (CounterCall.enter peer) < UInt64.size := by
        rw [List.count_append] at few
        omega
      exact (ih fewer).answer reset few

end Saturated

namespace PeerCounter

theorem contains_run (registered : List NodeId) (calls : List CounterCall) (peer : NodeId) :
    ((ofPeers registered).run calls).2.counts.contains peer = true ↔
      Known registered calls peer := by
  induction calls using List.reverseRecOn with
  | nil =>
    rw [run, runAll, contains_ofPeers]
    simp [Known, sinceReset]
  | append_singleton past call ih =>
    rw [run_concat, known_concat]
    by_cases reset : call = .reset
    · subst reset
      exact ⟨fun absurd => (by cases absurd), fun known => absurd rfl known.1⟩
    · rw [contains_answer _ _ reset, Bool.or_eq_true, ih, decide_eq_true_iff]
      exact (and_iff_right reset).symm

/-- After any calls the count of a peer is how far the balance of its entries and exits since the last
    reset stands above its lowest point, or what the entries leave over the exits that were counted. An
    exit complains at a count of zero, in one of two ways, and which peers were registered makes no
    difference to the counts. -/
theorem inFlight_closed_form (registered : List NodeId) (calls : List CounterCall) (peer : NodeId)
    (few : calls.count (.enter peer) < UInt64.size) :
    let trace := ((ofPeers registered).run calls).1
    let counter := ((ofPeers registered).run calls).2
    let complaint := (counter.answer (.exit peer)).1
    ((counter.inFlight peer).toNat : Int) =
        (movesOf peer calls).sum - lowest (movesOf peer calls) ∧
      ((counter.inFlight peer).toNat : Int) =
        (sinceReset calls).count (.enter peer) - (sinceReset calls).count (.exit peer) +
          complaints peer trace ∧
      (complaint ≠ [] ↔ counter.inFlight peer = 0 ∨ counter.counts.contains peer = false) ∧
      (complaint = [.unknownPeerExit peer] ↔ ¬Known registered calls peer) ∧
      (complaint = [.idlePeerExit peer] ↔ counter.inFlight peer = 0 ∧ Known registered calls peer) ∧
      (∀ (otherwise : List NodeId) (others : List CounterCall),
        others.count (.enter peer) < UInt64.size → movesOf peer others = movesOf peer calls →
          ((ofPeers otherwise).run others).2.inFlight peer = counter.inFlight peer) ∧
      ∀ otherwise : List NodeId,
        ((ofPeers otherwise).run calls).2.inFlight peer = counter.inFlight peer := by
  intro trace counter complaint
  have saturated : Saturated calls trace counter peer := .run registered calls peer few
  have known := contains_run registered calls peer
  have own : ∀ (otherwise : List NodeId) (others : List CounterCall),
      others.count (.enter peer) < UInt64.size → movesOf peer others = movesOf peer calls →
        ((ofPeers otherwise).run others).2.inFlight peer = counter.inFlight peer := by
    intro otherwise others few same
    have other := (Saturated.run otherwise others peer few).count
    rw [same, ← saturated.count] at other
    exact UInt64.toNat_inj.mp (Int.ofNat_inj.mp other)
  refine ⟨saturated.count, ?_, ?_, ?_, ?_, own, fun otherwise => own otherwise calls few rfl⟩
  · have balance := saturated.balance
    omega
  · rw [answer_exit_ne_nil]
    exact ⟨.inl, fun either => either.elim id inFlight_of_unknown⟩
  · rw [answer_exit_unknown, ← known, Bool.not_eq_true]
  · rw [answer_exit_idle, known]

theorem inFlight_closed_form_after_reset :
    let peer : NodeId := ⟨1⟩
    let calls : List CounterCall :=
      [.exit peer, .enter peer, .reset, .exit peer, .enter peer, .enter ⟨2⟩, .enter peer, .exit peer,
        .exit peer, .exit peer, .exit ⟨3⟩, .enter peer]
    let counter := ((ofPeers [peer]).run calls).2
    calls.count (.enter peer) < UInt64.size ∧
      (movesOf peer calls).sum = -1 ∧ lowest (movesOf peer calls) = -2 ∧
      complaints peer ((ofPeers [peer]).run calls).1 = 2 ∧
      (counter.inFlight peer).toNat = 1 ∧
      ((ofPeers []).run calls).2.inFlight peer = counter.inFlight peer ∧
      (counter.answer (.exit peer)).1 ≠ [.unknownPeerExit peer] := by
  intro peer calls counter
  have few : calls.count (.enter peer) < UInt64.size := by decide
  have sum : (movesOf peer calls).sum = -1 := by decide
  have least : lowest (movesOf peer calls) = -2 := by decide
  have known : Known [peer] calls peer := .inl (by decide)
  obtain ⟨count, -, -, unknown, -, -, unregistered⟩ := inFlight_closed_form [peer] calls peer few
  rw [sum, least] at count
  exact ⟨few, sum, least, by decide, Int.ofNat_inj.mp count, unregistered [],
    fun complaint => unknown.mp complaint known⟩

end PeerCounter

end GossipIntake
