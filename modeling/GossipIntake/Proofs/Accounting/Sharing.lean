import GossipIntake.Proofs.Accounting.InFlight
import Mathlib.Algebra.BigOperators.Group.Finset.Basic
import Mathlib.Algebra.Order.BigOperators.Group.Finset
import Mathlib.Data.Fintype.Basic

namespace GossipIntake

structure Client where
  done : List CounterCall
  left : List CounterCall
  missed : Bool

def Client.pending (client : Client) : Nat :=
  2 * client.left.length + if client.missed then 0 else 1

/-- Clients that share one counter; a turn is what one of them does under one hold of the lock. An
    entry of a peer that is not known yet takes two turns, one to miss it under the shared lock and
    one to register it under the exclusive one, and others may have their turns in between. -/
structure Sharing (ι : Type) where
  counter : PeerCounter
  clients : ι → Client
  journal : List Notice

namespace Sharing

variable {ι : Type}

def start (counter : PeerCounter) (programs : ι → List CounterCall) : Sharing ι where
  counter := counter
  clients client := { done := [], left := programs client, missed := false }
  journal := []

def Follows (shared : Sharing ι) (programs : ι → List CounterCall) : Prop :=
  ∀ client, (shared.clients client).done ++ (shared.clients client).left = programs client

/-- At no point of its program has a client exited a peer more often than it has entered it. -/
def Solvent (programs : ι → List CounterCall) : Prop :=
  ∀ client earlier, earlier <+: programs client → ∀ peer,
    earlier.count (.exit peer) ≤ earlier.count (.enter peer)

def Finished (shared : Sharing ι) : Prop := ∀ client, (shared.clients client).left = []

section Completed

variable [Fintype ι]

instance (shared : Sharing ι) : Decidable shared.Finished :=
  inferInstanceAs (Decidable (∀ client, (shared.clients client).left = []))

def completed (shared : Sharing ι) (call : CounterCall) : Nat :=
  ∑ client, (shared.clients client).done.count call

theorem completed_start (counter : PeerCounter) (programs : ι → List CounterCall)
    (call : CounterCall) : (start counter programs).completed call = 0 :=
  Finset.sum_eq_zero fun _ _ => rfl

theorem Follows.completed_le {shared : Sharing ι} {programs : ι → List CounterCall}
    (follows : shared.Follows programs) (call : CounterCall) :
    shared.completed call ≤ ∑ client, (programs client).count call := by
  apply Finset.sum_le_sum
  intro client _
  rw [← follows client, List.count_append]
  exact Nat.le_add_right _ _

theorem Follows.completed_eq {shared : Sharing ι} {programs : ι → List CounterCall}
    (follows : shared.Follows programs) (finished : shared.Finished) (call : CounterCall) :
    shared.completed call = ∑ client, (programs client).count call := by
  apply Finset.sum_congr rfl
  intro client _
  rw [← follows client, finished client, List.append_nil]

theorem Follows.exits_lt_enters {shared : Sharing ι} {programs : ι → List CounterCall}
    (follows : shared.Follows programs) (solvent : Solvent programs)
    {client : ι} {peer : NodeId} {rest : List CounterCall}
    (next : (shared.clients client).left = .exit peer :: rest) :
    shared.completed (.exit peer) < shared.completed (.enter peer) := by
  have own : (shared.clients client).done.count (.exit peer) <
      (shared.clients client).done.count (.enter peer) := by
    have whole := follows client
    rw [next, ← List.singleton_append, ← List.append_assoc] at whole
    have after := solvent client _ ⟨rest, whole⟩ peer
    rw [List.count_append, List.count_append, List.count_singleton_self] at after
    exact Nat.lt_of_succ_le after
  apply Finset.sum_lt_sum
  · intro other _
    exact solvent other _ ⟨_, follows other⟩ peer
  · exact ⟨client, Finset.mem_univ client, own⟩

end Completed

variable [DecidableEq ι]

def miss (shared : Sharing ι) (client : ι) : Sharing ι :=
  { shared with
    clients := Function.update shared.clients client { shared.clients client with missed := true } }

def complete (shared : Sharing ι) (client : ι) (call : CounterCall) (rest : List CounterCall)
    (answer : List Notice × PeerCounter) : Sharing ι where
  counter := answer.2
  clients := Function.update shared.clients client
    { done := (shared.clients client).done ++ [call], left := rest, missed := false }
  journal := answer.1.reverse ++ shared.journal

def turn (shared : Sharing ι) (client : ι) : Sharing ι :=
  match (shared.clients client).left with
  | [] => shared
  | .enter peer :: rest =>
    if (shared.clients client).missed then
      shared.complete client (.enter peer) rest ([], shared.counter.enterRegistering peer)
    else if shared.counter.counts.contains peer then
      shared.complete client (.enter peer) rest ([], shared.counter.enterKnown peer)
    else shared.miss client
  | call :: rest => shared.complete client call rest (shared.counter.answer call)

def run (shared : Sharing ι) (schedule : List ι) : Sharing ι := schedule.foldl turn shared

theorem run_concat (shared : Sharing ι) (past : List ι) (client : ι) :
    shared.run (past ++ [client]) = (shared.run past).turn client := by
  rw [run, List.foldl_append, List.foldl_cons, List.foldl_nil, ← run]

theorem turn_cases (shared : Sharing ι) (client : ι) :
    ((shared.clients client).left = [] ∧ shared.turn client = shared) ∨
      ((shared.clients client).missed = false ∧ (shared.clients client).left ≠ [] ∧
        shared.turn client = shared.miss client) ∨
        ∃ call rest, (shared.clients client).left = call :: rest ∧
          shared.turn client = shared.complete client call rest (shared.counter.answer call) := by
  unfold turn
  split
  case h_1 none => exact .inl ⟨none, rfl⟩
  case h_2 peer rest next =>
    by_cases missed : (shared.clients client).missed = true
    · rw [if_pos missed, ← PeerCounter.enter_eq_enterRegistering]
      exact .inr (.inr ⟨.enter peer, rest, next, rfl⟩)
    · rw [if_neg missed]
      by_cases known : shared.counter.counts.contains peer = true
      · rw [if_pos known, ← PeerCounter.enterRegistering_of_known known,
          ← PeerCounter.enter_eq_enterRegistering]
        exact .inr (.inr ⟨.enter peer, rest, next, rfl⟩)
      · rw [if_neg known]
        exact .inr (.inl ⟨Bool.not_eq_true _ ▸ missed, next ▸ List.cons_ne_nil _ _, rfl⟩)
  case h_3 call rest _ next => exact .inr (.inr ⟨call, rest, next, rfl⟩)

theorem clients_miss (shared : Sharing ι) (client other : ι) :
    (shared.miss client).clients other =
      { shared.clients other with missed := (shared.clients other).missed || other = client } := by
  unfold miss
  by_cases same : other = client
  · subst same
    simp
  · simp [same]

theorem clients_complete (shared : Sharing ι) (client other : ι) (call : CounterCall)
    (rest : List CounterCall) (answer : List Notice × PeerCounter) :
    (shared.complete client call rest answer).clients other =
      if other = client then
        { done := (shared.clients client).done ++ [call], left := rest, missed := false }
      else shared.clients other :=
  Function.update_apply ..

theorem Follows.turn {shared : Sharing ι} {programs : ι → List CounterCall}
    (follows : shared.Follows programs) (client : ι) : (shared.turn client).Follows programs := by
  intro other
  rcases shared.turn_cases client with ⟨-, same⟩ | ⟨-, -, missed⟩ | ⟨call, rest, next, completed⟩
  · rw [same]
    exact follows other
  · rw [missed, clients_miss]
    exact follows other
  · rw [completed, clients_complete]
    by_cases same : other = client
    · subst same
      rw [if_pos rfl, ← follows other, next, List.append_assoc, List.singleton_append]
    · rw [if_neg same]
      exact follows other

theorem follows_run (counter : PeerCounter) (programs : ι → List CounterCall) (schedule : List ι) :
    ((start counter programs).run schedule).Follows programs := by
  induction schedule using List.reverseRecOn with
  | nil => exact fun _ => rfl
  | append_singleton past client ih =>
    rw [run_concat]
    exact ih.turn client

section Kept

variable [Fintype ι]

/-- At no point of the schedule do the entries and exits of a peer leave a count that needs more than
    its word. -/
def HasRoom (counter : PeerCounter) (programs : ι → List CounterCall) (schedule : List ι) : Prop :=
  ∀ earlier, earlier <+: schedule → ∀ peer,
    (counter.inFlight peer).toNat + ((start counter programs).run earlier).completed (.enter peer) <
      UInt64.size + ((start counter programs).run earlier).completed (.exit peer)

theorem hasRoom_of_few {counter : PeerCounter} {programs : ι → List CounterCall}
    (few : ∀ peer, (counter.inFlight peer).toNat +
      ∑ client, (programs client).count (.enter peer) < UInt64.size) (schedule : List ι) :
    HasRoom counter programs schedule := by
  intro earlier _ peer
  have bound := (follows_run counter programs earlier).completed_le (.enter peer)
  have enough := few peer
  omega

theorem completed_miss (shared : Sharing ι) (client : ι) (call : CounterCall) :
    (shared.miss client).completed call = shared.completed call := by
  apply Finset.sum_congr rfl
  intro other _
  rw [clients_miss]

theorem completed_complete (shared : Sharing ι) (client : ι) (call other : CounterCall)
    (rest : List CounterCall) (answer : List Notice × PeerCounter) :
    (shared.complete client call rest answer).completed other =
      shared.completed other + if call = other then 1 else 0 := by
  have elsewhere : ∀ someone ∈ Finset.univ.erase client,
      ((shared.complete client call rest answer).clients someone).done.count other =
        (shared.clients someone).done.count other := by
    intro someone member
    rw [clients_complete, if_neg (Finset.ne_of_mem_erase member)]
  rw [completed, completed, ← Finset.add_sum_erase _ _ (Finset.mem_univ client),
    ← Finset.add_sum_erase _ _ (Finset.mem_univ client), Finset.sum_congr rfl elsewhere,
    clients_complete, if_pos rfl, List.count_append, List.count_singleton]
  simp only [beq_iff_eq]
  omega

/-- The counter has kept every entry and every exit that was completed, and nothing was logged. -/
structure Lossless (shared : Sharing ι) (counter : PeerCounter) : Prop where
  balance : ∀ peer, (shared.counter.inFlight peer).toNat + shared.completed (.exit peer) =
    (counter.inFlight peer).toNat + shared.completed (.enter peer)
  silent : shared.journal = []

theorem Lossless.miss {counter : PeerCounter} {shared : Sharing ι}
    (lossless : shared.Lossless counter) (client : ι) : (shared.miss client).Lossless counter where
  balance peer := by
    rw [completed_miss, completed_miss]
    exact lossless.balance peer
  silent := lossless.silent

theorem Lossless.enter {counter : PeerCounter} {shared : Sharing ι}
    (lossless : shared.Lossless counter) {peer : NodeId}
    (room : (shared.counter.inFlight peer).toNat + 1 < UInt64.size) (client : ι)
    (rest : List CounterCall) :
    (shared.complete client (.enter peer) rest
      (shared.counter.answer (.enter peer))).Lossless counter where
  balance other := by
    have kept := lossless.balance other
    have entered := PeerCounter.toNat_inFlight_enter room other
    rw [completed_complete, completed_complete]
    simp only [complete, PeerCounter.answer, CounterCall.enter.injEq, reduceCtorEq, if_false]
    omega
  silent := lossless.silent

theorem Lossless.exit {counter : PeerCounter} {shared : Sharing ι}
    (lossless : shared.Lossless counter) {peer : NodeId}
    (some : shared.counter.inFlight peer ≠ 0) (client : ι) (rest : List CounterCall) :
    (shared.complete client (.exit peer) rest
      (shared.counter.answer (.exit peer))).Lossless counter where
  balance other := by
    have kept := lossless.balance other
    have left := PeerCounter.toNat_inFlight_exit some other
    rw [completed_complete, completed_complete]
    simp only [complete, PeerCounter.answer, CounterCall.exit.injEq, reduceCtorEq, if_false]
    omega
  silent := by
    simp only [complete, PeerCounter.answer, PeerCounter.exit_of_inFlight_ne_zero some,
      Intake.exitNotices]
    exact lossless.silent

theorem Lossless.turn {counter : PeerCounter} {programs : ι → List CounterCall} {shared : Sharing ι}
    (lossless : shared.Lossless counter) (follows : shared.Follows programs)
    (unreset : ∀ client, .reset ∉ programs client) (solvent : Solvent programs) (client : ι)
    (room : ∀ peer, (counter.inFlight peer).toNat + (shared.turn client).completed (.enter peer) <
      UInt64.size + (shared.turn client).completed (.exit peer)) :
    (shared.turn client).Lossless counter := by
  rcases shared.turn_cases client with ⟨-, same⟩ | ⟨-, -, missed⟩ | ⟨call, rest, next, completed⟩
  · rw [same]
    exact lossless
  · rw [missed]
    exact lossless.miss client
  · rw [completed] at room ⊢
    cases call with
    | enter peer =>
      -- The moment after the entry counts it already, so the room there is room for it now.
      have held := lossless.balance peer
      have above := room peer
      rw [completed_complete, completed_complete, if_pos rfl, if_neg (by simp)] at above
      exact lossless.enter (by omega) client rest
    | exit peer =>
      have fewer := follows.exits_lt_enters solvent next
      have held := lossless.balance peer
      apply lossless.exit
      intro zero
      rw [zero, UInt64.toNat_zero] at held
      omega
    | reset =>
      have member : CounterCall.reset ∈ programs client := by
        rw [← follows client, next]
        simp
      exact absurd member (unreset client)

def pending (shared : Sharing ι) : Nat := ∑ client, (shared.clients client).pending

theorem pending_turn {shared : Sharing ι} {client : ι}
    (unfinished : (shared.clients client).left ≠ []) :
    (shared.turn client).pending < shared.pending := by
  have fewer : ((shared.turn client).clients client).pending < (shared.clients client).pending ∧
      ∀ other, other ≠ client → (shared.turn client).clients other = shared.clients other := by
    rcases shared.turn_cases client with
      ⟨none, -⟩ | ⟨unmissed, -, missed⟩ | ⟨call, rest, next, completed⟩
    · exact absurd none unfinished
    · rw [missed]
      constructor
      · simp [clients_miss, Client.pending, unmissed]
      · intro other different
        simp [clients_miss, different]
    · rw [completed]
      constructor
      · rw [clients_complete, if_pos rfl, Client.pending, Client.pending, next, List.length_cons]
        simp only [Bool.false_eq_true, if_false]
        omega
      · intro other different
        rw [clients_complete, if_neg different]
  apply Finset.sum_lt_sum
  · intro other _
    by_cases same : other = client
    · subst same
      exact Nat.le_of_lt fewer.1
    · rw [fewer.2 other same]
  · exact ⟨client, Finset.mem_univ client, fewer.1⟩

theorem exists_finished (shared : Sharing ι) : ∃ rest, (shared.run rest).Finished := by
  induction bound : shared.pending using Nat.strong_induction_on generalizing shared with
  | _ bound ih =>
    by_cases finished : shared.Finished
    · exact ⟨[], finished⟩
    · rcases not_forall.mp finished with ⟨client, unfinished⟩
      rcases ih _ (by rw [← bound]; exact pending_turn unfinished) (shared.turn client) rfl with
        ⟨rest, done⟩
      exact ⟨client :: rest, done⟩

end Kept

end Sharing

namespace PeerCounter

variable {ι : Type} [Fintype ι] [DecidableEq ι]

theorem lossless_run (counter : PeerCounter) (programs : ι → List CounterCall) (schedule : List ι)
    (unreset : ∀ client, .reset ∉ programs client)
    (solvent : Sharing.Solvent programs) (room : Sharing.HasRoom counter programs schedule) :
    ((Sharing.start counter programs).run schedule).Lossless counter := by
  induction schedule using List.reverseRecOn with
  | nil =>
    constructor
    · intro peer
      rw [Sharing.run, List.foldl_nil, Sharing.completed_start, Sharing.completed_start]
      rfl
    · rfl
  | append_singleton past client ih =>
    have now := room _ (List.prefix_refl _)
    rw [Sharing.run_concat] at now ⊢
    apply Sharing.Lossless.turn _ (Sharing.follows_run counter programs past) unreset solvent client now
    apply ih
    intro earlier before
    exact room earlier (before.trans (List.prefix_append past [client]))

/-- Whatever the order of their turns, the clients lose no entry and no exit: the count of a peer is what
    it was and all that they have entered, less all that they have exited, and no exit complains. Every
    schedule can go on to the end of the programs. -/
theorem no_update_lost (counter : PeerCounter) (programs : ι → List CounterCall) (schedule : List ι)
    (unreset : ∀ client, .reset ∉ programs client)
    (solvent : Sharing.Solvent programs) (room : Sharing.HasRoom counter programs schedule) :
    let shared := (Sharing.start counter programs).run schedule
    shared.journal = [] ∧
      (∀ peer, (shared.counter.inFlight peer).toNat + shared.completed (.exit peer) =
        (counter.inFlight peer).toNat + shared.completed (.enter peer)) ∧
      (shared.Finished → ∀ peer,
        (shared.counter.inFlight peer).toNat + ∑ client, (programs client).count (.exit peer) =
          (counter.inFlight peer).toNat + ∑ client, (programs client).count (.enter peer)) ∧
      ∃ rest, ((Sharing.start counter programs).run (schedule ++ rest)).Finished := by
  intro shared
  have lossless : shared.Lossless counter := lossless_run counter programs schedule unreset solvent room
  have follows : shared.Follows programs := Sharing.follows_run counter programs schedule
  refine ⟨lossless.silent, lossless.balance, ?_, ?_⟩
  · intro finished peer
    rw [← follows.completed_eq finished, ← follows.completed_eq finished]
    exact lossless.balance peer
  · rcases shared.exists_finished with ⟨rest, done⟩
    use rest
    rw [Sharing.run, List.foldl_append]
    exact done

theorem no_update_lost_racing_registration :
    let peer : NodeId := ⟨7⟩
    let programs : Fin 2 → List CounterCall := fun client =>
      if client = 0 then [.enter peer, .exit peer] else [.enter peer, .enter peer]
    let shared := (Sharing.start empty programs).run [0, 1, 1, 0, 1, 0]
    (∀ client, .reset ∉ programs client) ∧ Sharing.Solvent programs ∧
      Sharing.HasRoom empty programs [0, 1, 1, 0, 1, 0] ∧
      (∀ client, (((Sharing.start empty programs).run [0, 1]).clients client).missed = true) ∧
      shared.Finished ∧ shared.journal = [] ∧ (shared.counter.inFlight peer).toNat = 2 := by
  intro peer programs shared
  have unreset : ∀ client, CounterCall.reset ∉ programs client := by decide
  have solvent : Sharing.Solvent programs := by
    intro client earlier before other
    have possible : earlier = [] ∨ earlier = [.enter peer] ∨ earlier = [.enter peer, .exit peer] ∨
        earlier = [.enter peer, .enter peer] := by
      simp only [programs] at before
      split at before <;> grind [List.prefix_cons_iff]
    rcases possible with rfl | rfl | rfl | rfl <;> simp [List.count_cons]
  have room : Sharing.HasRoom empty programs [0, 1, 1, 0, 1, 0] := by
    apply Sharing.hasRoom_of_few
    intro other
    have entered : ∑ client, (programs client).count (.enter other) ≤
        ∑ client, (programs client).length := Finset.sum_le_sum fun _ _ => List.count_le_length
    have length : ∑ client, (programs client).length = 4 := by decide
    have zero : (empty.inFlight other).toNat = 0 := rfl
    have word : UInt64.size = 18446744073709551616 := rfl
    omega
  have finished : shared.Finished := by decide
  obtain ⟨silent, -, last, -⟩ := no_update_lost empty programs [0, 1, 1, 0, 1, 0] unreset solvent room
  have entered : ∑ client, (programs client).count (.enter peer) = 3 := by decide
  have exited : ∑ client, (programs client).count (.exit peer) = 1 := by decide
  have count := last finished peer
  rw [entered, exited] at count
  exact ⟨unreset, solvent, room, by decide, finished, silent, Nat.succ.inj count⟩

end PeerCounter

end GossipIntake
