import GossipIntake.Proofs.Window.Representation
import Mathlib.Data.List.Flatten

namespace GossipIntake

universe u v w

theorem Table.filter_filter {K : Type u} {V : Type v} [BEq K] (table : Table K V)
    (first second : K → V → Bool) :
    (table.filter first).filter second =
      table.filter fun key value => second key value && first key value :=
  ext List.filter_filter

namespace Window

variable {K : Type u} {V : Type v} [BEq K] [EquivBEq K] [BEq V] [Sequenced K] {window : Window K V}

omit [EquivBEq K] in
theorem Indexed.floor_le (indexed : window.Indexed) {key : K} (stored : key ∈ window.entries.keys) :
    window.floor ≤ Sequenced.sequence key := by
  obtain ⟨bucket, member, -, place⟩ := indexed.exists_bucket stored
  rw [place]
  exact indexed.above bucket member

theorem Indexed.shift_floor (indexed : window.Indexed) : window.shift window.floor = .ok (0, window) := by
  have keys : ∀ key ∈ window.entries.keys, ¬ Sequenced.sequence key < window.floor :=
    fun key stored => UInt64.not_lt.mpr (indexed.floor_le stored)
  have none : window.entries.keys.filter (fun key => Sequenced.sequence key < window.floor) = [] :=
    List.filter_eq_nil_iff.mpr fun key stored => by simp [keys key stored]
  have entries : window.entries.filter (fun key _ => !(Sequenced.sequence key < window.floor)) =
      window.entries :=
    Table.ext (List.filter_eq_self.mpr fun entry member => by
      simp [keys entry.1 (List.mem_map_of_mem member)])
  have buckets : window.buckets.filter (fun sequence _ => !(sequence < window.floor)) =
      window.buckets :=
    Table.ext (List.filter_eq_self.mpr fun bucket member => by
      simp [UInt64.not_lt.mpr (indexed.above bucket member)])
  rw [indexed.shift_allowed (UInt64.lt_irrefl _), none, entries, buckets]
  rfl

omit [EquivBEq K] [Sequenced K] in
theorem le_of_shift {floor : UInt64} {evicted : Nat} {next : Window K V}
    (done : window.shift floor = .ok (evicted, next)) : window.floor ≤ floor := by
  apply UInt64.not_lt.mp
  intro below
  rw [shift_error_iff.mpr ⟨below, rfl⟩] at done
  cases done

theorem Indexed.shift_shift (indexed : window.Indexed) {stop floor : UInt64} {evicted : Nat}
    {next : Window K V} (done : window.shift stop = .ok (evicted, next)) (ordered : stop ≤ floor) :
    ∃ more total final, next.shift floor = .ok (more, final) ∧
      window.shift floor = .ok (total, final) := by
  have allowed : ¬ stop < window.floor := UInt64.not_lt.mpr (le_of_shift done)
  have further : ¬ floor < next.floor := by
    rw [floor_shift done]
    exact UInt64.not_lt.mpr ordered
  have whole : ¬ floor < window.floor := by
    exact UInt64.not_lt.mpr (UInt64.le_trans (le_of_shift done) ordered)
  have later := (indexed.shift done).shift_allowed further
  have once := indexed.shift_allowed whole
  have absorbed (sequence : UInt64) :
      (!decide (sequence < floor) && !decide (sequence < stop)) = !decide (sequence < floor) := by
    by_cases above : sequence < floor
    · simp [above]
    · have notBelow : ¬ sequence < stop := fun below =>
        above (UInt64.lt_of_lt_of_le below ordered)
      simp [above, notBelow]
  rw [indexed.shift_allowed allowed] at done
  cases done
  simp only [Table.filter_filter, absorbed] at later
  exact ⟨_, _, _, later, once⟩

theorem Indexed.removed_shift_eq (indexed : window.Indexed) {floor : UInt64} {evicted : Nat}
    {next : Window K V} (done : window.shift floor = .ok (evicted, next)) :
    window.removed next =
      window.entries.entries.filter fun entry => Sequenced.sequence entry.1 < floor := by
  have same := indexed.shift_allowed (UInt64.not_lt.mpr (le_of_shift done))
  rw [done] at same
  cases same
  rw [removed_eq (fun key => !(Sequenced.sequence key < floor)) rfl]
  simp only [Bool.not_not]

omit [EquivBEq K] [Sequenced K] in
open scoped List in
theorem removed_append_removed {before middle after : Window K V}
    (first : (middle.entries.entries ++ before.removed middle).Perm before.entries.entries)
    (second : (after.entries.entries ++ middle.removed after).Perm middle.entries.entries)
    (whole : (after.entries.entries ++ before.removed after).Perm before.entries.entries) :
    (before.removed middle ++ middle.removed after).Perm (before.removed after) := by
  apply (List.perm_append_left_iff after.entries.entries).mp
  calc after.entries.entries ++ (before.removed middle ++ middle.removed after)
    _ ~ after.entries.entries ++ (middle.removed after ++ before.removed middle) :=
      List.perm_append_comm.append_left _
    _ = (after.entries.entries ++ middle.removed after) ++ before.removed middle :=
      (List.append_assoc _ _ _).symm
    _ ~ middle.entries.entries ++ before.removed middle := second.append_right _
    _ ~ before.entries.entries := first
    _ ~ after.entries.entries ++ before.removed after := whole.symm

def evictions (window : Window K V) : List UInt64 → List (List (K × ValueSet V))
  | [] => []
  | floor :: rest =>
    let next := (window.answer (.shift floor)).2
    window.removed next :: next.evictions rest

theorem Indexed.answer_shift (indexed : window.Indexed) {floor : UInt64}
    (allowed : window.floor ≤ floor) :
    ∃ next, window.shift floor = .ok ((window.removed next).length, next) ∧
      window.answer (.shift floor) = (.evicted (window.removed next).length, next) := by
  have done := indexed.shift_allowed (UInt64.not_lt.mpr allowed)
  rw [(indexed.removed_shift done).2] at done
  refine ⟨_, done, ?_⟩
  rw [Window.answer, done, WindowAnswer.ofAttempt]

theorem Indexed.answer_shifts (indexed : window.Indexed) {stops : List UInt64} {last : UInt64}
    (ordered : (window.floor :: (stops ++ [last])).IsChain (· ≤ ·)) :
    ∃ total final, window.shift last = .ok (total, final) ∧
      runAll Window.answer window ((stops ++ [last]).map .shift) =
        (((window.evictions (stops ++ [last])).map (·.length)).map .evicted, final) ∧
      (window.evictions (stops ++ [last])).flatten.Perm (window.removed final) := by
  induction stops generalizing window with
  | nil =>
    obtain ⟨next, done, answered⟩ := indexed.answer_shift (List.isChain_pair.mp ordered)
    refine ⟨_, next, done, ?_⟩
    simp [runAll, evictions, answered]
  | cons stop rest ih =>
    rw [List.cons_append, List.isChain_cons_cons] at ordered
    obtain ⟨first, later⟩ := ordered
    obtain ⟨next, done, answered⟩ := indexed.answer_shift first
    have reached : next.floor = stop := floor_shift done
    obtain ⟨more, final, further, answers, gone⟩ :=
      ih (indexed.shift done) (by rw [reached]; exact later)
    have ahead : stop ≤ last := reached ▸ le_of_shift further
    obtain ⟨_, total, _, same, whole⟩ := indexed.shift_shift done ahead
    rw [further] at same
    cases same
    refine ⟨total, final, whole, ?_, ?_⟩
    · simp only [List.cons_append, List.map_cons, runAll, evictions, answered, answers]
    · rw [List.cons_append, evictions, answered, List.flatten_cons]
      exact (gone.append_left _).trans (removed_append_removed (indexed.removed_shift done).1
        ((indexed.shift done).removed_shift further).1 (indexed.removed_shift whole).1)

/-- However a shift is split, it ends in the same window and evicts the same keys, each once. A shift
    to the floor itself changes nothing. -/
theorem shift_splits (floor : UInt64) (calls : List (WindowCall K V)) :
    let window := (runAll Window.answer (Window.new floor : Window K V) calls).2
    window.shift window.floor = .ok (0, window) ∧
    ∀ (stops : List UInt64) (last : UInt64),
      (window.floor :: (stops ++ [last])).IsChain (· ≤ ·) →
      ∃ total final, window.shift last = .ok (total, final) ∧
        runAll Window.answer window ((stops ++ [last]).map .shift) =
          (((window.evictions (stops ++ [last])).map (·.length)).map .evicted, final) ∧
        ((window.evictions (stops ++ [last])).map (·.length)).sum = total ∧
        (window.evictions (stops ++ [last])).flatten.Perm
          (window.entries.entries.filter fun entry => Sequenced.sequence entry.1 < last) ∧
        (window.evictions (stops ++ [last])).flatten.Pairwise
          (fun a b => (a.1 == b.1) = false) := by
  intro window
  have indexed : window.Indexed := (reachable_runAll floor calls).indexed
  refine ⟨indexed.shift_floor, fun stops last ordered => ?_⟩
  obtain ⟨total, final, done, answers, gone⟩ := indexed.answer_shifts ordered
  have below : window.removed final =
      window.entries.entries.filter fun entry => Sequenced.sequence entry.1 < last :=
    indexed.removed_shift_eq done
  have count : total = (window.removed final).length := (indexed.removed_shift done).2
  refine ⟨total, final, done, answers, ?_, below ▸ gone, ?_⟩
  · rw [count, ← gone.length_eq, List.length_flatten]
  · have distinct := window.entries.distinct.filter fun entry => Sequenced.sequence entry.1 < last
    rw [← below] at distinct
    exact (gone.pairwise_iff fun apart => by rw [BEq.comm]; exact apart).mpr distinct

theorem shift_splits_identity_keys :
    let calls : List (WindowCall IdentityKey UInt8) :=
      [.insert ⟨1, 4⟩ 7, .clear, .insert ⟨2, 5⟩ 1, .insert ⟨2, 9⟩ 2, .insert ⟨1, 6⟩ 7, .shift 4,
        .create ⟨3, 4⟩ [.add 1, .remove 1], .insert ⟨4, 8⟩ 3]
    let window := (runAll Window.answer (Window.new 3) calls).2
    ([window.floor, 4, 6, 8].IsChain (· ≤ ·)) ∧
      (window.evictions [4, 6, 8]).map (·.length) = [0, 2, 1] ∧
      window.shift 4 = .ok (0, window) ∧
      ∃ final, window.shift 8 = .ok (3, final) ∧
        runAll Window.answer window [.shift 4, .shift 6, .shift 8] =
          ([.evicted 0, .evicted 2, .evicted 1], final) := by
  intro calls window
  have ordered : (window.floor :: ([4, 6] ++ [8])).IsChain (· ≤ ·) := by decide
  have parts : (window.evictions ([4, 6] ++ [8])).map (·.length) = [0, 2, 1] := by decide
  obtain ⟨unmoved, splits⟩ := shift_splits 3 calls
  obtain ⟨total, final, done, answers, count, -⟩ := splits [4, 6] 8 ordered
  rw [parts] at answers count
  subst count
  exact ⟨ordered, parts, unmoved, final, done, answers⟩

end Window

end GossipIntake
