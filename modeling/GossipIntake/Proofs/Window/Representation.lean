import GossipIntake.Proofs.Window.Counts
import GossipIntake.Proofs.Window.Refinement

namespace GossipIntake

universe u v w

theorem Table.countP_keys {K : Type u} {V : Type v} [BEq K] [EquivBEq K] (table : Table K V)
    (key : K) : table.keys.countP (· == key) = if table.contains key then 1 else 0 := by
  obtain ⟨entries, distinct⟩ := table
  simp only [keys, contains]
  induction entries with
  | nil => rfl
  | cons entry rest ih =>
    obtain ⟨apart, tail⟩ := List.pairwise_cons.mp distinct
    cases same : entry.1 == key with
    | true =>
      have others : (rest.map (·.1)).countP (· == key) = 0 := by
        rw [List.countP_eq_zero, List.forall_mem_map]
        intro other member equal
        have alike := BEq.trans same (BEq.symm equal)
        rw [apart other member] at alike
        cases alike
      simp only [List.map_cons, List.countP_cons, List.any_cons, same, others]
      rfl
    | false =>
      simp only [List.map_cons, List.countP_cons, List.any_cons, same, Bool.false_or]
      exact ih tail

theorem WindowAnswer.ofAttempt_induct {R : Type w} {S : Type v} {P : S → Prop} {state : S}
    (holds : P state) (label : R → WindowAnswer) {attempt : Except WindowError (R × S)}
    (kept : ∀ result next, attempt = .ok (result, next) → P next) :
    P (WindowAnswer.ofAttempt label state attempt).2 := by
  cases attempt with
  | error => exact holds
  | ok outcome => exact kept outcome.1 outcome.2 rfl

namespace Window

variable {K : Type u} {V : Type v} [BEq K] [BEq V] [Sequenced K] {window : Window K V}

/-- A set that was got or created may change in any way, and an insertion is one such change. A
    refusal leads nowhere else. -/
inductive Reachable : Window K V → Prop where
  | new (floor : UInt64) : Reachable (Window.new floor)
  | update {window next : Window K V} {R : Type} {key : K} {result : R}
      {change : ValueSet V → R × ValueSet V} (reachable : Reachable window)
      (done : window.update key change = .ok (result, next)) : Reachable next
  | shift {window next : Window K V} {floor : UInt64} {evicted : Nat} (reachable : Reachable window)
      (done : window.shift floor = .ok (evicted, next)) : Reachable next
  | clear {window : Window K V} (reachable : Reachable window) : Reachable window.clear

theorem Reachable.answer (reachable : window.Reachable) (call : WindowCall K V) :
    (window.answer call).2.Reachable := by
  cases call with
  | create key edits =>
    exact WindowAnswer.ofAttempt_induct reachable _ fun _ _ done => reachable.update done
  | insert key value =>
    exact WindowAnswer.ofAttempt_induct reachable _ fun _ _ done => reachable.update done
  | shift floor =>
    exact WindowAnswer.ofAttempt_induct reachable _ fun _ _ done => reachable.shift done
  | clear => exact reachable.clear

theorem reachable_runAll (floor : UInt64) (calls : List (WindowCall K V)) :
    (runAll Window.answer (Window.new floor) calls).2.Reachable := by
  have kept (calls : List (WindowCall K V)) {window : Window K V} (reachable : window.Reachable) :
      (runAll Window.answer window calls).2.Reachable := by
    induction calls generalizing window with
    | nil => exact reachable
    | cons call rest ih => exact ih (reachable.answer call)
  exact kept calls (.new floor)

theorem Reachable.indexed [EquivBEq K] (reachable : window.Reachable) : window.Indexed := by
  induction reachable with
  | new floor => exact indexed_new floor
  | update _ done ih => exact ih.update done
  | shift _ done ih => exact ih.shift done
  | clear => exact indexed_clear _

/-- The index names what is resident, each key once and in its place, and holds nothing else. -/
structure NamesResidents (window : Window K V) : Prop where
  /-- Equal keys count as one, so a key that is not resident has no equal in the index either. -/
  once : ∀ key, window.indexed.countP (· == key) = if window.contains key then 1 else 0
  inPlace : ∀ key ∈ window.entries.keys,
    ∃ keys, window.buckets.get? (Sequenced.sequence key) = some keys ∧ key ∈ keys
  stored : ∀ bucket ∈ window.buckets.entries, ∀ key ∈ bucket.2,
    key ∈ window.entries.keys ∧ Sequenced.sequence key = bucket.1
  occupied : ∀ bucket ∈ window.buckets.entries, bucket.2 ≠ []
  distinct : window.indexed.Pairwise (fun a b => (a == b) = false)
  above : ∀ bucket ∈ window.buckets.entries, window.floor ≤ bucket.1
  size : window.indexed.length = window.size

theorem Indexed.namesResidents [EquivBEq K] (indexed : window.Indexed) : window.NamesResidents where
  once key := by rw [indexed.perm.countP_eq, Table.countP_keys, contains]
  inPlace key stored := by
    obtain ⟨bucket, member, inside, place⟩ := indexed.exists_bucket stored
    refine ⟨bucket.2, ?_, inside⟩
    rw [place, Table.get?, Table.find?_of_mem member, Option.map_some]
  stored bucket member key inside :=
    ⟨indexed.mem_keys member inside, indexed.placed bucket member key inside⟩
  occupied := indexed.occupied
  distinct := indexed.distinct
  above := indexed.above
  size := by rw [indexed.perm.length_eq, Table.keys, List.length_map, size, Table.size]

def detached (window : Window K V) (floor : UInt64) : List K :=
  (window.buckets.filter fun sequence _ => sequence < floor).entries.flatMap (·.2)

theorem Indexed.detached_eq (indexed : window.Indexed) (floor : UInt64) :
    window.detached floor = window.indexed.filter fun key => Sequenced.sequence key < floor :=
  flatMap_filter_buckets (fun sequence => sequence < floor) indexed.placed

theorem Indexed.detached_distinct [EquivBEq K] (indexed : window.Indexed) (floor : UInt64) :
    (window.detached floor).Pairwise (fun a b => (a == b) = false) := by
  rw [indexed.detached_eq]
  exact indexed.distinct.filter _

theorem Indexed.mem_keys_of_detached (indexed : window.Indexed) {floor : UInt64} {key : K}
    (member : key ∈ window.detached floor) : key ∈ window.entries.keys := by
  rw [indexed.detached_eq] at member
  exact indexed.perm.mem_iff.mp (List.mem_filter.mp member).1

theorem Indexed.find?_evict [EquivBEq K] (indexed : window.Indexed) {floor : UInt64}
    {before after : List K} {key : K} (split : window.detached floor = before ++ key :: after) :
    ∃ values, (evict window.entries before).2.find? key = some (key, values) := by
  have distinct := indexed.detached_distinct floor
  rw [split, List.pairwise_append] at distinct
  obtain ⟨-, -, apart⟩ := distinct
  have stored : key ∈ window.entries.keys := indexed.mem_keys_of_detached (by rw [split]; simp)
  obtain ⟨entry, member, rfl⟩ := List.mem_map.mp stored
  refine ⟨entry.2, ?_⟩
  rw [evict_snd, Table.find?_filter, Table.find?_of_mem member, Option.filter_some]
  -- Only a key equal to this one could have removed it, and the index names no two equal keys.
  refine if_pos ?_
  rw [Bool.not_eq_true', List.any_eq_false]
  intro other earlier same
  have alike := BEq.symm same
  rw [apart other earlier entry.1 (by simp)] at alike
  cases alike

omit [Sequenced K] in
theorem not_contains_evict {entries : Table K (ValueSet V)} [EquivBEq K] {keys : List K} {key : K}
    (gone : key ∈ keys) : (evict entries keys).2.contains key = false := by
  rw [evict_snd, Table.contains_eq_false]
  intro entry survivor
  obtain ⟨-, kept⟩ := List.mem_filter.mp survivor
  rw [Bool.not_eq_true', List.any_eq_false] at kept
  simpa using kept key gone

theorem Indexed.shift_detached [EquivBEq K] (indexed : window.Indexed) {floor : UInt64}
    (allowed : window.floor ≤ floor) :
    ∃ next, window.shift floor = .ok ((window.detached floor).length, next) ∧
      next.entries = (evict window.entries (window.detached floor)).2 := by
  have stored : ∀ key ∈ window.detached floor, window.entries.contains key = true := by
    intro key member
    exact Table.contains_iff.mpr ⟨key, indexed.mem_keys_of_detached member, BEq.rfl⟩
  have count := evict_fst (indexed.detached_distinct floor) stored
  refine ⟨{ floor
            entries := (evict window.entries (window.detached floor)).2
            buckets := window.buckets.filter fun sequence _ => !(sequence < floor) }, ?_, rfl⟩
  rw [Window.shift, if_neg (UInt64.not_lt.mpr allowed), ← count]
  rfl

/-- In every state that can be reached the index names the resident keys, each once and in its place,
    and nothing that was evicted or cleared. A shift finds the entry of each key that it detaches. -/
theorem index_names_residents [EquivBEq K] (reachable : window.Reachable) :
    window.NamesResidents ∧ window.clear.indexed = [] ∧
      ∀ floor, window.floor ≤ floor →
        (∀ before key after, window.detached floor = before ++ key :: after →
          ∃ values, (evict window.entries before).2.find? key = some (key, values)) ∧
        ∃ next, window.shift floor = .ok ((window.detached floor).length, next) ∧
          next.entries = (evict window.entries (window.detached floor)).2 ∧
          ∀ key ∈ window.detached floor, next.indexed.countP (· == key) = 0 := by
  have indexed := reachable.indexed
  refine ⟨indexed.namesResidents, rfl, fun floor allowed => ⟨?_, ?_⟩⟩
  · intro before key after split
    exact indexed.find?_evict split
  · obtain ⟨next, done, entries⟩ := indexed.shift_detached allowed
    refine ⟨next, done, entries, fun key gone => ?_⟩
    rw [(indexed.shift done).namesResidents.once, contains, entries, not_contains_evict gone]
    rfl

theorem index_names_residents_identity_keys :
    let calls : List (WindowCall IdentityKey UInt8) :=
      [.insert ⟨1, 4⟩ 7, .create ⟨1, 9⟩ [.add 8, .remove 7], .insert ⟨2, 5⟩ 1, .shift 5,
        .insert ⟨1, 6⟩ 7, .create ⟨3, 5⟩ [.add 1, .remove 1]]
    let window := (runAll Window.answer (Window.new 3) calls).2
    window.Reachable ∧
      window.buckets.entries.map (fun bucket => (bucket.1, bucket.2.map (·.id))) =
        [(5, [2, 3]), (6, [1])] ∧
      window.NamesResidents ∧ ∃ next, window.shift 6 = .ok (2, next) := by
  intro calls window
  have reachable : window.Reachable := reachable_runAll 3 calls
  have length : (window.detached 6).length = 2 := by decide
  obtain ⟨names, -, shifts⟩ := index_names_residents reachable
  obtain ⟨-, next, done, -⟩ := shifts 6 (by decide)
  rw [length] at done
  exact ⟨reachable, by decide, names, next, done⟩

end Window

end GossipIntake
