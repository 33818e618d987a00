import GossipIntake.Proofs.Table
import GossipIntake.Window.Basic

namespace GossipIntake

universe u v w

instance lawfulOrderMaxUInt64 : Std.LawfulOrderMax UInt64 where
  max_eq_or a b := by
    show (if a ≤ b then b else a) = a ∨ (if a ≤ b then b else a) = b
    split <;> simp
  max_le_iff a b c := by
    show (if a ≤ b then b else a) ≤ c ↔ _
    split
    · rename_i ordered
      exact ⟨fun bound => ⟨UInt64.le_trans ordered bound, bound⟩, And.right⟩
    · rename_i reversed
      have below := UInt64.le_of_lt (UInt64.not_le.mp reversed)
      exact ⟨fun bound => ⟨bound, UInt64.le_trans below bound⟩, And.left⟩

theorem Table.forall_mem_upsert {K : Type u} {V : Type v} [BEq K] [LawfulBEq K]
    {P : K × V → Prop} {table : Table K V} {key : K} {first : V} {change : V → V}
    (all : ∀ entry ∈ table.entries, P entry) (created : P (key, change first))
    (changed : ∀ value, P (key, value) → P (key, change value)) :
    ∀ entry ∈ (table.upsert key first change).entries, P entry := by
  intro entry member
  unfold upsert at member
  split at member
  · rcases List.mem_append.mp member with old | new
    · exact all entry old
    · rw [List.mem_singleton.mp new]
      exact created
  · obtain ⟨⟨stored, value⟩, old, rfl⟩ := List.mem_map.mp member
    split
    · rename_i same
      have equal : stored = key := eq_of_beq same
      subst equal
      exact changed value (all _ old)
    · exact all _ old

namespace Window

variable {K : Type u} {V : Type v} [BEq K] [BEq V]

def indexed (window : Window K V) : List K := window.buckets.entries.flatMap (·.2)

/-- The index names every stored key once, at the key's own sequence number. -/
structure Indexed [Sequenced K] (window : Window K V) : Prop where
  perm : window.indexed.Perm window.entries.keys
  placed : ∀ bucket ∈ window.buckets.entries, ∀ key ∈ bucket.2, Sequenced.sequence key = bucket.1
  occupied : ∀ bucket ∈ window.buckets.entries, bucket.2 ≠ []
  above : ∀ bucket ∈ window.buckets.entries, window.floor ≤ bucket.1

variable [Sequenced K] {window : Window K V}

theorem Indexed.mem_keys (indexed : window.Indexed) {bucket : UInt64 × List K} {key : K}
    (member : bucket ∈ window.buckets.entries) (inside : key ∈ bucket.2) :
    key ∈ window.entries.keys :=
  indexed.perm.mem_iff.mp (List.mem_flatMap.mpr ⟨bucket, member, inside⟩)

theorem Indexed.exists_bucket (indexed : window.Indexed) {key : K}
    (stored : key ∈ window.entries.keys) :
    ∃ bucket ∈ window.buckets.entries, key ∈ bucket.2 ∧ Sequenced.sequence key = bucket.1 := by
  obtain ⟨bucket, member, inside⟩ := List.mem_flatMap.mp (indexed.perm.mem_iff.mpr stored)
  exact ⟨bucket, member, inside, indexed.placed bucket member key inside⟩

theorem Indexed.mem_bucket_keys (indexed : window.Indexed) {sequence : UInt64} :
    sequence ∈ window.buckets.keys ↔
      ∃ key ∈ window.entries.keys, Sequenced.sequence key = sequence := by
  constructor
  · intro named
    obtain ⟨bucket, member, rfl⟩ := List.mem_map.mp named
    obtain ⟨key, inside⟩ := List.exists_mem_of_ne_nil _ (indexed.occupied bucket member)
    exact ⟨key, indexed.mem_keys member inside, indexed.placed bucket member key inside⟩
  · rintro ⟨key, stored, rfl⟩
    obtain ⟨bucket, member, -, place⟩ := indexed.exists_bucket stored
    rw [place]
    exact List.mem_map_of_mem member

theorem Indexed.distinct [EquivBEq K] (indexed : window.Indexed) :
    window.indexed.Pairwise (fun a b => (a == b) = false) :=
  (indexed.perm.pairwise_iff fun h => by rw [BEq.comm]; exact h).mpr window.entries.keys_distinct

theorem indexed_new (floor : UInt64) : (Window.new floor : Window K V).Indexed where
  perm := .refl _
  placed := by simp [Window.new, EmptyCollection.emptyCollection, Table.empty]
  occupied := by simp [Window.new, EmptyCollection.emptyCollection, Table.empty]
  above := by simp [Window.new, EmptyCollection.emptyCollection, Table.empty]

theorem indexed_clear (window : Window K V) : window.clear.Indexed := indexed_new window.floor

omit [BEq K] [Sequenced K] in
theorem perm_flatMap_upsert (buckets : Table UInt64 (List K)) (sequence : UInt64) (key : K) :
    ((buckets.upsert sequence [] (· ++ [key])).entries.flatMap (·.2)).Perm
      (buckets.entries.flatMap (·.2) ++ [key]) := by
  unfold Table.upsert
  split
  · simp [Table.insertNew]
  · rename_i present
    obtain ⟨entries, distinct⟩ := buckets
    simp only [Table.contains, Table.modify] at present ⊢
    induction entries with
    | nil => simp at present
    | cons bucket rest ih =>
      obtain ⟨apart, tail⟩ := List.pairwise_cons.mp distinct
      cases same : bucket.1 == sequence with
      | true =>
        -- The other buckets have other numbers, so only this one changes.
        have others := Table.map_modify_of_apart rest sequence (· ++ [key])
          fun other member => by
            rw [BEq.comm, ← eq_of_beq same]
            exact apart other member
        simp only [List.map_cons, same, if_true, List.flatMap_cons, others, List.append_assoc]
        exact (List.perm_append_comm).append_left bucket.2
      | false =>
        simp only [List.any_cons, same, Bool.false_or] at present
        simp only [List.map_cons, same, List.flatMap_cons, List.append_assoc]
        exact (ih tail present).append_left bucket.2

theorem Indexed.reside (indexed : window.Indexed) {key : K}
    (allowed : ¬ Sequenced.sequence key < window.floor) : (window.reside key).Indexed := by
  unfold Window.reside
  split
  · rename_i absent
    refine ⟨?_, ?_, ?_, ?_⟩
    · simp only [Window.indexed, Table.keys_insertNew]
      exact (perm_flatMap_upsert _ _ _).trans (indexed.perm.append_right [key])
    · refine Table.forall_mem_upsert indexed.placed (by simp) fun keys placed other member => ?_
      rcases List.mem_append.mp member with old | new
      · exact placed other old
      · rw [List.mem_singleton.mp new]
    · exact Table.forall_mem_upsert indexed.occupied (by simp) (by simp)
    · exact Table.forall_mem_upsert indexed.above (UInt64.not_lt.mp allowed) fun _ above => above
  · exact indexed

theorem find?_reside [EquivBEq K] (window : Window K V) (key other : K) :
    (window.reside key).entries.find? other =
      if key == other then some ((window.entries.find? key).getD (key, ∅))
      else window.entries.find? other := by
  unfold Window.reside
  split
  · rename_i absent
    rw [Table.find?_insertNew, Table.find?_eq_none.mpr absent]
    rfl
  · rename_i present
    split
    · rename_i same
      rw [← window.entries.find?_congr same]
      cases found : window.entries.find? key with
      | none => exact absurd (Table.find?_eq_none.mp found) present
      | some entry => rfl
    · rfl

/-- The key stored first and the set that `key` reaches: those of the equal resident key, or `key`
    itself and a new empty set. -/
def reached (window : Window K V) (key : K) : K × ValueSet V :=
  (window.entries.find? key).getD (key, ∅)

omit [Sequenced K] in
theorem reached_snd (window : Window K V) (key : K) :
    (window.reached key).2 = (window.get? key).getD ∅ := by
  rw [reached, get?, Table.get?]
  cases window.entries.find? key <;> rfl

theorem update_allowed [EquivBEq K] {R : Type w} {key : K}
    (allowed : ¬ Sequenced.sequence key < window.floor)
    (change : ValueSet V → R × ValueSet V) :
    window.update key change = .ok ((change (window.reached key).2).1,
      { window.reside key with
        entries := (window.reside key).entries.modify key
          fun _ => (change (window.reached key).2).2 }) := by
  have reached : ((window.reside key).get? key).getD ∅ = (window.reached key).2 := by
    rw [get?, Table.get?, find?_reside, if_pos BEq.rfl]
    rfl
  simp only [update, allowed, if_false, reached]

theorem find?_update [EquivBEq K] {R : Type w} {next : Window K V} {key : K} {result : R}
    {change : ValueSet V → R × ValueSet V} (done : window.update key change = .ok (result, next))
    (other : K) :
    next.entries.find? other =
      if key == other then
        some ((window.reached key).1, (change (window.reached key).2).2)
      else window.entries.find? other := by
  by_cases refused : Sequenced.sequence key < window.floor
  · simp [update, refused] at done
  · rw [update_allowed refused] at done
    cases done
    simp only [Table.find?_modify, find?_reside]
    split <;> rfl

theorem get?_update [EquivBEq K] {R : Type w} {next : Window K V} {key : K} {result : R}
    {change : ValueSet V → R × ValueSet V} (done : window.update key change = .ok (result, next))
    (other : K) :
    next.get? other =
      if key == other then some (change ((window.get? key).getD ∅)).2 else window.get? other := by
  rw [← reached_snd, get?, Table.get?, find?_update done]
  split <;> rfl

theorem result_update [EquivBEq K] {R : Type w} {next : Window K V} {key : K} {result : R}
    {change : ValueSet V → R × ValueSet V} (done : window.update key change = .ok (result, next)) :
    result = (change ((window.get? key).getD ∅)).1 := by
  by_cases refused : Sequenced.sequence key < window.floor
  · simp [update, refused] at done
  · rw [update_allowed refused, reached_snd] at done
    cases done
    rfl

theorem update_unchanged [EquivBEq K] {R : Type w} {key : K}
    (allowed : ¬ Sequenced.sequence key < window.floor) {set : ValueSet V}
    (resident : window.get? key = some set) {change : ValueSet V → R × ValueSet V}
    (same : (change set).2 = set) : window.update key change = .ok ((change set).1, window) := by
  have stored : window.entries.contains key = true := by
    rw [Table.contains_eq_isSome_get?, show window.entries.get? key = some set from resident]
    rfl
  have settled : window.reside key = window := by
    rw [Window.reside, dif_neg (by simp [stored])]
  have found : (window.reached key).2 = set := by rw [reached_snd, resident, Option.getD_some]
  rw [update_allowed allowed, settled, found, same]
  exact congrArg (fun entries => Except.ok ((change set).1, { window with entries }))
    (Table.modify_self resident)

theorem floor_reside (window : Window K V) (key : K) : (window.reside key).floor = window.floor := by
  unfold Window.reside
  split <;> rfl

theorem floor_update {R : Type w} {next : Window K V} {key : K} {result : R}
    {change : ValueSet V → R × ValueSet V} (done : window.update key change = .ok (result, next)) :
    next.floor = window.floor := by
  unfold update at done
  split at done
  · cases done
  · cases done
    exact window.floor_reside key

theorem Indexed.update {R : Type w} {next : Window K V} (indexed : window.Indexed) {key : K}
    {result : R} {change : ValueSet V → R × ValueSet V}
    (done : window.update key change = .ok (result, next)) : next.Indexed := by
  unfold Window.update at done
  split at done
  · cases done
  · rename_i allowed
    cases done
    obtain ⟨perm, placed, occupied, above⟩ := indexed.reside allowed
    exact ⟨by rw [Table.keys_modify]; exact perm, placed, occupied, above⟩

omit [Sequenced K] in
theorem evict_snd (entries : Table K (ValueSet V)) (keys : List K) :
    (evict entries keys).2 = entries.filter fun stored _ => !keys.any (stored == ·) := by
  induction keys generalizing entries with
  | nil => exact Table.ext (List.filter_eq_self.mpr fun _ _ => rfl).symm
  | cons key rest ih =>
    rw [evict, ih]
    refine Table.ext ?_
    simp only [Table.erase, Table.filter, List.filter_filter, List.any_cons, Bool.not_or]
    exact List.filter_congr fun entry _ => Bool.and_comm ..

omit [Sequenced K] in
theorem evict_fst [EquivBEq K] {entries : Table K (ValueSet V)} {keys : List K}
    (distinct : keys.Pairwise (fun a b => (a == b) = false))
    (stored : ∀ key ∈ keys, entries.contains key = true) : (evict entries keys).1 = keys.length := by
  induction keys generalizing entries with
  | nil => rfl
  | cons key rest ih =>
    obtain ⟨apart, tail⟩ := List.pairwise_cons.mp distinct
    have later : ∀ other ∈ rest, (entries.erase key).contains other = true := by
      intro other member
      rw [Table.contains_erase, apart other member, stored other (List.mem_cons_of_mem _ member)]
      rfl
    rw [evict, if_pos (stored key (by simp)), ih tail later, List.length_cons]

omit [BEq K] in
theorem flatMap_filter_buckets (keep : UInt64 → Bool) {buckets : List (UInt64 × List K)}
    (placed : ∀ bucket ∈ buckets, ∀ key ∈ bucket.2, Sequenced.sequence key = bucket.1) :
    (buckets.filter fun bucket => keep bucket.1).flatMap (·.2) =
      (buckets.flatMap (·.2)).filter fun key => keep (Sequenced.sequence key) := by
  induction buckets with
  | nil => rfl
  | cons bucket rest ih =>
    have tail := ih fun other member => placed other (List.mem_cons_of_mem _ member)
    have alike : bucket.2.filter (fun key => keep (Sequenced.sequence key)) =
        if keep bucket.1 then bucket.2 else [] := by
      split
      · rename_i kept
        exact List.filter_eq_self.mpr fun key member => by
          rw [placed bucket (by simp) key member, kept]
      · rename_i dropped
        exact List.filter_eq_nil_iff.mpr fun key member => by
          rw [placed bucket (by simp) key member]
          exact dropped
    rw [List.flatMap_cons, List.filter_append, ← tail, alike]
    cases kept : keep bucket.1 <;> simp [kept]

/-- A key is evicted iff its stored form stands below the new floor. -/
theorem Indexed.shift_allowed [EquivBEq K] (indexed : window.Indexed) {floor : UInt64}
    (allowed : ¬ floor < window.floor) :
    window.shift floor = .ok
      ((window.entries.keys.filter fun key => Sequenced.sequence key < floor).length,
        { floor
          entries := window.entries.filter fun key _ => !(Sequenced.sequence key < floor)
          buckets := window.buckets.filter fun sequence _ => !(sequence < floor) }) := by
  have expired : (window.buckets.filter fun sequence _ => sequence < floor).entries.flatMap (·.2) =
      window.indexed.filter fun key => Sequenced.sequence key < floor :=
    flatMap_filter_buckets (fun sequence => sequence < floor) indexed.placed
  have gone : (window.indexed.filter fun key => Sequenced.sequence key < floor).Perm
      (window.entries.keys.filter fun key => Sequenced.sequence key < floor) :=
    indexed.perm.filter _
  have count : (evict window.entries
      (window.indexed.filter fun key => Sequenced.sequence key < floor)).1 =
      (window.entries.keys.filter fun key => Sequenced.sequence key < floor).length := by
    rw [evict_fst (indexed.distinct.filter _), gone.length_eq]
    intro key member
    exact Table.contains_iff.mpr
      ⟨key, indexed.perm.mem_iff.mp ((List.mem_filter.mp member).1), BEq.rfl⟩
  have rest : (evict window.entries
      (window.indexed.filter fun key => Sequenced.sequence key < floor)).2 =
      window.entries.filter fun key _ => !(Sequenced.sequence key < floor) := by
    rw [evict_snd]
    refine Table.ext (List.filter_congr fun entry member => ?_)
    have stored : entry.1 ∈ window.entries.keys := List.mem_map_of_mem member
    -- A stored key that equals an expired one is that very key.
    have same : (window.indexed.filter fun key => Sequenced.sequence key < floor).any (entry.1 == ·) =
        decide (Sequenced.sequence entry.1 < floor) := by
      rw [gone.any_eq, Bool.eq_iff_iff, List.any_eq_true, decide_eq_true_iff]
      constructor
      · rintro ⟨key, evicted, equal⟩
        obtain ⟨other, below⟩ := List.mem_filter.mp evicted
        rw [Table.eq_of_mem_keys stored other equal]
        exact of_decide_eq_true below
      · intro below
        exact ⟨entry.1, List.mem_filter.mpr ⟨stored, decide_eq_true below⟩, BEq.rfl⟩
    simp only [same]
  simp only [Window.shift, allowed, if_false, expired, count, rest]

theorem Indexed.shift [EquivBEq K] (indexed : window.Indexed) {floor : UInt64} {evicted : Nat}
    {next : Window K V} (done : window.shift floor = .ok (evicted, next)) : next.Indexed := by
  by_cases refused : floor < window.floor
  · simp [Window.shift, refused] at done
  · rw [indexed.shift_allowed refused] at done
    cases done
    have kept : ∀ bucket ∈ (window.buckets.filter fun sequence _ => !(sequence < floor)).entries,
        bucket ∈ window.buckets.entries ∧ floor ≤ bucket.1 := by
      intro bucket member
      obtain ⟨old, above⟩ := List.mem_filter.mp member
      exact ⟨old, UInt64.not_lt.mp (by simpa using above)⟩
    refine ⟨?_, ?_, ?_, ?_⟩
    · have names := flatMap_filter_buckets (fun sequence => !(sequence < floor)) indexed.placed
      rw [Table.keys_filter_key window.entries fun key => !(Sequenced.sequence key < floor)]
      exact (List.Perm.of_eq names).trans (indexed.perm.filter _)
    · exact fun bucket member => indexed.placed bucket (kept bucket member).1
    · exact fun bucket member => indexed.occupied bucket (kept bucket member).1
    · exact fun bucket member => (kept bucket member).2

omit [Sequenced K] in
theorem floor_shift {floor : UInt64} {evicted : Nat} {next : Window K V}
    (done : window.shift floor = .ok (evicted, next)) : next.floor = floor := by
  unfold shift at done
  split at done
  · cases done
  · cases done
    rfl

theorem Indexed.get?_shift [LawfulBEq K] (indexed : window.Indexed) {floor : UInt64} {evicted : Nat}
    {next : Window K V} (done : window.shift floor = .ok (evicted, next)) (key : K) :
    next.get? key = if floor ≤ Sequenced.sequence key then window.get? key else none := by
  by_cases refused : floor < window.floor
  · simp [Window.shift, refused] at done
  · rw [indexed.shift_allowed refused] at done
    cases done
    rw [Window.get?, Table.get?, Table.find?_filter, Window.get?, Table.get?]
    cases found : window.entries.find? key with
    | none => simp
    | some entry =>
      have same : entry.1 = key := eq_of_beq (Table.find?_mem found).2
      rw [Option.filter_some, same]
      by_cases below : Sequenced.sequence key < floor
      · simp [below, UInt64.not_le.mpr below]
      · simp [below, UInt64.not_lt.mp below]

end Window

end GossipIntake
