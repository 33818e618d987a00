import GossipIntake.Table

namespace GossipIntake

universe u v

namespace Table

variable {K : Type u} {V : Type v} [BEq K]

theorem find?_congr [EquivBEq K] (table : Table K V) {a b : K} (same : (a == b) = true) :
    table.find? a = table.find? b := by
  have alike : (fun entry : K × V => entry.1 == a) = fun entry => entry.1 == b := by
    funext entry
    exact BEq.congr_right same
  rw [find?, find?, alike]

theorem contains_congr [EquivBEq K] (table : Table K V) {a b : K} (same : (a == b) = true) :
    table.contains a = table.contains b := by
  rw [contains_eq_isSome_find?, contains_eq_isSome_find?, table.find?_congr same]

theorem contains_iff {table : Table K V} {key : K} :
    table.contains key = true ↔ ∃ stored ∈ table.keys, (stored == key) = true := by
  simp [contains, keys]

theorem contains_of_size_eq_zero {table : Table K V} (none : table.size = 0) (key : K) :
    table.contains key = false := by
  have empty : table.entries = [] := List.eq_nil_of_length_eq_zero none
  rw [contains, empty, List.any_nil]

theorem keys_distinct (table : Table K V) : table.keys.Pairwise (fun a b => (a == b) = false) :=
  List.pairwise_map.mpr table.distinct

theorem nodup_keys [LawfulBEq K] (table : Table K V) : table.keys.Nodup := by
  apply table.keys_distinct.imp
  rintro a b apart rfl
  rw [BEq.rfl] at apart
  cases apart

theorem find?_of_mem [EquivBEq K] {table : Table K V} {entry : K × V}
    (member : entry ∈ table.entries) : table.find? entry.1 = some entry := by
  obtain ⟨entries, distinct⟩ := table
  simp only [find?] at member ⊢
  induction entries with
  | nil => cases member
  | cons head rest ih =>
    obtain ⟨apart, tail⟩ := List.pairwise_cons.mp distinct
    rcases List.mem_cons.mp member with rfl | member
    · simp
    · rw [List.find?_cons_of_neg (by simp [apart entry member])]
      exact ih tail member

theorem find?_filter [EquivBEq K] (table : Table K V) (keep : K → V → Bool) (key : K) :
    (table.filter keep).find? key = (table.find? key).filter fun entry => keep entry.1 entry.2 := by
  cases found : table.find? key with
  | none =>
    refine find?_eq_none.mpr (contains_eq_false.mpr fun entry member => ?_)
    exact contains_eq_false.mp (find?_eq_none.mp found) entry (List.mem_filter.mp member).1
  | some entry =>
    obtain ⟨member, same⟩ := find?_mem found
    rw [← find?_congr _ same]
    cases kept : keep entry.1 entry.2 with
    | true =>
      have stays : entry ∈ (table.filter keep).entries := List.mem_filter.mpr ⟨member, kept⟩
      rw [find?_of_mem stays, Option.filter_some, if_pos kept]
    | false =>
      rw [Option.filter_some, if_neg (by simp [kept])]
      refine find?_eq_none.mpr (contains_eq_false.mpr fun other survivor => ?_)
      obtain ⟨old, kept'⟩ := List.mem_filter.mp survivor
      -- An equal survivor would be the entry itself, which is filtered out.
      cases equal : other.1 == entry.1
      · rfl
      · have found' := find?_of_mem old
        rw [table.find?_congr equal, find?_of_mem member] at found'
        rw [← Option.some.inj found', kept] at kept'
        cases kept'

theorem eq_of_mem_keys [EquivBEq K] {table : Table K V} {a b : K} (left : a ∈ table.keys)
    (right : b ∈ table.keys) (same : (a == b) = true) : a = b := by
  obtain ⟨one, oneMember, rfl⟩ := List.mem_map.mp left
  obtain ⟨two, twoMember, rfl⟩ := List.mem_map.mp right
  have found := find?_of_mem oneMember
  rw [table.find?_congr same, find?_of_mem twoMember] at found
  rw [Option.some.inj found]

@[simp]
theorem keys_insertNew (table : Table K V) (key : K) (value : V)
    (absent : table.contains key = false) :
    (table.insertNew key value absent).keys = table.keys ++ [key] := by
  simp [keys, insertNew]

theorem map_modify_of_apart (rest : List (K × V)) (key : K) (change : V → V)
    (apart : ∀ entry ∈ rest, (entry.1 == key) = false) :
    rest.map (fun entry => if entry.1 == key then (entry.1, change entry.2) else entry) = rest := by
  refine (List.map_congr_left fun entry member => ?_).trans (List.map_id rest)
  rw [apart entry member]
  rfl

@[simp]
theorem keys_modify (table : Table K V) (key : K) (change : V → V) :
    (table.modify key change).keys = table.keys := by
  simp only [keys, modify, List.map_map]
  refine List.map_congr_left fun entry _ => ?_
  simp only [Function.comp_apply]
  split <;> rfl

theorem keys_filter_key (table : Table K V) (keep : K → Bool) :
    (table.filter fun stored _ => keep stored).keys = table.keys.filter keep := by
  simp only [keys, filter, List.filter_map]
  rfl

theorem find?_modify [EquivBEq K] (table : Table K V) (key other : K) (change : V → V) :
    (table.modify key change).find? other =
      if key == other then (table.find? other).map fun entry => (entry.1, change entry.2)
      else table.find? other := by
  have unchanged : ((fun entry : K × V => entry.1 == other) ∘ fun entry : K × V =>
      if entry.1 == key then (entry.1, change entry.2) else entry) = fun entry => entry.1 == other := by
    funext entry
    simp only [Function.comp_apply]
    split <;> rfl
  simp only [find?, modify, List.find?_map, unchanged]
  cases found : table.entries.find? (fun entry => entry.1 == other) with
  | none => simp
  | some entry =>
    have same := List.find?_some found
    rw [Option.map_some, BEq.congr_left same, BEq.comm (a := other)]
    split <;> simp

theorem get?_modify [EquivBEq K] (table : Table K V) (key other : K) (change : V → V) :
    (table.modify key change).get? other =
      if key == other then (table.get? other).map change else table.get? other := by
  rw [get?, find?_modify]
  split <;> simp [get?, Option.map_map, Function.comp_def]

theorem modify_self [EquivBEq K] {table : Table K V} {key : K} {value : V}
    (found : table.get? key = some value) : table.modify key (fun _ => value) = table := by
  refine ext ((List.map_congr_left fun entry member => ?_).trans (List.map_id table.entries))
  split
  · rename_i same
    rw [get?, ← table.find?_congr same, find?_of_mem member, Option.map_some] at found
    rw [← Option.some.inj found]
    rfl
  · rfl

theorem get?_insertNew [PartialEquivBEq K] (table : Table K V) (key other : K) (value : V)
    (absent : table.contains key = false) :
    (table.insertNew key value absent).get? other =
      if key == other then some value else table.get? other := by
  rw [get?, find?_insertNew]
  split <;> rfl

theorem get?_eq_none {table : Table K V} {key : K} :
    table.get? key = none ↔ table.contains key = false := by
  rw [get?, Option.map_eq_none_iff, find?_eq_none]

theorem contains_eq_isSome_get? (table : Table K V) (key : K) :
    table.contains key = (table.get? key).isSome := by
  rw [contains_eq_isSome_find?, get?, Option.isSome_map]

theorem get?_upsert [EquivBEq K] (table : Table K V) (key other : K) (first : V)
    (change : V → V) :
    (table.upsert key first change).get? other =
      if key == other then some (change ((table.get? key).getD first)) else table.get? other := by
  unfold upsert
  split
  · rename_i absent
    rw [get?_insertNew, get?_eq_none.mpr absent]
    rfl
  · rename_i present
    rw [get?_modify]
    split
    · rename_i same
      rw [get?, get?, ← table.find?_congr same]
      cases found : table.find? key with
      | none => exact absurd (find?_eq_none.mp found) present
      | some entry => rfl
    · rfl

@[simp]
theorem contains_modify (table : Table K V) (key other : K) (change : V → V) :
    (table.modify key change).contains other = table.contains other := by
  rw [Bool.eq_iff_iff, contains_iff, contains_iff, keys_modify]

theorem contains_upsert [EquivBEq K] (table : Table K V) (key other : K) (first : V)
    (change : V → V) :
    (table.upsert key first change).contains other = (key == other || table.contains other) := by
  rw [contains_eq_isSome_get?, get?_upsert, contains_eq_isSome_get?]
  cases key == other <;> rfl

theorem find?_erase [EquivBEq K] (table : Table K V) (key other : K) :
    (table.erase key).find? other = if key == other then none else table.find? other := by
  rw [erase, find?_filter_key table (fun stored => !(stored == key)) other
    fun stored same => by rw [BEq.congr_left same], BEq.comm (a := other)]
  cases key == other <;> rfl

theorem contains_erase [EquivBEq K] (table : Table K V) (key other : K) :
    (table.erase key).contains other = (!(key == other) && table.contains other) := by
  rw [contains_eq_isSome_find?, find?_erase, contains_eq_isSome_find?]
  cases key == other <;> rfl

end Table

namespace ValueSet

variable {V : Type v} [BEq V]

theorem contains_insert [EquivBEq V] (set : ValueSet V) (value other : V) :
    (set.insert value).2.contains other = (value == other || set.contains other) := by
  unfold insert
  split
  · rename_i absent
    rw [Table.contains_eq_isSome_find?, Table.find?_insertNew, Table.contains_eq_isSome_find?]
    cases value == other <;> rfl
  · rename_i present
    cases same : value == other
    · rfl
    · simpa [← Table.contains_congr set same] using present

theorem insert_fst (set : ValueSet V) (value : V) :
    (set.insert value).1 = !set.contains value := by
  unfold insert
  split <;> simp_all

theorem size_insert (set : ValueSet V) (value : V) :
    (set.insert value).2.size = if set.contains value then set.size else set.size + 1 := by
  unfold insert
  split
  · rename_i absent
    simp [absent, Table.size, Table.insertNew]
  · rename_i present
    simp [present]

end ValueSet

end GossipIntake
