import GossipIntake.Proofs.Window.Index
import Mathlib.Algebra.GroupWithZero.Nat
import Mathlib.Data.List.Basic

namespace GossipIntake

universe u v w

theorem Table.sum_modify {K : Type u} {V : Type v} [BEq K] {table : Table K V} {key : K} {value : V}
    [EquivBEq K] (found : table.get? key = some value) (change : V → V) (weight : V → Nat) :
    ((table.modify key change).entries.map fun entry => weight entry.2).sum + weight value =
      (table.entries.map fun entry => weight entry.2).sum + weight (change value) := by
  obtain ⟨entries, distinct⟩ := table
  simp only [get?, find?, modify] at found ⊢
  induction entries with
  | nil => cases found
  | cons entry rest ih =>
    obtain ⟨apart, tail⟩ := List.pairwise_cons.mp distinct
    cases same : entry.1 == key with
    | true =>
      have others := map_modify_of_apart rest key change fun other member => by
        rw [← BEq.congr_right same, BEq.comm]
        exact apart other member
      simp only [List.find?_cons, same, Option.map_some, Option.some.injEq] at found
      subst found
      simp only [List.map_cons, same, if_true, others, List.sum_cons]
      omega
    | false =>
      simp only [List.find?_cons, same] at found
      have later := ih tail found
      simp only [List.map_cons, same, Bool.false_eq_true, if_false, List.sum_cons]
      omega

namespace Window

variable {K : Type u} {V : Type v} [BEq K] [BEq V] [Sequenced K] {window : Window K V}

theorem size_reside (window : Window K V) (key : K) :
    (window.reside key).size = if window.contains key then window.size else window.size + 1 := by
  unfold Window.reside
  split
  · rename_i absent
    rw [contains, absent]
    exact List.length_append
  · rename_i present
    rw [contains, if_pos (by simpa using present)]

theorem valueCount_reside (window : Window K V) (key : K) :
    (window.reside key).valueCount = window.valueCount := by
  unfold Window.reside
  split
  · show List.sum _ = List.sum _
    rw [Table.insertNew, List.map_append, List.sum_append]
    rfl
  · rfl

section

variable [EquivBEq K] {R : Type w} {next : Window K V} {key : K} {result : R}
  {change : ValueSet V → R × ValueSet V}

theorem size_update (done : window.update key change = .ok (result, next)) :
    next.size = if window.contains key then window.size else window.size + 1 := by
  by_cases refused : Sequenced.sequence key < window.floor
  · simp [update, refused] at done
  · rw [update_allowed refused] at done
    cases done
    rw [← size_reside]
    exact List.length_map _

theorem valueCount_update (done : window.update key change = .ok (result, next)) :
    next.valueCount + ((window.get? key).getD ∅).size =
      window.valueCount + (change ((window.get? key).getD ∅)).2.size := by
  by_cases refused : Sequenced.sequence key < window.floor
  · simp [update, refused] at done
  · rw [update_allowed refused, reached_snd] at done
    cases done
    have found : (window.reside key).entries.get? key = some ((window.get? key).getD ∅) := by
      rw [Table.get?, find?_reside, if_pos BEq.rfl, ← reached_snd]
      rfl
    rw [← window.valueCount_reside key]
    exact Table.sum_modify found _ Table.size

end

def removed (before after : Window K V) : List (K × ValueSet V) :=
  before.entries.entries.filter fun entry => !after.contains entry.1

def valuesIn (entries : List (K × ValueSet V)) : Nat := (entries.map fun entry => entry.2.size).sum

section

omit [Sequenced K]

theorem removed_eq [EquivBEq K] {before after : Window K V} (keep : K → Bool)
    (kept : after.entries = before.entries.filter fun key _ => keep key) :
    before.removed after = before.entries.entries.filter fun entry => !keep entry.1 := by
  refine List.filter_congr fun entry member => congrArg _ ?_
  have stored : entry.1 ∈ before.entries.keys := List.mem_map_of_mem member
  rw [contains, kept, Bool.eq_iff_iff, Table.contains_iff, Table.keys_filter_key]
  constructor
  · rintro ⟨other, stays, same⟩
    obtain ⟨alsoStored, keeps⟩ := List.mem_filter.mp stays
    rwa [← Table.eq_of_mem_keys alsoStored stored same]
  · intro keeps
    exact ⟨entry.1, List.mem_filter.mpr ⟨stored, keeps⟩, BEq.rfl⟩

theorem removed_perm [EquivBEq K] {before after : Window K V} (keep : K → Bool)
    (kept : after.entries = before.entries.filter fun key _ => keep key) :
    (after.entries.entries ++ before.removed after).Perm before.entries.entries := by
  rw [removed_eq keep kept, kept]
  exact List.filter_append_perm _ _

theorem size_add_removed {before after : Window K V}
    (split : (after.entries.entries ++ before.removed after).Perm before.entries.entries) :
    after.size + (before.removed after).length = before.size := by
  rw [size, size, Table.size, Table.size, ← split.length_eq, List.length_append]

theorem valueCount_add_removed {before after : Window K V}
    (split : (after.entries.entries ++ before.removed after).Perm before.entries.entries) :
    after.valueCount + valuesIn (before.removed after) = before.valueCount := by
  have total := (split.map fun entry => entry.2.size).sum_nat
  rw [List.map_append, List.sum_append_nat] at total
  exact total

theorem removed_clear [EquivBEq K] (window : Window K V) :
    (window.clear.entries.entries ++ window.removed window.clear).Perm window.entries.entries :=
  removed_perm (fun _ => false)
    (Table.ext (List.filter_eq_nil_iff.mpr fun _ _ => Bool.false_ne_true).symm)

end

theorem Indexed.removed_shift [EquivBEq K] (indexed : window.Indexed) {floor : UInt64} {evicted : Nat}
    {next : Window K V} (done : window.shift floor = .ok (evicted, next)) :
    (next.entries.entries ++ window.removed next).Perm window.entries.entries ∧
      evicted = (window.removed next).length := by
  by_cases refused : floor < window.floor
  · simp [Window.shift, refused] at done
  · rw [indexed.shift_allowed refused] at done
    cases done
    refine ⟨removed_perm (fun key => !(Sequenced.sequence key < floor)) rfl, ?_⟩
    rw [removed_eq (fun key => !(Sequenced.sequence key < floor)) rfl, Table.keys, List.filter_map,
      List.length_map]
    simp only [Bool.not_not]
    rfl

end Window

end GossipIntake
