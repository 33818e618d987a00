import GossipIntake.Proofs.Run
import GossipIntake.Proofs.Window.Index
import GossipIntake.Window.Key
import Mathlib.Algebra.BigOperators.Finprod
import Mathlib.Data.Set.Card

namespace GossipIntake

universe u v w

def equality (α : Type u) [BEq α] [EquivBEq α] : Setoid α where
  r a b := (a == b) = true
  iseqv := ⟨fun _ => BEq.rfl, BEq.symm, BEq.trans⟩

abbrev Class (α : Type u) [BEq α] [EquivBEq α] := Quotient (equality α)

instance {α : Type u} [BEq α] [EquivBEq α] : DecidableEq (Class α) :=
  @Quotient.decidableEq α (equality α) fun a b => inferInstanceAs (Decidable ((a == b) = true))

def classOf {α : Type u} [BEq α] [EquivBEq α] (a : α) : Class α := Quotient.mk (equality α) a

theorem classOf_eq_iff {α : Type u} [BEq α] [EquivBEq α] {a b : α} :
    classOf a = classOf b ↔ (a == b) = true :=
  ⟨fun same => Quotient.exact (s := equality α) same, fun same => Quotient.sound (s := equality α) same⟩

theorem exists_classOf {α : Type u} [BEq α] [EquivBEq α] (c : Class α) : ∃ a, classOf a = c :=
  Quotient.exists_rep c

theorem nodup_map_classOf {α : Type u} [BEq α] [EquivBEq α] {list : List α}
    (distinct : list.Pairwise (fun a b => (a == b) = false)) : (list.map classOf).Nodup := by
  refine List.pairwise_map.mpr (distinct.imp fun apart same => ?_)
  rw [classOf_eq_iff.mp same] at apart
  cases apart

theorem ncard_classes {α : Type u} [BEq α] [EquivBEq α] {list : List α}
    (distinct : list.Pairwise (fun a b => (a == b) = false)) :
    {c | ∃ a ∈ list, classOf a = c}.ncard = list.length := by
  have same : {c | ∃ a ∈ list, classOf a = c} = ((list.map classOf).toFinset : Set (Class α)) := by
    ext c
    simp
  rw [same, Set.ncard_coe_finset, List.toFinset_card_of_nodup (nodup_map_classOf distinct),
    List.length_map]

def ValueSet.classes {V : Type v} [BEq V] [EquivBEq V] (set : ValueSet V) : Finset (Class V) :=
  (set.values.map classOf).toFinset

namespace ValueSet

variable {V : Type v} [BEq V] [EquivBEq V]

theorem mem_classes {set : ValueSet V} {value : V} :
    classOf value ∈ set.classes ↔ set.contains value = true := by
  simp only [classes, List.mem_toFinset, List.mem_map, classOf_eq_iff, Table.contains_iff]
  rfl

theorem classes_insert (set : ValueSet V) (value : V) :
    (set.insert value).2.classes = Insert.insert (classOf value) set.classes := by
  ext c
  obtain ⟨other, rfl⟩ := exists_classOf c
  rw [mem_classes, contains_insert, Finset.mem_insert, mem_classes, classOf_eq_iff, BEq.comm,
    Bool.or_eq_true]

theorem classes_remove (set : ValueSet V) (value : V) :
    (set.remove value).2.classes = set.classes.erase (classOf value) := by
  ext c
  obtain ⟨other, rfl⟩ := exists_classOf c
  rw [mem_classes, Finset.mem_erase, mem_classes, ne_eq, classOf_eq_iff, remove,
    Table.contains_erase, BEq.comm]
  simp

theorem card_classes (set : ValueSet V) : set.classes.card = set.size := by
  have distinct : (set.values.map classOf).Nodup := nodup_map_classOf set.keys_distinct
  rw [classes, List.toFinset_card_of_nodup distinct]
  simp [values, Table.keys, Table.size]

end ValueSet

/-- A table without index and order beside a floor. It evicts by looking at every row. -/
structure PlainWindow (K : Type u) (V : Type v) [BEq K] [EquivBEq K] [BEq V] [EquivBEq V] where
  floor : UInt64
  /-- For each resident class the key stored first and the classes of its values. -/
  row : Class K → Option (K × Finset (Class V))

inductive Edit (V : Type v) where
  | add (value : V)
  | remove (value : V)

namespace Edit

variable {V : Type v} [BEq V]

def apply (set : ValueSet V) : Edit V → Bool × ValueSet V
  | add value => set.insert value
  | remove value => set.remove value

def applyPlain [EquivBEq V] (set : Finset (Class V)) : Edit V → Bool × Finset (Class V)
  | add value => (decide (classOf value ∉ set), insert (classOf value) set)
  | remove value => (decide (classOf value ∈ set), set.erase (classOf value))

theorem apply_alike [EquivBEq V] {set : ValueSet V} {values : Finset (Class V)} (edit : Edit V)
    (same : set.classes = values) :
    (edit.apply set).1 = (edit.applyPlain values).1 ∧
      (edit.apply set).2.classes = (edit.applyPlain values).2 := by
  subst same
  cases edit with
  | add value =>
    refine ⟨?_, set.classes_insert value⟩
    simp [apply, applyPlain, ValueSet.insert_fst, ValueSet.mem_classes]
  | remove value =>
    refine ⟨?_, set.classes_remove value⟩
    simp [apply, applyPlain, ValueSet.remove, ValueSet.mem_classes]

end Edit

inductive WindowCall (K : Type u) (V : Type v) where
  | create (key : K) (edits : List (Edit V))
  | insert (key : K) (value : V)
  | shift (floor : UInt64)
  | clear

inductive WindowAnswer where
  | edited (changed : List Bool)
  | inserted (new : Bool)
  | evicted (count : Nat)
  | cleared
  | refused (error : WindowError)
deriving DecidableEq

def WindowAnswer.ofAttempt {R : Type w} {S : Type v} (label : R → WindowAnswer) (unchanged : S) :
    Except WindowError (R × S) → WindowAnswer × S
  | .ok (result, next) => (label result, next)
  | .error error => (.refused error, unchanged)

variable {K : Type u} {V : Type v} [BEq K] [EquivBEq K] [BEq V] [EquivBEq V] [Sequenced K]

namespace PlainWindow

omit [Sequenced K] in
theorem ext {a b : PlainWindow K V} (floor : a.floor = b.floor) (row : ∀ c, a.row c = b.row c) :
    a = b := by
  cases a
  cases b
  cases floor
  cases funext row
  rfl

def new (floor : UInt64) : PlainWindow K V where
  floor
  row _ := none

def residents (plain : PlainWindow K V) : Set (Class K) := {c | (plain.row c).isSome}

def stored (plain : PlainWindow K V) : Set K := {key | ∃ c values, plain.row c = some (key, values)}

def reached (plain : PlainWindow K V) (key : K) : K × Finset (Class V) :=
  (plain.row (classOf key)).getD (key, ∅)

def update {R : Type w} (plain : PlainWindow K V) (key : K)
    (change : Finset (Class V) → R × Finset (Class V)) : Except WindowError (R × PlainWindow K V) :=
  if Sequenced.sequence key < plain.floor then
    .error (.belowFloor (Sequenced.sequence key) plain.floor)
  else
    let row := plain.reached key
    let changed := change row.2
    .ok (changed.1,
      { plain with row := Function.update plain.row (classOf key) (some (row.1, changed.2)) })

noncomputable def shift (plain : PlainWindow K V) (floor : UInt64) :
    Except WindowError (Nat × PlainWindow K V) :=
  if floor < plain.floor then .error (.floorRegression plain.floor floor)
  else
    .ok ({c | ∃ row, plain.row c = some row ∧ Sequenced.sequence row.1 < floor}.ncard,
      { floor
        row := fun c => (plain.row c).filter fun row => !(Sequenced.sequence row.1 < floor) })

noncomputable def answer (plain : PlainWindow K V) :
    WindowCall K V → WindowAnswer × PlainWindow K V
  | .create key edits =>
    WindowAnswer.ofAttempt .edited plain
      (plain.update key fun values => runAll Edit.applyPlain values edits)
  | .insert key value =>
    WindowAnswer.ofAttempt .inserted plain
      (plain.update key fun values => Edit.applyPlain values (.add value))
  | .shift floor => WindowAnswer.ofAttempt .evicted plain (plain.shift floor)
  | .clear => (.cleared, new plain.floor)

end PlainWindow

namespace Window

def answer (window : Window K V) : WindowCall K V → WindowAnswer × Window K V
  | .create key edits =>
    WindowAnswer.ofAttempt .edited window
      (window.update key fun values => runAll Edit.apply values edits)
  | .insert key value => WindowAnswer.ofAttempt .inserted window (window.insert key value)
  | .shift floor => WindowAnswer.ofAttempt .evicted window (window.shift floor)
  | .clear => (.cleared, window.clear)

def rowOf (entry : K × ValueSet V) : K × Finset (Class V) := (entry.1, entry.2.classes)

structure Shows (window : Window K V) (plain : PlainWindow K V) : Prop where
  indexed : window.Indexed
  floor : window.floor = plain.floor
  row : ∀ key, plain.row (classOf key) = (window.entries.find? key).map rowOf

def Alike {R : Type w} : Except WindowError (R × Window K V) →
    Except WindowError (R × PlainWindow K V) → Prop
  | .ok (result, window), .ok (other, plain) => result = other ∧ window.Shows plain
  | .error error, .error other => error = other
  | _, _ => False

theorem shows_new (floor : UInt64) :
    (Window.new floor : Window K V).Shows (PlainWindow.new floor) where
  indexed := indexed_new floor
  floor := rfl
  row _ := rfl

omit [Sequenced K] in
theorem row_congr (window : Window K V) (a b : K) (same : (equality K).r a b) :
    (window.entries.find? a).map rowOf = (window.entries.find? b).map rowOf := by
  rw [window.entries.find?_congr same]

def plain (window : Window K V) : PlainWindow K V where
  floor := window.floor
  row := Quotient.lift (fun key => (window.entries.find? key).map rowOf) window.row_congr

theorem Indexed.shows {window : Window K V} (indexed : window.Indexed) : window.Shows window.plain where
  indexed
  floor := rfl
  row _ := rfl

variable {window : Window K V} {plain : PlainWindow K V}

theorem Shows.row_iff (shows : window.Shows plain) {c : Class K} {row : K × Finset (Class V)} :
    plain.row c = some row ↔
      ∃ entry ∈ window.entries.entries, classOf entry.1 = c ∧ rowOf entry = row := by
  obtain ⟨key, rfl⟩ := exists_classOf c
  rw [shows.row, Option.map_eq_some_iff]
  constructor
  · rintro ⟨entry, found, rfl⟩
    obtain ⟨member, same⟩ := Table.find?_mem found
    exact ⟨entry, member, classOf_eq_iff.mpr same, rfl⟩
  · rintro ⟨entry, member, same, rfl⟩
    refine ⟨entry, ?_, rfl⟩
    rw [← window.entries.find?_congr (classOf_eq_iff.mp same)]
    exact Table.find?_of_mem member

theorem Shows.reached (shows : window.Shows plain) (key : K) :
    plain.reached key = rowOf (window.reached key) := by
  rw [PlainWindow.reached, shows.row, Window.reached]
  cases window.entries.find? key <;> rfl

theorem Shows.update {R : Type w} (shows : window.Shows plain) (key : K)
    {change : ValueSet V → R × ValueSet V} {plainly : Finset (Class V) → R × Finset (Class V)}
    (alike : ∀ set, (change set).1 = (plainly set.classes).1 ∧
      (change set).2.classes = (plainly set.classes).2) :
    Alike (window.update key change) (plain.update key plainly) := by
  obtain ⟨result, values⟩ := alike (window.reached key).2
  have reached := shows.reached key
  cases done : window.update key change with
  | error error =>
    obtain ⟨below, rfl⟩ := update_error_iff.mp done
    rw [PlainWindow.update, ← shows.floor, if_pos below]
    rfl
  | ok outcome =>
    have allowed : ¬ Sequenced.sequence key < window.floor := by
      intro below
      rw [update_error_iff.mpr ⟨below, rfl⟩] at done
      cases done
    have found := find?_update done
    have sameFloor := floor_update done
    have indexed := shows.indexed.update done
    rw [update_allowed allowed] at done
    rw [PlainWindow.update, ← shows.floor, if_neg allowed, reached]
    cases done
    refine ⟨result, indexed, sameFloor, fun other => ?_⟩
    rw [found]
    simp only [Function.update_apply, classOf_eq_iff, BEq.comm (a := other)]
    split
    · simp [rowOf, values]
    · exact shows.row other

theorem Shows.shift (shows : window.Shows plain) (floor : UInt64) :
    Alike (window.shift floor) (plain.shift floor) := by
  by_cases below : floor < window.floor
  · have refused := shift_error_iff.mpr ⟨below, rfl⟩
    rw [refused, PlainWindow.shift, ← shows.floor, if_pos below]
    rfl
  · have done := shows.indexed.shift_allowed below
    have indexed := shows.indexed.shift done
    have count : {c | ∃ row, plain.row c = some row ∧ Sequenced.sequence row.1 < floor} =
        {c | ∃ key ∈ window.entries.keys.filter (fun key => Sequenced.sequence key < floor),
          classOf key = c} := by
      ext c
      simp only [shows.row_iff, Set.mem_ofPred_eq, List.mem_filter, decide_eq_true_eq]
      constructor
      · rintro ⟨row, ⟨entry, member, same, rfl⟩, low⟩
        exact ⟨entry.1, ⟨List.mem_map_of_mem member, low⟩, same⟩
      · rintro ⟨key, ⟨stored, low⟩, same⟩
        obtain ⟨entry, member, rfl⟩ := List.mem_map.mp stored
        exact ⟨rowOf entry, ⟨entry, member, same, rfl⟩, low⟩
    rw [done, PlainWindow.shift, ← shows.floor, if_neg below]
    refine ⟨?_, indexed, rfl, fun key => ?_⟩
    · rw [count, ncard_classes (window.entries.keys_distinct.filter _)]
    · simp only [shows.row, Table.find?_filter, Option.filter_map]
      rfl

theorem Shows.ofAttempt {R : Type w} (shows : window.Shows plain) (label : R → WindowAnswer)
    {attempt : Except WindowError (R × Window K V)}
    {plainly : Except WindowError (R × PlainWindow K V)} (alike : Alike attempt plainly) :
    (WindowAnswer.ofAttempt label window attempt).1 =
        (WindowAnswer.ofAttempt label plain plainly).1 ∧
      (WindowAnswer.ofAttempt label window attempt).2.Shows
        (WindowAnswer.ofAttempt label plain plainly).2 := by
  rcases attempt with error | ⟨result, next⟩ <;> rcases plainly with other | ⟨same, row⟩
  · exact ⟨congrArg _ alike, shows⟩
  · exact alike.elim
  · exact alike.elim
  · exact ⟨congrArg _ alike.1, alike.2⟩

theorem Shows.answer (shows : window.Shows plain) (call : WindowCall K V) :
    (window.answer call).1 = (plain.answer call).1 ∧
      (window.answer call).2.Shows (plain.answer call).2 := by
  cases call with
  | create key edits =>
    refine shows.ofAttempt .edited (shows.update key fun set => ?_)
    exact runAll_related (fun set values => ValueSet.classes set = values)
      (fun _ _ edit => edit.apply_alike) rfl edits
  | insert key value =>
    have alike : Alike (window.update key fun values => Edit.apply values (.add value))
        (plain.update key fun values => Edit.applyPlain values (.add value)) :=
      shows.update key fun set => (Edit.add value).apply_alike rfl
    exact shows.ofAttempt .inserted alike
  | shift floor => exact shows.ofAttempt .evicted (shows.shift floor)
  | clear => exact ⟨rfl, indexed_clear window, shows.floor, fun _ => rfl⟩

theorem Shows.residents (shows : window.Shows plain) :
    plain.residents = {c | ∃ key ∈ window.entries.keys, classOf key = c} := by
  ext c
  simp only [PlainWindow.residents, Option.isSome_iff_exists, shows.row_iff, Set.mem_ofPred_eq]
  constructor
  · rintro ⟨row, entry, member, same, -⟩
    exact ⟨entry.1, List.mem_map_of_mem member, same⟩
  · rintro ⟨key, stored, same⟩
    obtain ⟨entry, member, rfl⟩ := List.mem_map.mp stored
    exact ⟨rowOf entry, entry, member, same, rfl⟩

theorem Shows.stored (shows : window.Shows plain) (key : K) :
    key ∈ plain.stored ↔ key ∈ window.entries.keys := by
  simp only [PlainWindow.stored, shows.row_iff, Set.mem_ofPred_eq]
  constructor
  · rintro ⟨c, values, entry, member, -, same⟩
    cases same
    exact List.mem_map_of_mem member
  · intro stored
    obtain ⟨entry, member, rfl⟩ := List.mem_map.mp stored
    exact ⟨classOf entry.1, entry.2.classes, entry, member, rfl, rfl⟩

theorem Shows.valueCount (shows : window.Shows plain) :
    window.valueCount = ∑ᶠ c, ((plain.row c).map fun row => row.2.card).getD 0 := by
  have support : (Function.support fun c => ((plain.row c).map fun row => row.2.card).getD 0) ⊆
      ((window.entries.keys.map classOf).toFinset : Set (Class K)) := by
    intro c counted
    have resident : c ∈ plain.residents := by
      by_contra absent
      have none : plain.row c = none := by simpa [PlainWindow.residents] using absent
      simp [none] at counted
    rw [shows.residents] at resident
    simpa using resident
  rw [finsum_eq_sum_of_support_subset _ support,
    List.sum_toFinset _ (nodup_map_classOf window.entries.keys_distinct), Window.valueCount,
    ← List.sum_eq_foldr, Table.keys, List.map_map, List.map_map]
  refine congrArg List.sum (List.map_congr_left fun entry member => ?_)
  have row : plain.row (classOf entry.1) = some (rowOf entry) :=
    shows.row_iff.mpr ⟨entry, member, rfl, rfl⟩
  simp [row, rowOf, ValueSet.card_classes]

theorem Shows.residents_eq_empty (shows : window.Shows plain) :
    plain.residents = ∅ ↔ window.entries.keys = [] := by
  rw [shows.residents, Set.eq_empty_iff_forall_notMem, List.eq_nil_iff_forall_not_mem]
  constructor
  · intro none key stored
    exact none (classOf key) ⟨key, stored, rfl⟩
  · rintro none c ⟨key, stored, -⟩
    exact none key stored

theorem Shows.mem_bucket_keys (shows : window.Shows plain) (sequence : UInt64) :
    sequence ∈ window.buckets.keys ↔ sequence ∈ Sequenced.sequence '' plain.stored := by
  rw [shows.indexed.mem_bucket_keys]
  simp only [Set.mem_image, shows.stored]

/-- Every accessor of the window reads what the plain table holds. -/
structure ReadsAs (window : Window K V) (plain : PlainWindow K V) : Prop where
  floor : window.floor = plain.floor
  get : ∀ key, (window.get? key).map ValueSet.classes = (plain.row (classOf key)).map (·.2)
  contains : ∀ key, window.contains key = (plain.row (classOf key)).isSome
  finite : plain.residents.Finite
  size : window.size = plain.residents.ncard
  isEmpty : window.entries.isEmpty = true ↔ plain.residents = ∅
  valueCount : window.valueCount = ∑ᶠ c, ((plain.row c).map fun row => row.2.card).getD 0
  lowest : ∀ sequence, window.lowest? = some sequence ↔
    IsLeast (Sequenced.sequence '' plain.stored) sequence
  highest : ∀ sequence, window.highest? = some sequence ↔
    IsGreatest (Sequenced.sequence '' plain.stored) sequence
  noBounds : (window.lowest? = none ↔ plain.residents = ∅) ∧
    (window.highest? = none ↔ plain.residents = ∅)
  keys : ∀ key, key ∈ window.entries.keys ↔ key ∈ plain.stored
  /-- Iteration meets each class once, with the key stored first and the set of its values. -/
  iter : ∀ c row, plain.row c = some row ↔
    ∃ entry ∈ window.entries.entries, classOf entry.1 = c ∧ rowOf entry = row
  once : window.entries.keys.Pairwise (fun a b => classOf a ≠ classOf b)

theorem Shows.readsAs (shows : window.Shows plain) : window.ReadsAs plain where
  floor := shows.floor
  get key := by
    rw [shows.row, get?, Table.get?, Option.map_map, Option.map_map]
    rfl
  contains key := by
    rw [shows.row, Option.isSome_map, Window.contains, Table.contains_eq_isSome_find?]
  finite := by
    rw [shows.residents]
    refine ((window.entries.keys.map classOf).toFinset.finite_toSet).subset fun c resident => ?_
    simpa using resident
  size := by
    rw [shows.residents, ncard_classes window.entries.keys_distinct]
    simp [Window.size, Table.size, Table.keys]
  isEmpty := by
    rw [shows.residents_eq_empty]
    simp [Table.isEmpty, Table.keys]
  valueCount := shows.valueCount
  lowest sequence := by
    rw [lowest?, List.min?_eq_some_iff, shows.mem_bucket_keys]
    simp only [shows.mem_bucket_keys]
    rfl
  highest sequence := by
    rw [highest?, List.max?_eq_some_iff, shows.mem_bucket_keys]
    simp only [shows.mem_bucket_keys]
    rfl
  noBounds := by
    have empty : window.buckets.keys = [] ↔ plain.residents = ∅ := by
      rw [shows.residents_eq_empty, List.eq_nil_iff_forall_not_mem, List.eq_nil_iff_forall_not_mem]
      simp only [shows.indexed.mem_bucket_keys]
      constructor
      · intro none key stored
        exact none (Sequenced.sequence key) ⟨key, stored, rfl⟩
      · rintro none sequence ⟨key, stored, -⟩
        exact none key stored
    rw [lowest?, highest?, List.min?_eq_none_iff, List.max?_eq_none_iff]
    exact ⟨empty, empty⟩
  keys key := (shows.stored key).symm
  iter _ _ := shows.row_iff
  once := window.entries.keys_distinct.imp fun apart same => by
    rw [classOf_eq_iff.mp same] at apart
    cases apart

/-- Whatever is done to a window, its answers are those of a plain table, and so is all that its
    accessors read afterwards. -/
theorem refines_plain_table (floor : UInt64) (calls : List (WindowCall K V)) :
    let window := runAll Window.answer (Window.new floor : Window K V) calls
    let plain := runAll PlainWindow.answer (PlainWindow.new floor) calls
    window.1 = plain.1 ∧ window.2.ReadsAs plain.2 := by
  have related := runAll_related Window.Shows (fun _ _ call shows => shows.answer call)
    (shows_new (K := K) (V := V) floor) calls
  exact ⟨related.1, related.2.readsAs⟩

theorem refines_plain_table_identity_keys :
    let calls : List (WindowCall IdentityKey UInt8) :=
      [.insert ⟨1, 5⟩ 7, .create ⟨1, 9⟩ [.add 7, .add 8, .remove 7], .insert ⟨1, 2⟩ 8,
        .create ⟨2, 9⟩ [.add 1, .remove 1], .shift 6, .shift 4, .insert ⟨1, 9⟩ 8, .clear]
    (runAll Window.answer (Window.new 3) calls).1 =
        [.inserted true, .edited [false, true, true], .refused (.belowFloor 2 3),
          .edited [true, true], .evicted 1, .refused (.floorRegression 6 4), .inserted true,
          .cleared] ∧
      (runAll Window.answer (Window.new 3) calls).1 =
        (runAll PlainWindow.answer (PlainWindow.new 3) calls).1 :=
  ⟨by decide, (refines_plain_table 3 _).1⟩

end Window

end GossipIntake
