namespace GossipIntake

universe u v

/-- Associations in order of arrival, with at most one entry for each class of equal keys. -/
structure Table (K : Type u) (V : Type v) [BEq K] where
  entries : List (K × V) := []
  distinct : entries.Pairwise (fun a b => (a.1 == b.1) = false) := by simp

namespace Table

variable {K : Type u} {V : Type v} [BEq K]

theorem ext {a b : Table K V} (same : a.entries = b.entries) : a = b := by
  cases a
  cases b
  cases same
  rfl

instance [DecidableEq K] [DecidableEq V] : DecidableEq (Table K V) := fun a b =>
  decidable_of_iff (a.entries = b.entries) ⟨ext, fun h => h ▸ rfl⟩

def empty : Table K V := {}

instance : EmptyCollection (Table K V) := ⟨empty⟩

instance : Inhabited (Table K V) := ⟨empty⟩

def find? (table : Table K V) (key : K) : Option (K × V) :=
  table.entries.find? (fun entry => entry.1 == key)

def get? (table : Table K V) (key : K) : Option V := (table.find? key).map (·.2)

def contains (table : Table K V) (key : K) : Bool := table.entries.any (fun entry => entry.1 == key)

def keys (table : Table K V) : List K := table.entries.map (·.1)

def size (table : Table K V) : Nat := table.entries.length

def isEmpty (table : Table K V) : Bool := table.entries.isEmpty

theorem contains_eq_false {table : Table K V} {key : K} :
    table.contains key = false ↔ ∀ entry ∈ table.entries, (entry.1 == key) = false := by
  simp [contains]

theorem contains_eq_isSome_find? (table : Table K V) (key : K) :
    table.contains key = (table.find? key).isSome := by
  unfold contains find?
  induction table.entries with
  | nil => rfl
  | cons entry rest ih =>
    cases h : entry.1 == key
    · simpa [h] using ih
    · simp [h]

def insertNew (table : Table K V) (key : K) (value : V) (absent : table.contains key = false) :
    Table K V where
  entries := table.entries ++ [(key, value)]
  distinct := by
    refine List.pairwise_append.mpr ⟨table.distinct, by simp, ?_⟩
    intro entry member new last
    rw [List.mem_singleton] at last
    subst last
    exact contains_eq_false.mp absent entry member

def modify (table : Table K V) (key : K) (change : V → V) : Table K V where
  entries := table.entries.map fun entry =>
    if entry.1 == key then (entry.1, change entry.2) else entry
  distinct := by
    refine List.pairwise_map.mpr (table.distinct.imp ?_)
    intro a b apart
    split <;> split <;> exact apart

/-- Change the value of `key`, which is `first` if there is none. A stored key stays as it is. -/
def upsert (table : Table K V) (key : K) (first : V) (change : V → V) : Table K V :=
  if absent : table.contains key = false then table.insertNew key (change first) absent
  else table.modify key change

def filter (table : Table K V) (keep : K → V → Bool) : Table K V where
  entries := table.entries.filter fun entry => keep entry.1 entry.2
  distinct := table.distinct.filter _

def erase (table : Table K V) (key : K) : Table K V := table.filter fun stored _ => !(stored == key)

theorem find?_mem {table : Table K V} {key : K} {entry : K × V} (h : table.find? key = some entry) :
    entry ∈ table.entries ∧ (entry.1 == key) = true := by
  have equal := List.find?_some h
  exact ⟨List.mem_of_find?_eq_some h, equal⟩

theorem find?_eq_none {table : Table K V} {key : K} :
    table.find? key = none ↔ table.contains key = false := by
  rw [contains_eq_isSome_find?]
  simp

theorem find?_insertNew [PartialEquivBEq K] (table : Table K V) (key other : K) (value : V)
    (absent : table.contains key = false) :
    (table.insertNew key value absent).find? other =
      if key == other then some (key, value) else table.find? other := by
  simp only [find?, insertNew, List.find?_append]
  cases same : key == other
  · simp [same]
  · have none : table.find? other = none := by
      refine find?_eq_none.mpr (contains_eq_false.mpr fun entry member => ?_)
      have apart := contains_eq_false.mp absent entry member
      cases h : entry.1 == other
      · rfl
      · rw [PartialEquivBEq.trans h (PartialEquivBEq.symm same)] at apart
        cases apart
    rw [find?] at none
    simp [none, same]

theorem find?_filter_key (table : Table K V) (keep : K → Bool) (key : K)
    (alike : ∀ stored, (stored == key) = true → keep stored = keep key) :
    (table.filter fun stored _ => keep stored).find? key =
      if keep key then table.find? key else none := by
  simp only [find?, filter]
  induction table.entries with
  | nil => simp
  | cons entry rest ih =>
    rw [List.filter_cons]
    cases same : entry.1 == key
    · cases kept : keep entry.1
      · simpa [same, kept] using ih
      · simpa [same, kept] using ih
    · rw [alike entry.1 same]
      cases kept : keep key
      · simpa [kept] using ih
      · simp [same]

end Table

/-- A set is a table that says nothing of its keys. -/
abbrev ValueSet (V : Type v) [BEq V] := Table V Unit

namespace ValueSet

variable {V : Type v} [BEq V]

def values (set : ValueSet V) : List V := set.keys

def insert (set : ValueSet V) (value : V) : Bool × ValueSet V :=
  if absent : set.contains value = false then (true, set.insertNew value () absent)
  else (false, set)

def remove (set : ValueSet V) (value : V) : Bool × ValueSet V :=
  (set.contains value, set.erase value)

def insertAll (set : ValueSet V) : List V → List Bool × ValueSet V
  | [] => ([], set)
  | value :: rest =>
    let step := set.insert value
    let tail := insertAll step.2 rest
    (step.1 :: tail.1, tail.2)

def removeAll (set : ValueSet V) : List V → List Bool × ValueSet V
  | [] => ([], set)
  | value :: rest =>
    let step := set.remove value
    let tail := removeAll step.2 rest
    (step.1 :: tail.1, tail.2)

end ValueSet

end GossipIntake
