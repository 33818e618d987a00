import GossipIntake.Table

namespace GossipIntake

universe u v w

class Sequenced (K : Type u) where
  sequence : K → UInt64

inductive WindowError where
  | floorRegression (current requested : UInt64)
  | belowFloor (sequence floor : UInt64)
deriving DecidableEq, Repr

def WindowError.message : WindowError → String
  | .floorRegression current requested =>
    "window floor cannot move backwards: current " ++ toString current.toNat ++ ", requested " ++
      toString requested.toNat
  | .belowFloor sequence floor =>
    "sequence number " ++ toString sequence.toNat ++ " is below the window floor " ++
      toString floor.toNat

/-- A multi-map whose keys have sequence numbers, none of them below the floor. The buckets index
    the keys by sequence number, so that eviction looks at the keys to be evicted and no others. -/
structure Window (K : Type u) (V : Type v) [BEq K] [BEq V] where
  floor : UInt64
  entries : Table K (ValueSet V)
  buckets : Table UInt64 (List K)

namespace Window

variable {K : Type u} {V : Type v} [BEq K] [BEq V]

def new (floor : UInt64) : Window K V where
  floor
  entries := ∅
  buckets := ∅

def get? (window : Window K V) (key : K) : Option (ValueSet V) := window.entries.get? key

def contains (window : Window K V) (key : K) : Bool := window.entries.contains key

def size (window : Window K V) : Nat := window.entries.size

def valueCount (window : Window K V) : Nat :=
  (window.entries.entries.map fun entry => entry.2.size).foldr (· + ·) 0

def lowest? (window : Window K V) : Option UInt64 := window.buckets.keys.min?

def highest? (window : Window K V) : Option UInt64 := window.buckets.keys.max?

def reside [Sequenced K] (window : Window K V) (key : K) : Window K V :=
  if absent : window.entries.contains key = false then
    { window with
      entries := window.entries.insertNew key ∅ absent
      buckets := window.buckets.upsert (Sequenced.sequence key) [] (· ++ [key]) }
  else window

/-- Change the set of `key`, creating it first if there is none. A key below the floor is refused,
    and then nothing changes. -/
def update [Sequenced K] {R : Type w} (window : Window K V) (key : K)
    (change : ValueSet V → R × ValueSet V) : Except WindowError (R × Window K V) :=
  if Sequenced.sequence key < window.floor then
    .error (.belowFloor (Sequenced.sequence key) window.floor)
  else
    let resident := window.reside key
    let changed := change ((resident.get? key).getD ∅)
    .ok (changed.1, { resident with entries := resident.entries.modify key fun _ => changed.2 })

def insert [Sequenced K] (window : Window K V) (key : K) (value : V) :
    Except WindowError (Bool × Window K V) :=
  window.update key fun values => values.insert value

def evict (entries : Table K (ValueSet V)) : List K → Nat × Table K (ValueSet V)
  | [] => (0, entries)
  | key :: rest =>
    let tail := evict (entries.erase key) rest
    (if entries.contains key then tail.1 + 1 else tail.1, tail.2)

def shift (window : Window K V) (floor : UInt64) : Except WindowError (Nat × Window K V) :=
  if floor < window.floor then .error (.floorRegression window.floor floor)
  else
    let expired := window.buckets.filter fun sequence _ => sequence < floor
    let evicted := evict window.entries (expired.entries.flatMap (·.2))
    .ok (evicted.1,
      { floor
        entries := evicted.2
        buckets := window.buckets.filter fun sequence _ => !(sequence < floor) })

def clear (window : Window K V) : Window K V := { window with entries := ∅, buckets := ∅ }

theorem shift_error_iff {window : Window K V} {floor : UInt64} {error : WindowError} :
    window.shift floor = .error error ↔
      floor < window.floor ∧ error = .floorRegression window.floor floor := by
  unfold shift
  split
  · simp_all [eq_comm]
  · rename_i allowed
    simp [allowed]

theorem update_error_iff [Sequenced K] {R : Type w} {window : Window K V} {key : K}
    {change : ValueSet V → R × ValueSet V} {error : WindowError} :
    window.update key change = .error error ↔
      Sequenced.sequence key < window.floor ∧
        error = .belowFloor (Sequenced.sequence key) window.floor := by
  unfold update
  split
  · simp_all [eq_comm]
  · rename_i allowed
    simp [allowed]

end Window

end GossipIntake
