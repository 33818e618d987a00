import GossipIntake.Window.Basic

namespace GossipIntake

structure NumberedKey where
  id : UInt64
  sequence : UInt64
deriving DecidableEq, Repr

instance : Sequenced NumberedKey := ⟨NumberedKey.sequence⟩

/-- Equal if the ids are, whatever the sequence numbers. -/
structure IdentityKey where
  id : UInt64
  sequence : UInt64
deriving Repr

instance : Sequenced IdentityKey := ⟨IdentityKey.sequence⟩

instance : BEq IdentityKey := ⟨fun a b => a.id == b.id⟩

theorem IdentityKey.beq_iff {a b : IdentityKey} : (a == b) = true ↔ a.id = b.id := by
  show (a.id == b.id) = true ↔ _
  simp

instance : EquivBEq IdentityKey where
  rfl := IdentityKey.beq_iff.mpr rfl
  symm h := IdentityKey.beq_iff.mpr (IdentityKey.beq_iff.mp h).symm
  trans h k := IdentityKey.beq_iff.mpr ((IdentityKey.beq_iff.mp h).trans (IdentityKey.beq_iff.mp k))

end GossipIntake
