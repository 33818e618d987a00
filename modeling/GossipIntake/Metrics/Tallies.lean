import GossipIntake.Deduplicator.Outcome
import GossipIntake.Json.Render

namespace GossipIntake

inductive Tally where
  | duplicate
  | nonDuplicate
  | disparateSignature
  | ancient
deriving DecidableEq, Repr

structure Tallies where
  duplicate : UInt64 := 0
  nonDuplicate : UInt64 := 0
  disparateSignature : UInt64 := 0
  ancient : UInt64 := 0
deriving DecidableEq, Repr

namespace Tallies

def value (tallies : Tallies) : Tally → UInt64
  | .duplicate => tallies.duplicate
  | .nonDuplicate => tallies.nonDuplicate
  | .disparateSignature => tallies.disparateSignature
  | .ancient => tallies.ancient

def bump (tallies : Tallies) : Tally → Tallies
  | .duplicate => { tallies with duplicate := tallies.duplicate + 1 }
  | .nonDuplicate => { tallies with nonDuplicate := tallies.nonDuplicate + 1 }
  | .disparateSignature => { tallies with disparateSignature := tallies.disparateSignature + 1 }
  | .ancient => { tallies with ancient := tallies.ancient + 1 }

def record (tallies : Tallies) : Outcome → Tallies
  | .ancient => tallies.bump .ancient
  | .duplicate => tallies.bump .duplicate
  | .disparateSignature => (tallies.bump .disparateSignature).bump .nonDuplicate
  | .accepted => tallies.bump .nonDuplicate

/-- The share of duplicates among all events that were not ancient. -/
def duplicateRatio (tallies : Tallies) : Float :=
  let total := tallies.duplicate + tallies.nonDuplicate
  if 0 < total then tallies.duplicate.toFloat / total.toFloat else 0

def toJson (tallies : Tallies) : Json :=
  .ofMembers
    [("duplicate_events", .ofNat tallies.duplicate.toNat),
     ("non_duplicate_events", .ofNat tallies.nonDuplicate.toNat),
     ("disparate_signature_events", .ofNat tallies.disparateSignature.toNat),
     ("ancient_events", .ofNat tallies.ancient.toNat)]

end Tallies

inductive Recorder where
  | tallying (tallies : Tallies)
  | silent
deriving DecidableEq, Repr

namespace Recorder

def record (recorder : Recorder) (outcome : Outcome) : Recorder :=
  match recorder with
  | .tallying tallies => .tallying (tallies.record outcome)
  | .silent => .silent

def bump (recorder : Recorder) (tally : Tally) : Recorder :=
  match recorder with
  | .tallying tallies => .tallying (tallies.bump tally)
  | .silent => .silent

def tallies? : Recorder → Option Tallies
  | .tallying tallies => some tallies
  | .silent => none

end Recorder

end GossipIntake
