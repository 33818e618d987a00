namespace GossipIntake.Text

/-- A code point is in a run iff an odd number of edges are at or below it. -/
def inRuns (edges : List Nat) (c : Char) : Bool :=
  (edges.takeWhile (· ≤ c.toNat)).length % 2 == 1

end GossipIntake.Text
