import GossipIntake.Event.Json
import GossipIntake.Settings.Environment

namespace GossipIntake

structure StageSettings where
  initialCapacity : UInt64 := 1024
  inputQueueCapacity : UInt64 := 1000
  outputQueueCapacity : UInt64 := 1000
  node : NodeId := ⟨0⟩
deriving DecidableEq

namespace StageSettings

/-- Each field has a variable of its own. A queue without room is given room for one. -/
def ofEnvironment (env : Environment) : StageSettings where
  initialCapacity := env.wordOr "HG_DEDUP_INITIAL_CAPACITY" 1024
  inputQueueCapacity := max (env.wordOr "HG_DEDUP_INPUT_QUEUE" 1000) 1
  outputQueueCapacity := max (env.wordOr "HG_DEDUP_OUTPUT_QUEUE" 1000) 1
  node := ⟨env.wordOr "HG_NODE_ID" 0⟩

def toJson (settings : StageSettings) : Json :=
  .ofMembers
    [("initial_capacity", .ofNat settings.initialCapacity.toNat),
     ("input_queue_capacity", .ofNat settings.inputQueueCapacity.toNat),
     ("output_queue_capacity", .ofNat settings.outputQueueCapacity.toNat),
     ("node_id", settings.node.toJson)]

end StageSettings

end GossipIntake
