import GossipIntake.Event.Basic
import GossipIntake.Deduplicator.Outcome

namespace GossipIntake

universe u v

inductive Level where
  | error
  | warn
  | info
  | debug
  | trace
deriving DecidableEq, Repr

namespace Level

def verbosity : Level → Nat
  | .error => 1
  | .warn => 2
  | .info => 3
  | .debug => 4
  | .trace => 5

def name : Level → String
  | .error => "ERROR"
  | .warn => "WARN"
  | .info => "INFO"
  | .debug => "DEBUG"
  | .trace => "TRACE"

end Level

inductive FieldValue where
  | label (text : String)
  | display (text : String)
  | number (n : Nat)
  | flag (value : Bool)
deriving DecidableEq, Repr

def FieldValue.text : FieldValue → String
  | .label text => text
  | .display text => text
  | .number n => toString n
  | .flag value => toString value

inductive Notice where
  | windowShifted (floor : UInt64) (evicted resident : Nat)
  | descriptorRejected (descriptor : Descriptor) (error : WindowError)
  | disparateSignature (descriptor : Descriptor) (sender : NodeId) (signatures : Nat)
  | classified (descriptor : Descriptor) (sender : NodeId) (outcome : Outcome)
  | advanceRefused (current requested : UInt64) (error : WindowError)
  | advanced (threshold : UInt64) (evicted resident : Nat)
  | cleared (dropped : Nat)
  | unknownPeerExit (peer : NodeId)
  | idlePeerExit (peer : NodeId)
  | stageStarted (node : NodeId)
  | stageFinished (node : NodeId) (received forwarded : Nat)
  | stageFailed (node : NodeId) (error : IntakeError)
  | eventsAbandoned (node : NodeId) (count : Nat)
  | loggingStarted (service : String) (json : Bool)
deriving DecidableEq

namespace Notice

def level : Notice → Level
  | windowShifted .. => .trace
  | descriptorRejected .. => .error
  | disparateSignature .. => .debug
  | classified .. => .trace
  | advanceRefused .. => .error
  | advanced .. => .debug
  | cleared .. => .debug
  | unknownPeerExit .. => .warn
  | idlePeerExit .. => .warn
  | stageStarted .. => .info
  | stageFinished .. => .info
  | stageFailed .. => .error
  | eventsAbandoned .. => .warn
  | loggingStarted .. => .debug

def target : Notice → String
  | windowShifted .. => "shared_sequence::sequence_map"
  | descriptorRejected .. | disparateSignature .. | classified .. | advanceRefused .. | advanced ..
  | cleared .. => "hg_01_event_deduplication::domain::deduplicator"
  | unknownPeerExit .. | idlePeerExit .. => "hg_01_event_deduplication::adapters::intake_counter"
  | stageStarted .. | stageFinished .. | stageFailed .. | eventsAbandoned .. =>
    "hg_01_event_deduplication::service"
  | loggingStarted .. => "hg_telemetry::logging"

def message : Notice → String
  | windowShifted .. => "window shifted"
  | descriptorRejected .. => "descriptor rejected by window"
  | disparateSignature .. => "disparate signature for known descriptor"
  | classified .. => "event classified"
  | advanceRefused .. => "minimum generation non-ancient moved backwards"
  | advanced .. => "ancient threshold advanced"
  | cleared .. => "deduplicator cleared"
  | unknownPeerExit .. => "intake exit for peer with no recorded events"
  | idlePeerExit .. => "intake exit would underflow; count left at zero"
  | stageStarted .. => "stage started"
  | stageFinished .. => "input closed, stage stopped"
  | stageFailed .. => "stage stopped on error"
  | eventsAbandoned .. => "queued events dropped after stage failure"
  | loggingStarted .. => "structured logging initialized"

def stageFields (node : NodeId) : List (String × FieldValue) :=
  [("stage", .label "hg-01-event-deduplication"), ("node", .display node.display)]

def fields : Notice → List (String × FieldValue)
  | windowShifted floor evicted resident =>
    [("floor", .number floor.toNat), ("evicted", .number evicted), ("resident", .number resident)]
  | descriptorRejected descriptor error =>
    [("descriptor", .display descriptor.display), ("error", .display error.message)]
  | disparateSignature descriptor sender signatures =>
    [("descriptor", .display descriptor.display), ("sender", .display sender.display),
     ("signatures", .number signatures)]
  | classified descriptor sender outcome =>
    [("descriptor", .display descriptor.display), ("sender", .display sender.display),
     ("outcome", .label outcome.label)]
  | advanceRefused current requested error =>
    [("current", .number current.toNat), ("requested", .number requested.toNat),
     ("error", .display error.message)]
  | advanced threshold evicted resident =>
    [("minimum_generation_non_ancient", .number threshold.toNat), ("evicted", .number evicted),
     ("resident", .number resident)]
  | cleared dropped => [("dropped", .number dropped)]
  | unknownPeerExit peer => [("peer", .display peer.display)]
  | idlePeerExit peer => [("peer", .display peer.display)]
  | stageStarted node => stageFields node
  | stageFinished node received forwarded =>
    stageFields node ++ [("received", .number received), ("forwarded", .number forwarded)]
  | stageFailed node error => stageFields node ++ [("error", .display error.message)]
  | eventsAbandoned node count => stageFields node ++ [("abandoned", .number count)]
  | loggingStarted service json =>
    [("service", .display service), ("json_logs", .flag json)]

def ofShift {K : Type u} {V : Type v} [BEq K] [BEq V] (evicted : Nat) (window : Window K V) : Notice :=
  windowShifted window.floor evicted window.size

end Notice

end GossipIntake
