import GossipIntake.Intake

namespace GossipIntake

/-- What the input queue carries. All kinds share one queue, so they apply in the order they were
    sent. -/
inductive Input where
  | event (event : GossipEvent)
  | advance (generation : UInt64)
  | clear
deriving DecidableEq

structure Report where
  received : UInt64 := 0
  forwarded : UInt64 := 0
  shifts : UInt64 := 0
  clears : UInt64 := 0
deriving DecidableEq, Repr

def Report.toJson (report : Report) : Json :=
  .ofMembers
    [("events_received", .ofNat report.received.toNat),
     ("events_forwarded", .ofNat report.forwarded.toNat),
     ("window_shifts", .ofNat report.shifts.toNat),
     ("clears", .ofNat report.clears.toNat)]

inductive Consumer where
  | listening
  /-- Takes what is in the queue already, and nothing new. -/
  | closed
  | gone
deriving DecidableEq, Repr

structure Output where
  queue : List GossipEvent := []
  capacity : Nat
  consumer : Consumer := .listening
  /-- Whether a slot that was freed is set aside for the event in hand. -/
  promised : Bool := false
deriving DecidableEq

namespace Output

def hasRoom (output : Output) : Bool := output.queue.length < output.capacity

def isReady (output : Output) : Bool := output.consumer != .listening || output.hasRoom

def push (output : Output) (event : GossipEvent) : Output :=
  { output with queue := output.queue ++ [event], promised := false }

end Output

instance decidableEqExcept {ε α : Type} [DecidableEq ε] [DecidableEq α] : DecidableEq (Except ε α)
  | .error a, .error b => decidable_of_iff (a = b) (by simp)
  | .ok a, .ok b => decidable_of_iff (a = b) (by simp)
  | .error _, .ok _ => isFalse (by simp)
  | .ok _, .error _ => isFalse (by simp)

inductive Phase where
  | processing
  | holding (event : GossipEvent)
  /-- After a failure: what is queued, or still sent by permit, is only released. -/
  | draining (error : IntakeError) (abandoned : UInt64)
  | finished (result : Except IntakeError Report)
  | crashed
deriving DecidableEq

/-- A task between a bounded input queue and a bounded output queue, with the producers that hold
    ways into it and the consumer behind it. -/
structure Stage where
  intake : Intake
  node : NodeId
  queue : List Input
  reserved : Nat
  capacity : Nat
  output : Output
  phase : Phase
  report : Report
  hasHandle : Bool
  senders : Nat
  /-- Inputs that came back from a raw send and are not released yet, oldest first. -/
  rejected : List Input
  /-- Events of this generation crash the task. -/
  crashAt : Option UInt64

namespace Stage

def spawn (intake : Intake) (node : NodeId) (inputCapacity outputCapacity : Nat)
    (crashAt : Option UInt64) : Stage where
  intake := intake.log (.stageStarted node)
  node
  queue := []
  reserved := 0
  capacity := max inputCapacity 1
  output := { capacity := max outputCapacity 1 }
  phase := .processing
  report := {}
  hasHandle := true
  senders := 0
  rejected := []
  crashAt

def hasEnded (stage : Stage) : Bool :=
  match stage.phase with
  | .finished _ | .crashed => true
  | _ => false

def isRunning (stage : Stage) : Bool := !stage.hasEnded

def accepts (stage : Stage) : Bool :=
  match stage.phase with
  | .processing | .holding _ => true
  | _ => false

def inHand? (stage : Stage) : Option GossipEvent :=
  match stage.phase with
  | .holding event => some event
  | _ => none

def result? (stage : Stage) : Option (Except IntakeError Report) :=
  match stage.phase with
  | .finished result => some result
  | .crashed => some (.error (.taskFailed "panic"))
  | _ => none

def inputEnded (stage : Stage) : Bool :=
  !stage.hasHandle && stage.senders == 0 && stage.reserved == 0

end Stage

end GossipIntake
