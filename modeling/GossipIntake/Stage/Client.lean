import GossipIntake.Stage.Task

namespace GossipIntake

inductive Sent where
  | queued
  | full
  | refused
deriving DecidableEq, Repr

def Sent.error? : Sent → Option IntakeError
  | .refused => some .stageStopped
  | .queued | .full => none

inductive Received where
  | event (event : GossipEvent)
  | empty
  | closed
  | gone
deriving DecidableEq

namespace Stage

def hasRoom (stage : Stage) : Bool := stage.queue.length + stage.reserved < stage.capacity

def offer (stage : Stage) (input : Input) : Sent × Stage :=
  if stage.accepts then
    if stage.hasRoom then (.queued, { stage with queue := stage.queue ++ [input] })
    else (.full, stage)
  else (.refused, stage)

def enter (stage : Stage) (peer : NodeId) : Stage := { stage with intake := stage.intake.enter peer }

def exit (stage : Stage) (peer : NodeId) : Stage := { stage with intake := stage.intake.exit peer }

def resetAccounting (stage : Stage) : Stage :=
  { stage with intake := { stage.intake with accounting := stage.intake.accounting.reset } }

def release (stage : Stage) : Input → Stage
  | .event event => stage.exit event.sender
  | _ => stage

def submit (stage : Stage) (event : GossipEvent) : Sent × Stage :=
  match stage.offer (.event event) with
  | (.refused, same) => (.refused, same.release (.event event))
  | sent => sent

def submitAdvance (stage : Stage) (generation : UInt64) : Sent × Stage :=
  stage.offer (.advance generation)

def submitClear (stage : Stage) : Sent × Stage := stage.offer .clear

def sendRaw (stage : Stage) (input : Input) : Sent × Stage :=
  match stage.offer input with
  | (.refused, same) => (.refused, { same with rejected := same.rejected ++ [input] })
  | sent => sent

def releaseRejected? (stage : Stage) : Option Stage :=
  match stage.rejected with
  | [] => none
  | input :: rest => some ({ stage with rejected := rest }.release input)

def reserve (stage : Stage) : Sent × Stage :=
  if stage.accepts then
    if stage.hasRoom then (.queued, { stage with reserved := stage.reserved + 1 })
    else (.full, stage)
  else (.refused, stage)

/-- Send by a permit, if there is one. A task that has ended loses the input. -/
def sendReserved? (stage : Stage) (input : Input) : Option Stage :=
  match stage.reserved with
  | 0 => none
  | reserved + 1 =>
    some (if stage.hasEnded then { stage with reserved }
      else { stage with reserved, queue := stage.queue ++ [input] })

def dropReserved? (stage : Stage) : Option Stage :=
  match stage.reserved with
  | 0 => none
  | reserved + 1 => some { stage with reserved }

def holdSender? (stage : Stage) : Option Stage :=
  if stage.hasHandle then some { stage with senders := stage.senders + 1 } else none

def dropSender? (stage : Stage) : Option Stage :=
  match stage.senders with
  | 0 => none
  | senders + 1 => some { stage with senders }

def dropHandle (stage : Stage) : Stage := { stage with hasHandle := false }

/-- The consumer leaves these events in the output queue. A slot that it frees in a full queue is set
    aside for the event in hand, if there is one and the consumer listens. -/
def leave (stage : Stage) (rest : List GossipEvent) : Stage :=
  let waiting :=
    stage.output.consumer == .listening && stage.inHand?.isSome && !stage.output.hasRoom
  { stage with
    output := { stage.output with queue := rest, promised := stage.output.promised || waiting } }

/-- A consumer that has closed the output waits for a slot that is set aside. -/
def receive (stage : Stage) : Received × Stage :=
  match stage.output.consumer, stage.output.queue with
  | .gone, _ => (.gone, stage)
  | _, event :: rest => (.event event, stage.leave rest)
  | .closed, [] => (if stage.output.promised then .empty else .closed, stage)
  | .listening, [] => (if stage.hasEnded then .closed else .empty, stage)

def receiveAll (stage : Stage) : List GossipEvent × Stage :=
  match stage.output.queue with
  | [] => ([], stage)
  | events => (events, stage.leave [])

def closeOutput (stage : Stage) : Stage :=
  match stage.output.consumer with
  | .listening => { stage with output := { stage.output with consumer := .closed } }
  | _ => stage

def dropOutput (stage : Stage) : Stage :=
  { stage with output := { stage.output with queue := [], consumer := .gone } }

/-- Take what the task has forwarded and let it run on, for as long as that leaves less work. -/
def drain (stage : Stage) : List GossipEvent × Stage :=
  let taken := stage.receiveAll
  let next := taken.2.settle
  if next.pendingWork < stage.pendingWork then
    let rest := next.drain
    (taken.1 ++ rest.1, rest.2)
  else (taken.1, next)
termination_by stage.pendingWork

def shutdown (stage : Stage) : List GossipEvent × Stage :=
  drain (settle { stage with hasHandle := false, senders := 0, reserved := 0 })

end Stage

end GossipIntake
